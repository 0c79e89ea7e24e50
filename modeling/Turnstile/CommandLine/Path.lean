import Turnstile.Fault

namespace Turnstile.CommandLine

/-!
# Paths

* `Path` — a path in its normal form, with `Path.ofText` and `Path.text`;
* `Found` — what a path leads to.
-/

/-- A path: the slashes in front of it, none for one below the working directory, and its parts. -/
structure Path where
  root : Text
  parts : List Text
  deriving DecidableEq, Repr

/-- The slashes in front of a path that count: exactly two are kept, any other number above none
    is one. -/
def rootOf (cs : List CodePoint) : Text :=
  match (cs.takeWhile (· == .char '/')).length with
  | 0 => ""
  | 2 => "//"
  | _ => "/"

/-- The path that a text writes; empty parts and single dots do not count. -/
def Path.ofText (s : Text) : Path where
  root := rootOf s.toList
  parts := ((Text.fields '/' s.toList).map Text.ofList).filter fun p => p != "" && p != "."

/-- A path as it is written; one without anything is a dot. -/
def Path.text (p : Path) : Text :=
  if p.root = "" ∧ p.parts = [] then "." else p.root ++ Text.intercalate "/" p.parts

/-- What a path leads to. -/
inductive Found
  /-- A file with its bytes, unless they can not be read. -/
  | file (content : Except Fault (List UInt8))
  /-- No file: nothing at all, or a directory. -/
  | nothing
  /-- The path can not be followed. -/
  | failed (fault : Fault)

end Turnstile.CommandLine
