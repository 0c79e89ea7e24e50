import Turnstile.Text.Quoted

namespace Turnstile.Charset

/-!
# Writing texts as bytes

* `Writer` — how a charset writes single characters;
* `Unencodable` — the characters that a charset lacks, with their place;
* `Writer.encode` — the bytes of a text, or the first characters in it that have none.
-/

/-- How a charset writes its characters, and what it says of those that it lacks. -/
structure Writer where
  /-- The name that stands in messages. -/
  codec : Text
  /-- Why a character is lacking. -/
  complaint : Text
  /-- Characters that are lacking one behind the other are reported together. -/
  inRuns : Bool
  write? : CodePoint → Option (List UInt8)

/-- Characters in a row that a charset lacks, `first` being the first of them. -/
structure Unencodable where
  codec : Text
  complaint : Text
  position : Nat
  first : CodePoint
  length : Nat
  deriving DecidableEq, Repr

/-- The characters in words: one by its escape, several by their first and last position. -/
def Unencodable.message (u : Unencodable) : Text :=
  if u.length = 1 then
    let shown := Text.ofList (Text.escapeCode u.first)
    "'" ++ u.codec ++ "' codec can't encode character '" ++ shown ++ "' in position " ++
      Text.ofNat u.position ++ ": " ++ u.complaint
  else
    let last := u.position + u.length - 1
    "'" ++ u.codec ++ "' codec can't encode characters in position " ++ Text.ofNat u.position ++
      "-" ++ Text.ofNat last ++ ": " ++ u.complaint

namespace Writer

/-- A character that the charset lacks. -/
def lacks (w : Writer) (c : CodePoint) : Bool :=
  (w.write? c).isNone

/-- What is reported of a lacking character at `position`, with the text behind it. -/
def report (w : Writer) (position : Nat) (c : CodePoint) (cs : List CodePoint) : Unencodable where
  codec := w.codec
  complaint := w.complaint
  position := position
  first := c
  length := if w.inRuns then 1 + (cs.takeWhile w.lacks).length else 1

/-- The bytes of a text whose first character stands at `position`. -/
def encodeFrom (w : Writer) (position : Nat) :
    List CodePoint → Except Unencodable (List UInt8)
  | [] => .ok []
  | c :: cs =>
    match w.write? c with
    | some bytes => (bytes ++ ·) <$> w.encodeFrom (position + 1) cs
    | none => .error (w.report position c cs)

/-- The bytes of a text, or the first characters in it that the charset lacks. -/
def encode (w : Writer) (cs : List CodePoint) : Except Unencodable (List UInt8) :=
  w.encodeFrom 0 cs

end Writer

end Turnstile.Charset
