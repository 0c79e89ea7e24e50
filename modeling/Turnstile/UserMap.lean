import Turnstile.Account
import Turnstile.Text.Blank
import Turnstile.Text.Cut
import Turnstile.Text.Lines
import Turnstile.Text.Lower

namespace Turnstile.UserMap

/-!
# User maps

A user map is a text with one account a line: `username=password`, then any number of attributes
after commas.  An attribute is the word `enabled` or `disabled` in any letter case, or a role.
Blanks around each part do not count; empty lines and lines that start with `#` are skipped.

* `Standing` — the status and the roles, read off one attribute after another;
* `accountOfLine` — the account that one line gives;
* `parse` — the accounts of a text in the order of its lines, or its first faulty line.
-/

/-- What is wrong with a line. -/
inductive Problem
  /-- There is no `=`, or nothing before it. -/
  | noUsername
  /-- Nothing stands between the `=` and the next comma. -/
  | noPassword (username : Text)
  deriving DecidableEq, Repr

/-- A faulty line, counted from one, and what is wrong with it. -/
structure LineError where
  line : Nat
  problem : Problem
  deriving DecidableEq, Repr

/-- The error in words. -/
def LineError.message (e : LineError) : Text :=
  match e.problem with
  | .noUsername =>
    "Line " ++ Text.ofNat e.line ++ ": expected 'username=password[,ROLE...]'"
  | .noPassword username =>
    "Line " ++ Text.ofNat e.line ++ ": password for '" ++ username ++ "' must not be empty"

/-- The status that an attribute sets: `some true` for the word "enabled", `some false` for the word
    "disabled", whatever the case of their letters, and `none` for a role. -/
def status? (token : List CodePoint) : Option Bool :=
  let word := Text.lower token
  if word = Text.toList "enabled" then some true
  else if word = Text.toList "disabled" then some false
  else none

/-- The status and the roles that have been read. -/
structure Standing where
  enabled : Bool := true
  roles : List (List CodePoint) := []

namespace Standing

/-- Reads one more attribute, which is trimmed. -/
def read (s : Standing) (token : List CodePoint) : Standing :=
  if token.isEmpty then s
  else match status? token with
    | some enabled => { s with enabled := enabled }
    | none => { s with roles := s.roles ++ [token] }

/-- Reads attributes one after another. -/
def readAll (s : Standing) (tokens : List (List CodePoint)) : Standing :=
  tokens.foldl read s

end Standing

/-- A line that gives no account: empty, or a comment. -/
def isSkipped (line : List CodePoint) : Bool :=
  line.isEmpty || line.head? == some (.char '#')

/-- The account that a trimmed line gives, or what is wrong with it. -/
def accountOfLine (line : List CodePoint) : Except Problem Account :=
  match Text.cut? '=' line with
  | none => .error .noUsername
  | some (name, rest) =>
    let username := Text.trim name
    if username.isEmpty then .error .noUsername
    else
      let parts := (Text.fields ',' rest).map Text.trim
      let password := parts.headD []
      if password.isEmpty then .error (.noPassword (Text.ofList username))
      else
        let standing := Standing.readAll {} parts.tail
        .ok
          { username := Text.ofList username
            password := Text.ofList password
            roles := standing.roles.map Text.ofList
            enabled := standing.enabled }

/-- The accounts of lines of which the first has the given number. -/
def parseLines (number : Nat) : List (List CodePoint) → Except LineError (List Account)
  | [] => .ok []
  | raw :: lines =>
    let line := Text.trim raw
    if isSkipped line then parseLines (number + 1) lines
    else match accountOfLine line with
      | .error problem => .error ⟨number, problem⟩
      | .ok account => (account :: ·) <$> parseLines (number + 1) lines

/-- The accounts of a user map. -/
def parse (text : Text) : Except LineError (List Account) :=
  parseLines 1 (Text.splitLines text.toList)

end Turnstile.UserMap
