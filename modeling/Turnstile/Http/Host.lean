import Turnstile.Text.Cut

namespace Turnstile.Http

/-!
# Hosts

What an address may name as its host.

* `isHostName` — a name, of letters, digits, marks and percent signs;
* `isHostNumber` — a number of eight groups of hexadecimal digits, where `::` stands for the groups
  that are left out and the last two groups may be four bytes in decimal;
* `isLaterNumber` — a number of a form that is yet to be laid down, behind its version;
* `isHost` — any of them, with or without a port; the two kinds of number stand between brackets.
-/

/-- A hexadecimal digit. -/
def isHexDigit (c : CodePoint) : Bool :=
  let n := c.toNat
  c.isDigit || (0x61 ≤ n && n ≤ 0x66) || (0x41 ≤ n && n ≤ 0x46)

/-! ### Names -/

/-- The characters other than letters and digits that stand for themselves in a host. -/
def hostMarks : List CodePoint := (Text.toList "-._~!$&'()*+,;=")

/-- A character that stands for itself in a host. -/
def isHostChar (c : CodePoint) : Bool :=
  c.isAlphanum || hostMarks.contains c

/-- The name of a host.  A percent sign may stand anywhere in it, whatever follows. -/
def isHostName (cs : List CodePoint) : Bool :=
  !cs.isEmpty && cs.all fun c => isHostChar c || c = '%'

/-! ### Numbers -/

/-- The number that decimal digits write. -/
def ofDigits (cs : List CodePoint) : Nat :=
  cs.foldl (fun n c => 10 * n + (c.toNat - 48)) 0

/-- A byte in decimal, without zeros in front. -/
def isDecimalByte (cs : List CodePoint) : Bool :=
  !cs.isEmpty && cs.all CodePoint.isDigit && (cs.head? != some (.char '0') || cs.length = 1) &&
    ofDigits cs ≤ 255

/-- Four bytes in decimal between full stops. -/
def isQuad (cs : List CodePoint) : Bool :=
  let bytes := Text.fields '.' cs
  bytes.length = 4 && bytes.all isDecimalByte

/-- One group of a number: one to four hexadecimal digits. -/
def isGroup (cs : List CodePoint) : Bool :=
  !cs.isEmpty && cs.length ≤ 4 && cs.all isHexDigit

/-- How many groups these are, if all of them are groups. -/
def groups? (parts : List (List CodePoint)) : Option Nat :=
  if parts.all isGroup then some parts.length else none

/-- How many groups these are at the end of a number, where the last two may be a quad. -/
def lastGroups? (parts : List (List CodePoint)) : Option Nat :=
  match parts.getLast? with
  | some part =>
    if isQuad part then (groups? parts.dropLast).map (· + 2) else groups? parts
  | none => some 0

/-- The parts of a text between its colons; an empty text has none. -/
def colonParts (cs : List CodePoint) : List (List CodePoint) :=
  if cs.isEmpty then [] else Text.fields ':' cs

/-- The text before and the text after the first two colons that stand together. -/
def cutAtGap? : List CodePoint → Option (List CodePoint × List CodePoint)
  | .char ':' :: .char ':' :: cs => some ([], cs)
  | c :: cs => (cutAtGap? cs).map fun sides => (c :: sides.1, sides.2)
  | [] => none

/-- A number of eight groups, or of fewer around one gap. -/
def isHostNumber (cs : List CodePoint) : Bool :=
  match cutAtGap? cs with
  | none => lastGroups? (colonParts cs) = some 8
  | some (left, right) =>
    -- the gap stands for one group at least
    match groups? (colonParts left), lastGroups? (colonParts right) with
    | some before, some behind => before + behind ≤ 7
    | _, _ => false

/-- A number of a later form: a small `v`, the version in hexadecimal, a full stop and the number
    itself. -/
def isLaterNumber (cs : List CodePoint) : Bool :=
  match Text.cut? '.' cs with
  | some (.char 'v' :: version, number) =>
    !version.isEmpty && version.all isHexDigit &&
      !number.isEmpty && number.all fun c => isHostChar c || c = ':'
  | _ => false

/-! ### Hosts and ports -/

/-- The number of a port in decimal, which may start with zeros. -/
def isPort (cs : List CodePoint) : Bool :=
  !cs.isEmpty && cs.all CodePoint.isDigit && ofDigits cs ≤ 65535

/-- What may follow a host: nothing, or a colon and a port. -/
def isPortEnding : List CodePoint → Bool
  | [] => true
  | .char ':' :: port => isPort port
  | _ => false

/-- The text names a host: by a name, or by a number between brackets; a port may follow. -/
def isHost (text : Text) : Bool :=
  match text.toList with
  | .char '[' :: cs =>
    match Text.cut? ']' cs with
    | some (number, ending) =>
      (isHostNumber number || isLaterNumber number) && isPortEnding ending
    | none => false
  | cs =>
    isHostName (cs.takeWhile (· != .char ':')) && isPortEnding (cs.dropWhile (· != .char ':'))

end Turnstile.Http
