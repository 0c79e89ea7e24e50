import Turnstile.Text.Blank

namespace Turnstile.Text

/-!
# Decimal digits and integers

* `digit?` — the value of a decimal digit of any script;
* `readInt?` — the integer that a text writes, with white space around it, a sign in front and
  single underscores between its digits.
-/

/-- The zeros of the scripts of Unicode 14; the nine other digits of a script follow its zero. -/
def zeros : List Nat :=
  [0x30, 0x660, 0x6F0, 0x7C0, 0x966, 0x9E6, 0xA66, 0xAE6, 0xB66, 0xBE6, 0xC66, 0xCE6, 0xD66,
   0xDE6, 0xE50, 0xED0, 0xF20, 0x1040, 0x1090, 0x17E0, 0x1810, 0x1946, 0x19D0, 0x1A80, 0x1A90,
   0x1B50, 0x1BB0, 0x1C40, 0x1C50, 0xA620, 0xA8D0, 0xA900, 0xA9D0, 0xA9F0, 0xAA50, 0xABF0, 0xFF10,
   0x104A0, 0x10D30, 0x11066, 0x110F0, 0x11136, 0x111D0, 0x112F0, 0x11450, 0x114D0, 0x11650,
   0x116C0, 0x11730, 0x118E0, 0x11950, 0x11C50, 0x11D50, 0x11DA0, 0x16A60, 0x16AC0, 0x16B50,
   0x1D7CE, 0x1D7D8, 0x1D7E2, 0x1D7EC, 0x1D7F6, 0x1E140, 0x1E2F0, 0x1E950, 0x1FBF0]

/-- The value of a decimal digit of any script. -/
def digit? (c : CodePoint) : Option Nat :=
  (zeros.find? fun z => z ≤ c.toNat && c.toNat ≤ z + 9).map fun z => c.toNat - z

/-- The digits of a number, where one underscore may stand between two digits. -/
def digits? : List CodePoint → Option (List Nat)
  | [] => none
  | [c] => (digit? c).map fun d => [d]
  | c :: .char '_' :: cs => do
    let d ← digit? c
    let ds ← digits? cs
    pure (d :: ds)
  | c :: cs => do
    let d ← digit? c
    let ds ← digits? cs
    pure (d :: ds)

/-- Numbers with more digits than this are not read. -/
def maxDigits : Nat := 4300

/-- The natural number that a text of decimal digits writes. -/
def readNat? (cs : List CodePoint) : Option Nat := do
  let ds ← digits? cs
  if ds.length ≤ maxDigits then some (ds.foldl (fun n d => 10 * n + d) 0) else none

/-- White space around a number: the blanks other than the four information separators. -/
def isMargin (c : CodePoint) : Bool :=
  isBlank c && !(0x1C ≤ c.toNat && c.toNat ≤ 0x1F)

/-- A text without the white space around a number. -/
def trimMargins (cs : List CodePoint) : List CodePoint :=
  ((cs.dropWhile isMargin).reverse.dropWhile isMargin).reverse

/-- The integer that a text writes: white space around it does not count, and one sign may stand
    before its digits. -/
def readInt? (cs : List CodePoint) : Option Int :=
  match trimMargins cs with
  | .char '-' :: ds => (readNat? ds).map fun n => -(n : Int)
  | .char '+' :: ds => (readNat? ds).map Int.ofNat
  | ds => (readNat? ds).map Int.ofNat

end Turnstile.Text
