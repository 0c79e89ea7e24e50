import Turnstile.Text

namespace Turnstile.Base64

/-!
# Base64

The standard alphabet, read strictly.

* `encode` — four symbols for every three bytes, padded at the end;
* `decode?` — the bytes of a text of symbols with its padding at the end;
* `padFits` — how much padding may follow how many symbols.
-/

/-- The symbol of a number below 64. -/
def symbol (n : Nat) : CodePoint :=
  if n < 26 then CodePoint.ofNat (65 + n)
  else if n < 52 then CodePoint.ofNat (97 + (n - 26))
  else if n < 62 then CodePoint.ofNat (48 + (n - 52))
  else if n = 62 then .char '+'
  else .char '/'

/-- The number that a symbol stands for; `none` outside the alphabet. -/
def value? (c : CodePoint) : Option Nat :=
  let n := c.toNat
  if 65 ≤ n ∧ n ≤ 90 then some (n - 65)
  else if 97 ≤ n ∧ n ≤ 122 then some (n - 97 + 26)
  else if 48 ≤ n ∧ n ≤ 57 then some (n - 48 + 52)
  else if c = '+' then some 62
  else if c = '/' then some 63
  else none

/-- Three bytes are written as four symbols; one or two bytes at the end as two or three symbols
    filled up with padding. -/
def encode : List UInt8 → List CodePoint
  | [] => []
  | [a] => [symbol (a.toNat / 4), symbol (a.toNat % 4 * 16), '=', '=']
  | [a, b] =>
    [symbol (a.toNat / 4), symbol (a.toNat % 4 * 16 + b.toNat / 16), symbol (b.toNat % 16 * 4), '=']
  | a :: b :: c :: bytes =>
    symbol (a.toNat / 4) :: symbol (a.toNat % 4 * 16 + b.toNat / 16) ::
      symbol (b.toNat % 16 * 4 + c.toNat / 64) :: symbol (c.toNat % 64) :: encode bytes

/-- The bytes that numbers of six bits make up; bits that fill no byte at the end are dropped. -/
def pack : List Nat → List UInt8
  | a :: b :: c :: d :: rest =>
    UInt8.ofNat (a * 4 + b / 16) :: UInt8.ofNat (b % 16 * 16 + c / 4) ::
      UInt8.ofNat (c % 4 * 64 + d) :: pack rest
  | [a, b, c] => [UInt8.ofNat (a * 4 + b / 16), UInt8.ofNat (b % 16 * 16 + c / 4)]
  | [a, b] => [UInt8.ofNat (a * 4 + b / 16)]
  | _ => []

/-- Two or three symbols left over need exactly the padding that makes them four, a single one can
    not be completed, and complete groups of four may be followed by any padding; a text may not
    consist of padding alone. -/
def padFits (symbols pads : Nat) : Bool :=
  match symbols % 4 with
  | 0 => symbols ≠ 0 || pads = 0
  | 1 => false
  | 2 => pads = 2
  | _ => pads = 1

/-- The bytes of a base64 text; `none` when a character is outside the alphabet, padding stands
    before a symbol, or its amount does not fit. -/
def decode? (cs : List CodePoint) : Option (List UInt8) :=
  let symbols := cs.takeWhile (· != .char '=')
  let pads := cs.dropWhile (· != .char '=')
  if pads.all (· == .char '=') && padFits symbols.length pads.length then
    (symbols.mapM value?).map pack
  else none

end Turnstile.Base64
