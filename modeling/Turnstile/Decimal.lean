import Turnstile.Text

namespace Turnstile

/-!
# Decimals

The decimal that stands for a binary number in text: of all decimals that read back as the number,
one with the fewest digits, and of those the nearest.

* `Binary` — a positive number in binary, with the bounds of what reads back as it;
* `Binary.shortest` — the decimal that stands for it;
* `Decimal.text`, `Decimal.ofFloat` — how a decimal and a floating-point number are written.
-/

/-! ### Binary numbers -/

/-- The number `mantissa * 2 ^ exponent`.  A number at the lower end of its binade is `low`: its
    neighbour below is half as far away as the one above. -/
structure Binary where
  mantissa : Nat
  exponent : Int
  low : Bool

/-- A number given as a quotient. -/
structure Quotient where
  num : Nat
  den : Nat

/-- The quotient is at most the other one. -/
def Quotient.le (a b : Quotient) : Bool :=
  a.num * b.den ≤ b.num * a.den

/-- The quotient is less than the other one. -/
def Quotient.lt (a b : Quotient) : Bool :=
  a.num * b.den < b.num * a.den

/-- The number `n * base ^ e` as a quotient. -/
def Quotient.scaled (n base : Nat) (e : Int) : Quotient :=
  ⟨n * base.pow e.toNat, base.pow (-e).toNat⟩

namespace Binary

/-- The absolute value of a finite floating-point number, from its bits. -/
def ofBits (bits : UInt64) : Binary :=
  let fraction : Nat := bits.toNat % Nat.pow 2 52
  let biased : Nat := bits.toNat / Nat.pow 2 52 % Nat.pow 2 11
  if biased = 0 then ⟨fraction, -1074, false⟩
  else ⟨fraction + Nat.pow 2 52, (biased : Int) - 1075, fraction == 0 && biased != 1⟩

/-- The number itself. -/
def value (x : Binary) : Quotient :=
  .scaled x.mantissa 2 x.exponent

/-- The middle between the number and its neighbour above. -/
def above (x : Binary) : Quotient :=
  .scaled (2 * x.mantissa + 1) 2 (x.exponent - 1)

/-- The middle between the number and its neighbour below. -/
def below (x : Binary) : Quotient :=
  if x.low then .scaled (4 * x.mantissa - 1) 2 (x.exponent - 2)
  else .scaled (2 * x.mantissa - 1) 2 (x.exponent - 1)

/-- A number reads back as this one: it lies between the two middles, which count when the mantissa
    is even. -/
def covers (x : Binary) (q : Quotient) : Bool :=
  if x.mantissa % 2 = 0 then x.below.le q && q.le x.above else x.below.lt q && q.lt x.above

end Binary

/-! ### Decimals -/

/-- The number `digits * 10 ^ exponent`. -/
structure Decimal where
  digits : Nat
  exponent : Int
  deriving DecidableEq, Repr

namespace Decimal

/-- A decimal as a quotient. -/
def value (d : Decimal) : Quotient :=
  .scaled d.digits 10 d.exponent

/-- A decimal without zeros at the end of its digits, of which at most `count` are dropped. -/
def stripped : Nat → Decimal → Decimal
  | 0, d => d
  | count + 1, d =>
    if d.digits % 10 = 0 then stripped count ⟨d.digits / 10, d.exponent + 1⟩ else d

end Decimal

namespace Binary

/-- The decimal with the given exponent next to the number that reads back as it, if one does; of
    the two neighbours the nearer one comes first, and of two equally near the even one. -/
def nearest? (x : Binary) (exponent : Int) : Option Decimal :=
  let v := x.value
  let unit := Quotient.scaled 1 10 exponent
  -- the number in units of the last digit
  let num := v.num * unit.den
  let den := v.den * unit.num
  let below : Decimal := ⟨num / den, exponent⟩
  let above : Decimal := ⟨num / den + 1, exponent⟩
  let rest := 2 * (num % den)
  let isLower := rest < den || (rest == den && below.digits % 2 == 0)
  let ordered := if isLower then [below, above] else [above, below]
  ordered.find? fun d => x.covers d.value

/-- The number of digits in front of the point, less the zeros behind the point in front of the
    first digit. -/
def magnitude (x : Binary) : Int :=
  let v := x.value
  if v.den ≤ v.num then (Nat.toDigits 10 (v.num / v.den)).length
  else
    let zeros := (List.range 400).find? fun k => decide (v.den ≤ v.num * Nat.pow 10 (k + 1))
    Int.negOfNat (zeros.getD 0)

/-- The decimal that stands for a number; seventeen digits always suffice. -/
def shortest (x : Binary) : Decimal :=
  let found := (List.range 17).findSome? fun (k : Nat) => x.nearest? (x.magnitude - (k + 1))
  Decimal.stripped 17 (found.getD ⟨0, 0⟩)

end Binary

/-! ### Text -/

namespace Decimal

/-- An exponent: its sign and at least two digits. -/
def exponentText (e : Int) : List CodePoint :=
  let digits := Text.digits 10 e.natAbs
  (if e < 0 then .char '-' else .char '+') ::
    List.replicate (2 - digits.length) (.char '0') ++ digits

/-- A decimal in text.  Numbers from one ten-thousandth up to below ten to the sixteenth are written
    positionally, with a digit on both sides of the point, and all others by powers of ten. -/
def text (d : Decimal) : Text :=
  let digits := Text.digits 10 d.digits
  let point : Int := digits.length + d.exponent
  Text.ofList <|
    if -4 < point ∧ point ≤ 16 then
      if point ≤ 0 then
        .char '0' :: .char '.' :: List.replicate (-point).toNat (.char '0') ++ digits
      else
        let whole := digits.take point.toNat
        let zeros := List.replicate (point.toNat - whole.length) (.char '0')
        let fraction := digits.drop point.toNat
        whole ++ zeros ++ .char '.' :: (if fraction.isEmpty then [.char '0'] else fraction)
    else
      let fraction := digits.drop 1
      digits.take 1 ++ (if fraction.isEmpty then [] else .char '.' :: fraction) ++
        .char 'e' :: exponentText (point - 1)

/-- A floating-point number in text. -/
def ofFloat (x : Float) : Text :=
  let bits := x.toBits
  let sign : Text := if bits.toNat / Nat.pow 2 63 = 1 then "-" else ""
  if x.isNaN then "nan"
  else if x.isInf then sign ++ "inf"
  else if bits.toNat % Nat.pow 2 63 = 0 then sign ++ "0.0"
  else sign ++ (Binary.ofBits bits).shortest.text

end Decimal

end Turnstile
