import Turnstile.Charset.Utf8

namespace Turnstile.Charset.Utf16

/-!
# UTF-16

* `Order` — which of the two bytes of a unit comes first;
* `units`, `ofUnits?` — between characters and units of sixteen bits;
* `encode`, `decode?` — between characters and bytes in a given order;
* `orderOfMark` — the order that a byte-order mark announces.
-/

/-- Which byte of a unit comes first. -/
inductive Order
  | little
  | big
  deriving DecidableEq, Repr

/-- The units of one character: one, or a high and a low surrogate. -/
def units (c : CodePoint) : List Nat :=
  let n := c.toNat
  if n < 0x10000 then [n]
  else [0xD800 + (n - 0x10000) / 0x400, 0xDC00 + (n - 0x10000) % 0x400]

/-- The bytes of one unit. -/
def unitBytes (order : Order) (u : Nat) : List UInt8 :=
  match order with
  | .little => [UInt8.ofNat (u % 0x100), UInt8.ofNat (u / 0x100)]
  | .big => [UInt8.ofNat (u / 0x100), UInt8.ofNat (u % 0x100)]

/-- The byte-order mark in little-endian order. -/
def mark : List UInt8 := [0xFF, 0xFE]

/-- Writing in UTF-16 in a given order; `codec` is the name under which a half of a surrogate pair
    is reported, each on its own. -/
def writer (codec : Text) (order : Order) : Writer where
  codec := codec
  complaint := Utf8.complaint
  inRuns := false
  write? := fun c => if c.isSurrogate then none else some ((units c).flatMap (unitBytes order))

/-- The name of UTF-16 in a given order. -/
def Order.codec : Order → Text
  | .little => "utf-16-le"
  | .big => "utf-16-be"

/-- The bytes of a text in a given order. -/
def encode (order : Order) (cs : List CodePoint) : Except Unencodable (List UInt8) :=
  (writer order.codec order).encode cs

/-- The bytes of a text behind a byte-order mark. -/
def encodeMarked (cs : List CodePoint) : Except Unencodable (List UInt8) :=
  (mark ++ ·) <$> (writer "utf-16" .little).encode cs

/-- The units that bytes make up; `none` for an odd number of bytes. -/
def unitsOf? (order : Order) : List UInt8 → Option (List Nat)
  | [] => some []
  | [_] => none
  | a :: b :: bytes =>
    let unit := match order with
      | .little => b.toNat * 0x100 + a.toNat
      | .big => a.toNat * 0x100 + b.toNat
    (unit :: ·) <$> unitsOf? order bytes

/-- The text that units write; `none` for a surrogate outside a pair of a high and a low one. -/
def ofUnits? : List Nat → Option (List CodePoint)
  | [] => some []
  | [u] => if 0xD800 ≤ u ∧ u < 0xE000 then none else some [CodePoint.ofNat u]
  | u :: v :: us =>
    if 0xD800 ≤ u ∧ u < 0xDC00 then
      if 0xDC00 ≤ v ∧ v < 0xE000 then
        (CodePoint.ofNat (0x10000 + (u - 0xD800) * 0x400 + (v - 0xDC00)) :: ·) <$> ofUnits? us
      else none
    else if 0xDC00 ≤ u ∧ u < 0xE000 then none
    else (CodePoint.ofNat u :: ·) <$> ofUnits? (v :: us)

/-- The text that bytes write in a given order. -/
def decode? (order : Order) (bytes : List UInt8) : Option (List CodePoint) :=
  unitsOf? order bytes >>= ofUnits?

/-- The order that a mark in front announces and the bytes after it; without a mark the low byte
    comes first. -/
def orderOfMark : List UInt8 → Order × List UInt8
  | 0xFF :: 0xFE :: bytes => (.little, bytes)
  | 0xFE :: 0xFF :: bytes => (.big, bytes)
  | bytes => (.little, bytes)

end Turnstile.Charset.Utf16
