import Turnstile.Text.Quoted

namespace Turnstile.Charset.Escaped

/-!
# Latin-1 with escapes

Characters up to `U+00FF` are single bytes, and all others, halves of surrogate pairs among them,
are written by their number: a backslash, the letter `u` and four hexadecimal digits, or the letter
`U` and eight.  A backslash in front of anything else stands for itself.

* `encode` — the bytes of a text, which always has some;
* `decode?` — the text of bytes, unless an escape breaks off or leads beyond the last code point.
-/

/-- The bytes of one character. -/
def encodeChar (c : CodePoint) : List UInt8 :=
  if c.toNat ≤ 0xFF then [UInt8.ofNat c.toNat]
  else (Text.escapeCode c).map fun d => UInt8.ofNat d.toNat

/-- The bytes of a text. -/
def encode (cs : List CodePoint) : List UInt8 :=
  cs.flatMap encodeChar

/-- What the decoder knows: nothing, that a backslash is behind it, or that it is inside an escape
    with so many digits to come behind the next one, `value` being what the digits so far write. -/
inductive Inside
  | plain
  | backslash
  | escape (value missing : Nat)

/-- The value of a hexadecimal digit. -/
def hexValue? (b : UInt8) : Option Nat :=
  let n := b.toNat
  if 0x30 ≤ n ∧ n ≤ 0x39 then some (n - 0x30)
  else if 0x41 ≤ n ∧ n ≤ 0x46 then some (n - 0x41 + 10)
  else if 0x61 ≤ n ∧ n ≤ 0x66 then some (n - 0x61 + 10)
  else none

/-- The character of a byte. -/
def ofByte (b : UInt8) : CodePoint :=
  CodePoint.ofNat b.toNat

/-- The text that bytes write from some point on. -/
def decodeFrom? : Inside → List UInt8 → Option (List CodePoint)
  | .plain, [] => some []
  | .backslash, [] => some [.char '\\']
  | .escape _ _, [] => none
  | .plain, b :: bytes =>
    if b = 0x5C then decodeFrom? .backslash bytes else (ofByte b :: ·) <$> decodeFrom? .plain bytes
  | .backslash, b :: bytes =>
    if b = 0x75 then decodeFrom? (.escape 0 3) bytes
    else if b = 0x55 then decodeFrom? (.escape 0 7) bytes
    else (.char '\\' :: ofByte b :: ·) <$> decodeFrom? .plain bytes
  | .escape value missing, b :: bytes =>
    match hexValue? b with
    | none => none
    | some digit =>
      let value := value * 0x10 + digit
      match missing with
      | missing + 1 => decodeFrom? (.escape value missing) bytes
      | 0 =>
        if value < 0x110000 then (CodePoint.ofNat value :: ·) <$> decodeFrom? .plain bytes else none

/-- The text that bytes write. -/
def decode? (bytes : List UInt8) : Option (List CodePoint) :=
  decodeFrom? .plain bytes

end Turnstile.Charset.Escaped
