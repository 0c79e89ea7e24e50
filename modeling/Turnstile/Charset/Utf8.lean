import Turnstile.Charset.Writer

namespace Turnstile.Charset.Utf8

/-!
# UTF-8

* `encode` — one to four bytes for each character, and none for half a surrogate pair;
* `clip` — as much of a text as fits into a number of bytes;
* `decode` — the characters of a sequence of bytes, or the first place where it is not UTF-8;
* `Malformed` — that place, with the reason.

The decoder reads byte by byte.  `Partial` is what it knows inside a character: how many bytes are
still to come and which values the next one may have, so that overlong forms, surrogates and numbers
beyond the last code point are refused at their second byte.
-/

/-- A byte that carries the six low bits of a number. -/
def continuation (n : Nat) : UInt8 :=
  UInt8.ofNat (0x80 + n % 0x40)

/-- The bytes of the number of a character. -/
def encodeChar (c : CodePoint) : List UInt8 :=
  let n := c.toNat
  if n < 0x80 then [UInt8.ofNat n]
  else if n < 0x800 then [UInt8.ofNat (0xC0 + n / 0x40), continuation n]
  else if n < 0x10000 then
    [UInt8.ofNat (0xE0 + n / 0x1000), continuation (n / 0x40), continuation n]
  else
    [UInt8.ofNat (0xF0 + n / 0x40000), continuation (n / 0x1000), continuation (n / 0x40),
      continuation n]

/-- Why half a surrogate pair is not written. -/
def complaint : Text := "surrogates not allowed"

/-- Writing in UTF-8. -/
def writer : Writer where
  codec := "utf-8"
  complaint := complaint
  inRuns := true
  write? := fun c => if c.isSurrogate then none else some (encodeChar c)

/-- The bytes of a text, or the first halves of surrogate pairs in it. -/
def encode (cs : List CodePoint) : Except Unencodable (List UInt8) :=
  writer.encode cs

/-- As much of a text as fits into so many bytes; a character that they cut in two is replaced. -/
def clip (limit : Nat) : List CodePoint → List CodePoint
  | [] => []
  | c :: cs =>
    let size := (encodeChar c).length
    if size ≤ limit then c :: clip (limit - size) cs
    else if limit = 0 then []
    else [.char '\uFFFD']

/-- Why a sequence of bytes is not UTF-8. -/
inductive Reason
  | startByte
  | continuationByte
  | unexpectedEnd
  deriving DecidableEq, Repr

/-- The bytes `start`, …, `stop - 1` belong to no character; `byte` is the first of them. -/
structure Malformed where
  start : Nat
  stop : Nat
  byte : UInt8
  reason : Reason
  deriving DecidableEq, Repr

/-- The inside of a character whose first byte stands at `start`: the number `value` read so far,
    the count of bytes `missing` after the next one, and the bounds of the next one. -/
structure Partial where
  start : Nat
  byte : UInt8
  value : Nat
  missing : Nat
  low : UInt8
  high : UInt8

/-- What a first byte of several promises; `none` for a byte that starts no character. -/
def Partial.ofLead? (start : Nat) (b : UInt8) : Option Partial :=
  if 0xC2 ≤ b ∧ b ≤ 0xDF then some ⟨start, b, b.toNat - 0xC0, 0, 0x80, 0xBF⟩
  -- a byte below `A0` would make the form overlong
  else if b = 0xE0 then some ⟨start, b, 0, 1, 0xA0, 0xBF⟩
  -- one above `9F` would make it a surrogate
  else if b = 0xED then some ⟨start, b, 0x0D, 1, 0x80, 0x9F⟩
  else if 0xE1 ≤ b ∧ b ≤ 0xEF then some ⟨start, b, b.toNat - 0xE0, 1, 0x80, 0xBF⟩
  else if b = 0xF0 then some ⟨start, b, 0, 2, 0x90, 0xBF⟩
  -- and here one above `8F` would lead beyond the last code point
  else if b = 0xF4 then some ⟨start, b, 4, 2, 0x80, 0x8F⟩
  else if 0xF1 ≤ b ∧ b ≤ 0xF3 then some ⟨start, b, b.toNat - 0xF0, 2, 0x80, 0xBF⟩
  else none

/-- A reason in words. -/
def Reason.describe : Reason → Text
  | .startByte => "invalid start byte"
  | .continuationByte => "invalid continuation byte"
  | .unexpectedEnd => "unexpected end of data"

/-- The place in words: a single byte by its value, several by their first and last position. -/
def Malformed.message (m : Malformed) : Text :=
  let why := m.reason.describe
  if m.stop = m.start + 1 then
    let shown := Text.ofList (Text.hex 2 m.byte.toNat)
    "'utf-8' codec can't decode byte 0x" ++ shown ++ " in position " ++ Text.ofNat m.start ++
      ": " ++ why
  else
    "'utf-8' codec can't decode bytes in position " ++ Text.ofNat m.start ++ "-" ++
      Text.ofNat (m.stop - 1) ++ ": " ++ why

/-- Reads the bytes from position `pos` on, possibly inside a character. -/
def decodeFrom (pos : Nat) : Option Partial → List UInt8 → Except Malformed (List CodePoint)
  | none, [] => .ok []
  | some p, [] => .error ⟨p.start, pos, p.byte, .unexpectedEnd⟩
  | none, b :: bytes =>
    if b < 0x80 then (CodePoint.ofNat b.toNat :: ·) <$> decodeFrom (pos + 1) none bytes
    else match Partial.ofLead? pos b with
      | some p => decodeFrom (pos + 1) (some p) bytes
      | none => .error ⟨pos, pos + 1, b, .startByte⟩
  | some p, b :: bytes =>
    if p.low ≤ b ∧ b ≤ p.high then
      let value := p.value * 0x40 + (b.toNat - 0x80)
      match p.missing with
      | 0 => (CodePoint.ofNat value :: ·) <$> decodeFrom (pos + 1) none bytes
      | missing + 1 =>
        decodeFrom (pos + 1) (some ⟨p.start, p.byte, value, missing, 0x80, 0xBF⟩) bytes
    else .error ⟨p.start, pos, p.byte, .continuationByte⟩

/-- The text that a sequence of bytes writes. -/
def decode (bytes : List UInt8) : Except Malformed (List CodePoint) :=
  decodeFrom 0 none bytes

end Turnstile.Charset.Utf8
