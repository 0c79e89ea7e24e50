import Turnstile.Charset.Writer

namespace Turnstile.Charset

/-!
# Charsets of one byte a character

* `Repertoire` — Latin-1, ASCII and Windows-1252;
* `Repertoire.char?`, `Repertoire.byte?` — the character of a byte and the byte of a character;
* `Repertoire.encode` — the bytes of a text, or the first run of characters that have none.
-/

/-- A charset that writes each of its characters as one byte. -/
inductive Repertoire
  | latin1
  | ascii
  | windows1252
  deriving DecidableEq, Repr

/-- The characters of Windows-1252 for the bytes from `80` to `9F`; five of them have none. -/
def windowsBlock : List (Option Nat) :=
  [some 0x20AC, none, some 0x201A, some 0x0192, some 0x201E, some 0x2026, some 0x2020, some 0x2021,
   some 0x02C6, some 0x2030, some 0x0160, some 0x2039, some 0x0152, none, some 0x017D, none,
   none, some 0x2018, some 0x2019, some 0x201C, some 0x201D, some 0x2022, some 0x2013, some 0x2014,
   some 0x02DC, some 0x2122, some 0x0161, some 0x203A, some 0x0153, none, some 0x017E, some 0x0178]

/-- The character that a byte stands for. -/
def Repertoire.char? (r : Repertoire) (b : UInt8) : Option CodePoint :=
  match r with
  | .latin1 => some (CodePoint.ofNat b.toNat)
  | .ascii => if b < 0x80 then some (CodePoint.ofNat b.toNat) else none
  | .windows1252 =>
    if b < 0x80 ∨ 0xA0 ≤ b then some (CodePoint.ofNat b.toNat)
    else ((windowsBlock[b.toNat - 0x80]?).join).map CodePoint.ofNat

/-- The byte that a character is written as. -/
def Repertoire.byte? (r : Repertoire) (c : CodePoint) : Option UInt8 :=
  let n := c.toNat
  match r with
  | .latin1 => if n < 0x100 then some (UInt8.ofNat n) else none
  | .ascii => if n < 0x80 then some (UInt8.ofNat n) else none
  | .windows1252 =>
    if n < 0x80 ∨ (0xA0 ≤ n ∧ n < 0x100) then some (UInt8.ofNat n)
    else (windowsBlock.idxOf? (some n)).map fun i => UInt8.ofNat (0x80 + i)

/-- The text that bytes write; `none` when a byte stands for no character. -/
def Repertoire.decode? (r : Repertoire) (bytes : List UInt8) : Option (List CodePoint) :=
  bytes.mapM r.char?

/-- The name under which a repertoire reports a character that it lacks. -/
def Repertoire.reportName : Repertoire → Text
  | .latin1 => "latin-1"
  | .ascii => "ascii"
  | .windows1252 => "charmap"

/-- Why a character is outside a repertoire. -/
def Repertoire.complaint : Repertoire → Text
  | .latin1 => "ordinal not in range(256)"
  | .ascii => "ordinal not in range(128)"
  | .windows1252 => "character maps to <undefined>"

/-- Writing in a repertoire. -/
def Repertoire.writer (r : Repertoire) : Writer where
  codec := r.reportName
  complaint := r.complaint
  inRuns := true
  write? := fun c => (r.byte? c).map fun b => [b]

/-- The bytes of a text, or its first run of characters outside the repertoire. -/
def Repertoire.encode (r : Repertoire) (cs : List CodePoint) : Except Unencodable (List UInt8) :=
  r.writer.encode cs

end Turnstile.Charset
