import Turnstile.Fault

namespace Turnstile

/-!
# Codecs

* `Codec` — reading bytes as text and writing text as bytes;
* `Charset.codec` — the codec of a charset;
* `Coding`, `Registry` — what a label names;
* `Registry.decode`, `Registry.encode` — reading and writing under a label.

Which labels there are is up to the one who runs the program.  Of a registry the program expects
only that "utf-8" is UTF-8, and a codec may fail in any way it likes.
-/

/-- Why bytes are not read. -/
inductive ReadError
  /-- They write no text. -/
  | undecodable
  /-- Anything else. -/
  | other (fault : Fault) (h : fault.kind.isA .undecodable = false)
  deriving DecidableEq

/-- Why bytes are not read if a fault has come out. -/
def ReadError.ofFault (fault : Fault) : ReadError :=
  if h : fault.kind.isA .undecodable = false then .other fault h else .undecodable

/-- Reading bytes as text and writing text as bytes. -/
structure Codec where
  decode : List UInt8 → Except ReadError (List CodePoint)
  encode : List CodePoint → Except Fault (List UInt8)

/-- The codec of a charset. -/
def Charset.codec (charset : Charset) : Codec where
  decode := fun bytes =>
    match charset.decode? bytes with
    | some text => .ok text
    | none => .error .undecodable
  encode := fun text => (charset.encode text).mapError .unencodable

/-- What the codec of a charset reads is what the charset decodes. -/
theorem Charset.decode_codec_eq_ok_iff {charset : Charset} {bytes : List UInt8}
    {text : List CodePoint} :
    charset.codec.decode bytes = .ok text ↔ charset.decode? bytes = some text := by
  cases h : charset.decode? bytes <;> simp [Charset.codec, h]

/-- Of all other bytes it says only that they write no text. -/
theorem Charset.decode_codec_ne_other (charset : Charset) (bytes : List UInt8) (fault : Fault)
    (h : fault.kind.isA .undecodable = false) :
    charset.codec.decode bytes ≠ .error (.other fault h) := by
  cases h : charset.decode? bytes <;> simp [Charset.codec, h]

/-- What a label can name. -/
inductive Coding
  | text (codec : Codec)
  /-- A transform of bytes or of text that reads no bytes as text. -/
  | transform

/-- What labels name, or why they name nothing. -/
structure Registry where
  lookup : Text → Except Fault Coding
  lookup_utf8 : lookup "utf-8" = .ok (.text Charset.utf8.codec)

namespace Registry

/-- The codec that a label names, for use in one direction. -/
def codec (registry : Registry) (direction : Charset.Direction) (label : Text) :
    Except Fault Codec :=
  match registry.lookup label with
  | .error fault => .error fault
  | .ok (.text codec) => .ok codec
  | .ok .transform => .error (.label (.notText label direction))

/-- The text that bytes write under a label. -/
def decode (registry : Registry) (label : Text) (bytes : List UInt8) :
    Except ReadError (List CodePoint) :=
  match registry.codec .decoding label with
  | .error fault => .error (.ofFault fault)
  | .ok codec => codec.decode bytes

/-- The bytes of a text under a label. -/
def encode (registry : Registry) (label : Text) (text : List CodePoint) :
    Except Fault (List UInt8) :=
  match registry.codec .encoding label with
  | .error fault => .error fault
  | .ok codec => codec.encode text

end Registry

end Turnstile
