import Turnstile.Charset.Escaped
import Turnstile.Charset.Repertoire
import Turnstile.Charset.Utf16

namespace Turnstile

/-!
# Charsets

* `Charset` — the ways in which a text is written as bytes;
* `Charset.decode?`, `Charset.encode` — reading and writing;
* `LabelError` — why a label does not serve for either.
-/

/-! ### Reading and writing -/

/-- A way of writing text as bytes. -/
inductive Charset
  | bytewise (repertoire : Charset.Repertoire)
  | utf8
  /-- UTF-8 behind a signature of three bytes. -/
  | utf8Signed
  /-- UTF-16 behind a byte-order mark. -/
  | utf16
  /-- UTF-16 in a fixed order, where a byte-order mark is a character. -/
  | utf16In (order : Charset.Utf16.Order)
  /-- Latin-1 with escapes for everything beyond. -/
  | escaped
  deriving DecidableEq, Repr

namespace Charset

/-- The signature of UTF-8. -/
def signature : List UInt8 := [0xEF, 0xBB, 0xBF]

/-- Bytes without the signature, if it is the first thing in them. -/
def dropSignature : List UInt8 → List UInt8
  | 0xEF :: 0xBB :: 0xBF :: bytes => bytes
  | bytes => bytes

/-- The text that bytes write; `none` when they write none. -/
def decode? (cs : Charset) (bytes : List UInt8) : Option (List CodePoint) :=
  match cs with
  | .bytewise r => r.decode? bytes
  | .utf8 => (Utf8.decode bytes).toOption
  | .utf8Signed => (Utf8.decode (dropSignature bytes)).toOption
  | .utf16 =>
    let marked := Utf16.orderOfMark bytes
    Utf16.decode? marked.1 marked.2
  | .utf16In order => Utf16.decode? order bytes
  | .escaped => Escaped.decode? bytes

/-- The bytes of a text, or the first characters in it that the charset lacks. -/
def encode (cs : Charset) (text : List CodePoint) : Except Unencodable (List UInt8) :=
  match cs with
  | .bytewise r => r.encode text
  | .utf8 => Utf8.encode text
  | .utf8Signed => (signature ++ ·) <$> Utf8.encode text
  | .utf16 => Utf16.encodeMarked text
  | .utf16In order => Utf16.encode order text
  | .escaped => .ok (Escaped.encode text)

/-! ### Labels -/

/-- Whether text is to be read or to be written. -/
inductive Direction
  | decoding
  | encoding
  deriving DecidableEq, Repr

/-- Why a label names no charset. -/
inductive LabelError
  /-- There is no label. -/
  | missing (direction : Direction)
  /-- The label holds the null character. -/
  | nullCharacter
  /-- Nothing has this label. -/
  | unknown (label : Text)
  /-- The label names a transform between other things than text and bytes. -/
  | notText (label : Text) (direction : Direction)
  deriving DecidableEq, Repr

/-- How many bytes of a label a message shows at most. -/
def shownBytes : Nat := 400

/-- A label as a message shows it. -/
def shownLabel (label : Text) : Text :=
  Text.ofList (Utf8.clip shownBytes label.toList)

/-- The error of a label in words. -/
def LabelError.message : LabelError → Text
  | .missing .decoding => "decode() argument 'encoding' must be str, not None"
  | .missing .encoding => "encode() argument 'encoding' must be str, not None"
  | .nullCharacter => "embedded null character"
  | .unknown label => "unknown encoding: " ++ label
  | .notText label .decoding =>
    "'" ++ shownLabel label ++
      "' is not a text encoding; use codecs.decode() to handle arbitrary codecs"
  | .notText label .encoding =>
    "'" ++ shownLabel label ++
      "' is not a text encoding; use codecs.encode() to handle arbitrary codecs"

end Charset

end Turnstile
