import Turnstile.Codec

namespace Turnstile

/-!
# The usual codecs

* `Codec.undefined` — a codec that refuses everything;
* `Coding.table` — the codecs that are most in use, with their labels;
* `Registry.usual` — the registry of these codecs.
-/

/-- A codec that neither reads nor writes anything; its label is there to forbid both. -/
def Codec.undefined : Codec where
  decode := fun _ => .error (.other (.foreign .unicode
    "decoding with 'undefined' codec failed (UnicodeError: undefined encoding)") rfl)
  encode := fun _ => .error (.foreign .unicode
    "encoding with 'undefined' codec failed (UnicodeError: undefined encoding)")

namespace Coding

/-- Letters, digits and full stops count in a label, letters in either case; whatever else stands
    between two of them counts as one underscore. -/
def normalLabel (label : List CodePoint) : List CodePoint :=
  let blank := CodePoint.char ' '
  let folded := label.map fun (c : CodePoint) =>
    if c.isAlphanum || c = '.' then c.toLower else blank
  let words := folded.splitBy fun a b => (a == blank) == (b == blank)
  [CodePoint.char '_'].intercalate (words.filter fun w => w.head? != some blank)

/-- The labels of a coding in normal form: its own name, and its other labels. -/
structure Labelled where
  coding : Coding
  name : Text
  others : List Text

/-- A label in normal form belongs to the coding; full stops may stand for the underscores of the
    other labels, but not for those of the name. -/
def Labelled.has (row : Labelled) (label : Text) : Bool :=
  let dotless := Text.ofList (label.toList.map fun (c : CodePoint) =>
    if c = '.' then .char '_' else c)
  label == row.name || row.others.contains label || row.others.contains dotless

/-- The codings with their labels. -/
def table : List Labelled :=
  [⟨.text Charset.utf8.codec, "utf_8", ["u8", "utf", "utf8", "utf8_ucs2", "utf8_ucs4", "cp65001"]⟩,
   ⟨.text Charset.utf8Signed.codec, "utf_8_sig", []⟩,
   ⟨.text Charset.utf16.codec, "utf_16", ["u16", "utf16"]⟩,
   ⟨.text (Charset.codec (.utf16In .little)), "utf_16_le", ["utf_16le", "unicodelittleunmarked"]⟩,
   ⟨.text (Charset.codec (.utf16In .big)), "utf_16_be", ["utf_16be", "unicodebigunmarked"]⟩,
   ⟨.text (Charset.codec (.bytewise .latin1)), "latin_1",
    ["8859", "cp819", "csisolatin1", "ibm819", "iso8859", "iso8859_1", "iso_8859_1",
     "iso_8859_1_1987", "iso_ir_100", "l1", "latin", "latin1"]⟩,
   ⟨.text (Charset.codec (.bytewise .ascii)), "ascii",
    ["646", "ansi_x3.4_1968", "ansi_x3_4_1968", "ansi_x3.4_1986", "cp367", "csascii", "ibm367",
     "iso646_us", "iso_646.irv_1991", "iso_ir_6", "us", "us_ascii"]⟩,
   ⟨.text (Charset.codec (.bytewise .windows1252)), "cp1252", ["1252", "windows_1252"]⟩,
   ⟨.transform, "hex_codec", ["hex"]⟩,
   ⟨.transform, "base64_codec", ["base64", "base_64"]⟩,
   ⟨.transform, "rot_13", ["rot13"]⟩,
   ⟨.transform, "zlib_codec", ["zip", "zlib"]⟩,
   ⟨.text Charset.escaped.codec, "raw_unicode_escape", []⟩,
   ⟨.text .undefined, "undefined", []⟩]

/-- What a label names.  It has to be written in UTF-8 to be looked up, and an error shows it as it
    was given. -/
def named? (label : Text) : Except Fault Coding :=
  match Charset.Utf8.encode label.toList with
  | .error e => .error (.unencodable e)
  | .ok _ =>
    if label.toList.contains '\x00' then .error (.label .nullCharacter)
    else
      let normal := Text.ofList (normalLabel label.toList)
      match table.find? fun row => row.has normal with
      | some row => .ok row.coding
      | none => .error (.label (.unknown label))

end Coding

/-- The registry of the usual codecs. -/
def Registry.usual : Registry where
  lookup := Coding.named?
  lookup_utf8 := rfl

end Turnstile
