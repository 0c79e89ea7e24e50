import Turnstile.Charset.Repertoire
import Turnstile.Text.Lower

namespace Turnstile.Http

/-!
# Request headers

* `RawHeader` — a header as it arrives, in bytes;
* `headerMap` — the headers by their names in small letters, the first of a name counting.
-/

/-- A header as it arrives: a name and a value, in bytes. -/
structure RawHeader where
  name : List UInt8
  value : List UInt8
  deriving DecidableEq, Repr

/-- The text of bytes in Latin-1. -/
def latin1 (bytes : List UInt8) : List CodePoint :=
  bytes.map fun b => CodePoint.ofNat b.toNat

/-- The name of a header in small letters. -/
def RawHeader.key (h : RawHeader) : Text :=
  Text.ofList (Text.lower (latin1 h.name))

/-- The value of a header. -/
def RawHeader.text (h : RawHeader) : Text :=
  Text.ofList (latin1 h.value)

/-- Adds a name with its value at the end, unless the name is there. -/
def addNew (entries : List (Text × Text)) (name value : Text) : List (Text × Text) :=
  if entries.any fun e => e.1 == name then entries else entries ++ [(name, value)]

/-- The headers by name: each name in small letters, in the order of first occurrence, with the
    value that came first. -/
def headerMap (headers : List RawHeader) : List (Text × Text) :=
  headers.foldl (fun entries h => addNew entries h.key h.text) []

/-- The value found for a name in small letters. -/
def header? (name : Text) (headers : List RawHeader) : Option Text :=
  (headerMap headers).lookup name

end Turnstile.Http
