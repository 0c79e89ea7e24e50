import Turnstile.Fault

namespace Turnstile.Http

/-!
# Addresses

* `Server` — the host and port of a server, with `Server.text`;
* `percentEncoded` — an address with the characters that may not stand in a header replaced by the
  percent form of their UTF-8 bytes.
-/

/-- The host and the port of a server; one that listens on no port has a path in the place of its
    host. -/
structure Server where
  host : Text
  port : Option Int

/-- The port that a scheme stands for. -/
def defaultPort? (scheme : Text) : Option Int :=
  List.lookup scheme [("http", 80), ("https", 443), ("ws", 80), ("wss", 443)]

/-- A port in an address. -/
def portText : Option Int → Text
  | some port => Text.ofInt port
  | none => "None"

/-- A server in an address, with its port unless the scheme stands for it. -/
def Server.text (s : Server) (scheme : Text) : Except Fault Text :=
  match defaultPort? scheme with
  | none => .error (.unknownScheme scheme)
  | some port => .ok (if s.port = some port then s.host else s.host ++ ":" ++ portText s.port)

/-- The characters other than letters and digits that stand for themselves in an address. -/
def addressMarks : List CodePoint := (Text.toList "_.-~:/%#?=@[]!$&'()*+,;")

/-- The percent form of a byte. -/
def percentByte (b : UInt8) : List CodePoint :=
  .char '%' :: (Text.hex 2 b.toNat).map CodePoint.toUpper

/-- One byte of an address. -/
def addressByte (b : UInt8) : List CodePoint :=
  let c := CodePoint.ofNat b.toNat
  if b < 0x80 && (c.isAlphanum || addressMarks.contains c) then [c] else percentByte b

/-- An address as it stands in a header; it has to be written in UTF-8. -/
def percentEncoded (address : Text) : Except Fault Text :=
  match Charset.Utf8.encode address.toList with
  | .error e => .error (.unencodable e)
  | .ok bytes => .ok (Text.ofList (bytes.flatMap addressByte))

end Turnstile.Http
