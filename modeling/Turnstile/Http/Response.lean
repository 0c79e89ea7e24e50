import Turnstile.Fault
import Turnstile.Value

namespace Turnstile.Http

/-!
# Messages and responses

* `Message` — one message sent on behalf of a request;
* `Response` — a status, headers and a body;
* `Response.plain`, `Response.notice`, `Response.json`, `Response.redirect` — the forms in use;
* `Response.messages` — a response as the messages that carry it.
-/

/-- One message sent on behalf of a request.  A response to a websocket request travels in messages
    of their own kind. -/
inductive Message
  | responseStart (overWebsocket : Bool) (status : Nat) (headers : List (Text × Text))
  | responseBody (overWebsocket : Bool) (body : Text)
  | websocketClose (code : Nat) (reason : Text)
  | startupComplete
  | shutdownComplete
  deriving DecidableEq, Repr

/-- The message opens a response. -/
def Message.opensResponse : Message → Bool
  | .responseStart .. => true
  | _ => false

/-- The name of the kind of a message. -/
def Message.kindName : Message → Text
  | .responseStart false _ _ => "http.response.start"
  | .responseStart true _ _ => "websocket.http.response.start"
  | .responseBody false _ => "http.response.body"
  | .responseBody true _ => "websocket.http.response.body"
  | .websocketClose _ _ => "websocket.close"
  | .startupComplete => "lifespan.startup.complete"
  | .shutdownComplete => "lifespan.shutdown.complete"

/-- A response: its status, its headers in order, and its body. -/
structure Response where
  status : Nat
  headers : List (Text × Text)
  body : Text
  deriving DecidableEq, Repr

/-- A response with a body of so many bytes of a media type, further headers in front. -/
def Response.ofBody (status : Nat) (headers : List (Text × Text)) (mediaType body : Text)
    (size : Nat) : Response where
  status := status
  headers := headers ++
    ([("content-length", Text.ofNat size), ("content-type", mediaType)] : List (Text × Text))
  body := body

/-- The media type of plain text. -/
def plainText : Text := "text/plain; charset=utf-8"

/-- A response of plain text, which has to be written in UTF-8. -/
def Response.plain (status : Nat) (headers : List (Text × Text)) (body : Text) :
    Except Fault Response :=
  match Charset.Utf8.encode body.toList with
  | .error e => .error (.unencodable e)
  | .ok bytes => .ok (.ofBody status headers plainText body bytes.length)

/-- A response of plain text that consists of characters, so that it can be written. -/
def Response.notice (status : Nat) (headers : List (Text × Text)) (body : String) : Response :=
  .ofBody status headers plainText body body.utf8ByteSize

/-- A successful response that holds a value as JSON, which has to be written in UTF-8. -/
def Response.json (v : Value) : Except Fault Response :=
  match Charset.Utf8.encode v.json.toList with
  | .error e => .error (.unencodable e)
  | .ok bytes => .ok (.ofBody 200 [] "application/json" v.json bytes.length)

/-- A response that sends the client elsewhere. -/
def Response.redirect (location : Text) : Response where
  status := 307
  headers := [("content-length", "0"), ("location", location)]
  body := ""

/-- A response as the messages that carry it. -/
def Response.messages (overWebsocket : Bool) (r : Response) : List Message :=
  [.responseStart overWebsocket r.status r.headers, .responseBody overWebsocket r.body]

end Turnstile.Http
