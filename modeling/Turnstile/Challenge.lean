import Turnstile.Http.Response
import Turnstile.Journal
import Turnstile.Scope

namespace Turnstile

/-!
# Challenges

What a rejected request is answered with.

* `Cause`, `EntryPoint` — a party that answers rejected requests, and what it is told;
* `Challenge` — the realm announced to the client, with `Challenge.text`, the value of the
  `WWW-Authenticate` header;
* `Challenge.entryPoint` — the entry point that answers with a challenge.
-/

/-- The answer to a rejected request: log entries, then messages, then an end. -/
structure Commencement where
  log : List LogEntry := []
  messages : List Http.Message := []
  outcome : Except Fault Unit := .ok ()

/-- Why a request is to be answered: it was rejected, or something else went wrong. -/
inductive Cause
  | rejected (rejection : Rejection)
  | foreign (kind : Fault.Foreign)

/-- A party that answers a request that may not go on, of which it is told the cause if there is
    one. -/
structure EntryPoint where
  commence : Request → Option Cause → Commencement

/-- A realm to be announced, which is not empty. -/
structure Challenge where
  realm : Text
  realm_ne : realm ≠ ""

namespace Challenge

/-- The challenge for a realm, which must be given and not empty. -/
def ofRealm (realm : Option Text) : Except Fault Challenge :=
  match realm with
  | none => .error .noRealm
  | some r => if h : r = "" then .error .noRealm else .ok ⟨r, h⟩

/-- Writes every occurrence of a character as other characters. -/
def substitute (c : CodePoint) (form : List CodePoint) (cs : List CodePoint) : List CodePoint :=
  cs.flatMap fun d => if d = c then form else [d]

/-- A text as it stands inside a quoted string: a backslash before each backslash, and after that
    one before each quote. -/
def escaped (cs : List CodePoint) : List CodePoint :=
  substitute '"' ['\\', '"'] (substitute '\\' ['\\', '\\'] cs)

/-- The value of the `WWW-Authenticate` header. -/
def text (c : Challenge) : Text :=
  "Basic realm=" ++ Text.ofList (.char '"' :: escaped c.realm.toList ++ [.char '"'])

/-- The words for the client. -/
def body : Option Cause → Except Fault Text
  | none => .ok "Unauthorized"
  | some (.rejected r) => .ok r.message
  | some (.foreign kind) => .error (.wordlessCause kind)

/-- The response to a request that may not go on; its words are written in UTF-8, and header values
    in Latin-1. -/
def response (c : Challenge) (cause : Option Cause) : Except Fault Http.Response :=
  match body cause with
  | .error fault => .error fault
  | .ok words =>
    -- the words are written before the headers
    match Http.Response.plain 401 [("www-authenticate", c.text)] words with
    | .error fault => .error fault
    | .ok response =>
      match (Charset.Repertoire.latin1).encode c.text.toList with
      | .error e => .error (.unencodable e)
      | .ok _ => .ok response

/-- What is written to the log before a challenge is sent. -/
def note (c : Challenge) : LogEntry :=
  ⟨.debug, .challenge, "Sending Basic challenge for realm '" ++ c.realm ++ "'", none⟩

/-- The entry point that answers with a challenge. -/
def entryPoint (c : Challenge) : EntryPoint where
  commence := fun request cause =>
    match c.response cause with
    | .error fault => { log := [c.note], outcome := .error fault }
    | .ok response =>
      { log := [c.note], messages := response.messages (request.hasType "websocket") }

end Challenge

end Turnstile
