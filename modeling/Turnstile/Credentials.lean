import Turnstile.Base64
import Turnstile.Codec
import Turnstile.Journal

namespace Turnstile

/-!
# Credentials

A header value of the scheme `Basic` carries a username and a password: the scheme, blanks, and the
base64 form of `username:password` in some charset.

* `Credentials.read` — the credentials in a header value, or why it is skipped;
* `Credentials.header` — the header value of credentials;
* `Skip` — why a header value carries no credentials, which is never an error.
-/

/-- A username and a password. -/
structure Credentials where
  username : Text
  password : Text
  deriving DecidableEq, Repr

/-- Why a header value carries no usable credentials. -/
inductive Skip
  /-- There is no header value, or an empty one. -/
  | absent
  /-- The value is not the word "Basic" in any letter case followed by something. -/
  | otherScheme
  /-- What follows the scheme is not base64. -/
  | malformedPayload
  /-- The bytes write no text in the charset of that label. -/
  | undecodable (label : Text)
  /-- The text has no colon, or nothing on one of its sides. -/
  | noPair
  deriving DecidableEq, Repr

/-- What the log says about a skipped header value; missing ones and other schemes go without
    mention. -/
def Skip.note? : Skip → Option LogEntry
  | .absent | .otherScheme => none
  | .malformedPayload =>
    some ⟨.debug, .credentials, "Ignoring Basic header with malformed base64 payload", none⟩
  | .undecodable label =>
    some ⟨.debug, .credentials, "Ignoring Basic header not decodable as " ++ label, none⟩
  | .noPair =>
    some ⟨.debug, .credentials, "Ignoring Basic header without a username:password pair", none⟩

namespace Credentials

/-- Credentials as a message shows them; the password is masked. -/
def shown (c : Credentials) : Text :=
  let username := Text.quoted c.username
  "Credentials(username=" ++ username ++ ", password='***')"

/-- The name of the scheme. -/
def scheme : Text := "Basic"

/-- The bytes that a header value carries after its scheme. -/
def payload (header : Option Text) : Except Skip (List UInt8) :=
  match (header.getD "").toList with
  | [] => .error .absent
  | value =>
    match Text.firstWord? value with
    | none => .error .otherScheme
    | some (word, rest) =>
      if Text.lower word = Text.lower scheme.toList then
        match Base64.decode? (Text.trimRight rest) with
        | some bytes => .ok bytes
        | none => .error .malformedPayload
      else .error .otherScheme

/-- The credentials that a text writes: what stands before its first colon and what stands after
    it. -/
def ofText (text : List CodePoint) : Except Skip Credentials :=
  match Text.cut? ':' text with
  | none => .error .noPair
  | some (username, password) =>
    if username.isEmpty || password.isEmpty then .error .noPair
    else .ok ⟨Text.ofList username, Text.ofList password⟩

/-- The credentials in a header value, read in the charset of a label; the label is looked at only
    when there are bytes to read. -/
def read (registry : Registry) (label : Text) (header : Option Text) :
    Except Fault (Except Skip Credentials) :=
  match payload header with
  | .error skip => .ok (.error skip)
  | .ok bytes =>
    match registry.decode label bytes with
    | .ok text => .ok (ofText text)
    | .error .undecodable => .ok (.error (.undecodable label))
    | .error (.other fault _) => .error fault

/-- A header value cannot be read if it carries bytes of which the codec says more than that they
    write no text, and only then. -/
theorem read_eq_error_iff {registry : Registry} {label : Text} {header : Option Text}
    {fault : Fault} : read registry label header = .error fault ↔
      ∃ bytes h, payload header = .ok bytes ∧
        registry.decode label bytes = .error (.other fault h) := by
  unfold read
  cases payload header with
  | error skip => simp
  | ok bytes =>
    cases hdecode : registry.decode label bytes with
    | ok text => simp [hdecode]
    | error e =>
      cases e with
      | undecodable => simp [hdecode]
      | other fault' h =>
        simp only [Except.error.injEq, Except.ok.injEq, hdecode, exists_and_left, exists_eq_left']
        constructor
        · rintro rfl
          exact ⟨h, rfl⟩
        · rintro ⟨_, heq⟩
          injection heq

/-- The credentials in a header value when there is no label, so that no bytes can be read. -/
def readUnlabelled (header : Option Text) : Except Fault (Except Skip Credentials) :=
  match payload header with
  | .error skip => .ok (.error skip)
  | .ok _ => .error (.label (.missing .decoding))

/-- The text that credentials are written as. -/
def text (c : Credentials) : List CodePoint :=
  c.username.toList ++ .char ':' :: c.password.toList

/-- The header value of credentials in the charset of a label. -/
def header (registry : Registry) (label : Text) (c : Credentials) : Except Fault Text :=
  match registry.encode label c.text with
  | .error fault => .error fault
  | .ok bytes => .ok (scheme ++ " " ++ Text.ofList (Base64.encode bytes))

end Credentials

end Turnstile
