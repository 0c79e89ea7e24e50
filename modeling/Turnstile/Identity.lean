import Turnstile.Value

namespace Turnstile

/-!
# Identities

* `Identity` — who is making a request, with what roles;
* `Identity.shown` — an identity as a message shows it.
-/

/-- Who is making a request: a name, the type of party, its roles in order, and further
    attributes. -/
structure Identity where
  id : Text
  type : Text := "user"
  roles : List Text := []
  attrs : List (Text × Value) := []

/-- An identity as a message shows it. -/
def Identity.shown (i : Identity) : Text :=
  let id := Text.quoted i.id
  let type := Text.quoted i.type
  let roles := shownGroup i.roles
  let attrs := (Value.record i.attrs).shown
  "Identity(id=" ++ id ++ ", type=" ++ type ++ ", roles=" ++ roles ++ ", attrs=" ++ attrs ++ ")"

/-- A slot for an identity as a message shows it. -/
def shownSlot (slot : Option Identity) : Text :=
  let identity := match slot with
    | some i => i.shown
    | none => Value.null.shown
  "IdentityContext(identity=" ++ identity ++ ")"

end Turnstile
