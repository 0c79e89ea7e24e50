import Turnstile.Value

namespace Turnstile

/-!
# Accounts

* `Account` — one user with a password and roles;
* `Account.shown` — an account as a message shows it, without its password.
-/

/-- One user: the login name, the password, the roles granted on success, and whether the account
    may be used at all. -/
structure Account where
  username : Text
  password : Text
  roles : List Text := []
  enabled : Bool := true
  deriving DecidableEq, Repr

/-- An account as a message shows it; the password is left out. -/
def Account.shown (a : Account) : Text :=
  let username := Text.quoted a.username
  let roles := shownGroup a.roles
  let enabled := (Value.bool a.enabled).shown
  "UserRecord(username=" ++ username ++ ", roles=" ++ roles ++ ", enabled=" ++ enabled ++ ")"

end Turnstile
