import Turnstile.Store

namespace Turnstile

/-!
# Authenticators

* `Authenticator` — a party that answers a pair of credentials;
* `Store.authenticator` — the one that looks into a store of accounts;
* `Authenticator.ofRules` — one that answers by a table of usernames.
-/

/-- What an authenticator does with a pair of credentials: it writes to the log, and it gives an
    identity, gives nothing, or fails. -/
structure Answer where
  log : List LogEntry
  reply : Except Fault (Option Identity)

/-- A party that answers pairs of credentials.  One that is awaited lets other requests go on
    before its answer arrives. -/
structure Authenticator where
  awaited : Bool
  answer : Credentials → Answer

/-- The answer of a store. -/
def Store.answer (s : Store) (c : Credentials) : Answer where
  log := s.note c.username
  reply := some <$> s.check c

/-- The authenticator that looks into a store. -/
def Store.authenticator (s : Store) : Authenticator where
  awaited := false
  answer := s.answer

/-- An authenticator with a fixed reply to each of some usernames and one reply to all others. -/
def Authenticator.ofRules (awaited : Bool) (rules : List (Text × Except Fault (Option Identity)))
    (otherwise : Except Fault (Option Identity)) : Authenticator where
  awaited := awaited
  answer := fun c => ⟨[], (rules.lookup c.username).getD otherwise⟩

end Turnstile
