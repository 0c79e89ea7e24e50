import Turnstile.Credentials
import Turnstile.Identity

namespace Turnstile

/-!
# The store of accounts

* `Store` — accounts with pairwise different usernames;
* `Store.insert`, `Store.ofAccounts`, `Store.ofUserMap` — filling a store, the last account of a
  name counting;
* `Store.find?` — the account of a name;
* `Store.check` — the identity behind a pair of credentials, or why they are rejected.
-/

/-- Accounts, at most one for each username.  A store that hides unknown users rejects them in the
    words it uses for a wrong password. -/
structure Store where
  accounts : List Account
  hidesUnknown : Bool
  nodup : (accounts.map Account.username).Nodup

/-- The identity of an account. -/
def Account.identity (a : Account) : Identity where
  id := a.username
  type := "user"
  roles := a.roles

namespace Store

/-- A store without accounts. -/
def empty (hidesUnknown : Bool) : Store where
  accounts := []
  hidesUnknown := hidesUnknown
  nodup := List.nodup_nil

/-- The number of accounts. -/
def size (s : Store) : Nat :=
  s.accounts.length

/-- The account of a username. -/
def find? (s : Store) (username : Text) : Option Account :=
  s.accounts.find? fun a => a.username == username

/-- The store has an account of that username. -/
def contains (s : Store) (username : Text) : Bool :=
  (s.find? username).isSome

/-- The accounts other than that of a username. -/
def others (s : Store) (username : Text) : List Account :=
  s.accounts.filter fun a => a.username != username

private theorem nodup_others (s : Store) (a : Account) :
    ((s.others a.username ++ [a]).map Account.username).Nodup := by
  rw [List.map_append, List.nodup_append]
  refine ⟨s.nodup.sublist (List.filter_sublist.map _), by simp, ?_⟩
  intro x hx y hy
  simp only [others, List.mem_map, List.mem_filter, bne_iff_ne, ne_eq] at hx
  obtain ⟨b, ⟨_, hb⟩, rfl⟩ := hx
  simp only [List.map_cons, List.map_nil, List.mem_singleton] at hy
  exact hy ▸ hb

/-- Puts an account in the place of any other of its username. -/
def put (s : Store) (a : Account) : Store where
  accounts := s.others a.username ++ [a]
  hidesUnknown := s.hidesUnknown
  nodup := nodup_others s a

/-- The account found for a username is the one put there last. -/
theorem find?_put (s : Store) (a : Account) (username : Text) :
    (s.put a).find? username = if a.username = username then some a else s.find? username := by
  simp only [find?, put, others, List.find?_append, List.find?_filter]
  by_cases h : a.username = username
  · have hnone : (s.accounts.find? fun b =>
        decide ((b.username != a.username) = true ∧ (b.username == username) = true)) = none := by
      rw [List.find?_eq_none]
      intro b _
      simp only [h, bne_iff_ne, ne_eq, beq_iff_eq, decide_eq_true_eq, not_and]
      exact fun hb => hb
    rw [hnone]
    simp [h]
  · have hsame : (fun b : Account =>
        decide ((b.username != a.username) = true ∧ (b.username == username) = true)) =
        fun b => b.username == username := by
      funext b
      by_cases hb : b.username = username
      · simp [hb, Ne.symm h]
      · simp [hb]
    rw [hsame]
    simp [h]

/-- Adds an account, which must have a name. -/
def insert (s : Store) (a : Account) : Except Fault Store :=
  if a.username = "" then .error .emptyUsername else .ok (s.put a)

/-- The store of a list of accounts, added one after another. -/
def ofAccounts (hidesUnknown : Bool) (accounts : List Account) : Except Fault Store :=
  accounts.foldlM insert (empty hidesUnknown)

/-- The store of a user map. -/
def ofUserMap (hidesUnknown : Bool) (text : Text) : Except Fault Store :=
  match UserMap.parse text with
  | .error e => .error (.userMap e)
  | .ok accounts => ofAccounts hidesUnknown accounts

/-- The rejection of a username that no account has. -/
def unknown (s : Store) (username : Text) : Rejection where
  kind := .usernameNotFound
  message := if s.hidesUnknown then "Bad credentials" else "User '" ++ username ++ "' not found"
  username := some username

/-- The bytes that a password is compared by; one with half a surrogate pair in it has none. -/
def passwordBytes (password : Text) : Except Fault (List UInt8) :=
  (Charset.Utf8.encode password.toList).mapError .unencodable

/-- The answer to a pair of credentials: the name must have an account, the account must be enabled,
    and its password must be the one given, in this order. -/
def check (s : Store) (c : Credentials) : Except Fault Identity :=
  match s.find? c.username with
  | none => .error (.rejected (s.unknown c.username))
  | some account =>
    if !account.enabled then
      .error (.rejected ⟨.disabled, "User is disabled", some c.username⟩)
    else do
      let recorded ← passwordBytes account.password
      let presented ← passwordBytes c.password
      if recorded != presented then
        .error (.rejected ⟨.badCredentials, "Bad credentials", some c.username⟩)
      else .ok account.identity

/-- What checking a username writes to the log. -/
def note (s : Store) (username : Text) : List LogEntry :=
  if s.contains username then []
  else [⟨.debug, .store, "User '" ++ username ++ "' not found", none⟩]

end Store

end Turnstile
