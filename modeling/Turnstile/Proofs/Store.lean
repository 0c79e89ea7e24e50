import Turnstile.Proofs.Charset.Utf8
import Turnstile.Proofs.Results
import Turnstile.Store

namespace Turnstile

/-!
# The last account of a name

* `Account.last?` — the last account of a name in a list;
* `Store.find?_ofAccounts` — **the last account counts**: it is the one that a store finds;
* `Store.passwordBytes_inj` — passwords of the same bytes are the same;
* `Store.check_of_disabled`, `Store.check_of_enabled`, `Store.check_of_unwritable` — the answers to
  credentials that name an account;
* `Store.Stuck`, `Store.check_eq` — the credentials that a store accepts, unless it is stuck.
-/

/-- The last account of a name in a list. -/
def Account.last? (accounts : List Account) (username : Text) : Option Account :=
  (accounts.filter fun a => a.username == username).getLast?

theorem Account.last?_cons (a : Account) (accounts : List Account) (username : Text) :
    last? (a :: accounts) username =
      (last? accounts username).or (if a.username = username then some a else none) := by
  unfold last?
  rw [List.filter_cons]
  by_cases h : a.username = username
  · rw [if_pos (beq_iff_eq.2 h), if_pos h, List.getLast?_cons]
    cases (accounts.filter fun a => a.username == username).getLast? <;> rfl
  · rw [if_neg (mt beq_iff_eq.1 h), if_neg h, Option.or_none]

/-- The last account of a name after more accounts. -/
theorem Account.last?_append (accounts later : List Account) (username : Text) :
    last? (accounts ++ later) username = (last? later username).or (last? accounts username) := by
  unfold last?
  rw [List.filter_append, List.getLast?_append]

/-- The last account of a name is one of the accounts, and it has that name. -/
theorem Account.mem_of_last? {accounts : List Account} {username : Text} {a : Account}
    (h : last? accounts username = some a) : a ∈ accounts ∧ a.username = username := by
  have hmem := List.mem_filter.1 (List.mem_of_getLast? h)
  exact ⟨hmem.1, beq_iff_eq.1 hmem.2⟩

namespace Store

/-- What is found in a store after accounts have been put there one after another. -/
theorem find?_foldl_put (accounts : List Account) (s : Store) (username : Text) :
    (accounts.foldl put s).find? username =
      (Account.last? accounts username).or (s.find? username) := by
  induction accounts generalizing s with
  | nil => rfl
  | cons a accounts ih =>
    -- a store is asked only where no later account has the name
    rw [List.foldl_cons, ih, find?_put, Account.last?_cons, Option.or_assoc]
    by_cases h : a.username = username
    · rw [if_pos h, if_pos h]
      rfl
    · rw [if_neg h, if_neg h]
      rfl

@[simp] theorem hidesUnknown_foldl_put (accounts : List Account) (s : Store) :
    (accounts.foldl put s).hidesUnknown = s.hidesUnknown := by
  induction accounts generalizing s with
  | nil => rfl
  | cons a accounts ih => exact ih (s.put a)

/-- Accounts with names can all be added. -/
theorem foldlM_insert {accounts : List Account} (h : ∀ a ∈ accounts, a.username ≠ "") (s : Store) :
    accounts.foldlM insert s = .ok (accounts.foldl put s) := by
  induction accounts generalizing s with
  | nil => rfl
  | cons a accounts ih =>
    rw [List.foldlM_cons, insert, if_neg (h a List.mem_cons_self)]
    exact ih (fun a hmem => h a (List.mem_cons_of_mem _ hmem)) (s.put a)

/-- **The last account counts.**  Accounts with names give a store, in which the account of a name
    is the last one of that name. -/
theorem find?_ofAccounts (hidesUnknown : Bool) {accounts : List Account}
    (h : ∀ a ∈ accounts, a.username ≠ "") :
    ∃ s, ofAccounts hidesUnknown accounts = .ok s ∧ s.hidesUnknown = hidesUnknown ∧
      ∀ username, s.find? username = Account.last? accounts username := by
  refine ⟨_, foldlM_insert h _, hidesUnknown_foldl_put accounts _, fun username => ?_⟩
  rw [find?_foldl_put]
  exact Option.or_none

/-! ### Passwords -/

section

variable {p q : Text}

/-- A password has bytes to be compared by if UTF-8 can write it. -/
theorem exists_passwordBytes_iff : (∃ bytes, passwordBytes p = .ok bytes) ↔ p.Writable := by
  unfold passwordBytes
  simp only [mapError_eq_ok_iff]
  exact Charset.Utf8.exists_encode_iff

/-- Any other password can not be compared. -/
theorem exists_fault_of_passwordBytes (h : ¬ p.Writable) :
    ∃ e, passwordBytes p = .error (.unencodable e) := by
  cases hencode : Charset.Utf8.encode p.toList with
  | ok bytes => exact absurd (Charset.Utf8.exists_encode_iff.1 ⟨bytes, hencode⟩) h
  | error e =>
    refine ⟨e, ?_⟩
    unfold passwordBytes
    rw [hencode]
    rfl

/-- Passwords of the same bytes are the same. -/
theorem passwordBytes_inj {bytes : List UInt8} (hp : passwordBytes p = .ok bytes)
    (hq : passwordBytes q = .ok bytes) : p = q :=
  Text.toList_inj.1
    (Charset.Utf8.encode_inj (mapError_eq_ok_iff.1 hp) (mapError_eq_ok_iff.1 hq))

end

/-! ### Checking credentials -/

/-- An account is found under its own name. -/
theorem username_of_find? {s : Store} {username : Text} {a : Account}
    (h : s.find? username = some a) : a.username = username := by
  have hfound := List.find?_some (p := fun a : Account => a.username == username) h
  exact beq_iff_eq.1 hfound

/-- The rejection of credentials that name an account but do not open it. -/
def refusal (a : Account) : Rejection where
  kind := if a.enabled then .badCredentials else .disabled
  message := if a.enabled then "Bad credentials" else "User is disabled"
  username := some a.username

section

variable {s : Store} {c : Credentials} {a : Account}

theorem check_of_unknown (hfind : s.find? c.username = none) :
    s.check c = .error (.rejected (s.unknown c.username)) := by
  unfold check
  rw [hfind]

/-- An account that is disabled is rejected whatever the password. -/
theorem check_of_disabled (hfind : s.find? c.username = some a) (h : a.enabled = false) :
    s.check c = .error (.rejected ⟨.disabled, "User is disabled", some c.username⟩) := by
  unfold check
  rw [hfind]
  dsimp only
  rw [h]
  rfl

/-- **An account that is enabled** opens to its own password and to no other, if both can be
    compared. -/
theorem check_of_enabled (hfind : s.find? c.username = some a) (h : a.enabled = true)
    (ha : a.password.Writable) (hc : c.password.Writable) :
    s.check c = if a.password = c.password then .ok a.identity
      else .error (.rejected ⟨.badCredentials, "Bad credentials", some c.username⟩) := by
  obtain ⟨recorded, hrecorded⟩ := exists_passwordBytes_iff.2 ha
  obtain ⟨presented, hpresented⟩ := exists_passwordBytes_iff.2 hc
  have hcheck : s.check c = if recorded != presented then
      .error (.rejected ⟨.badCredentials, "Bad credentials", some c.username⟩)
      else .ok a.identity := by
    unfold check
    rw [hfind]
    dsimp only
    rw [h, hrecorded, hpresented]
    rfl
  rw [hcheck]
  by_cases hpassword : a.password = c.password
  · rw [hpassword] at hrecorded
    have hbytes := Except.ok.inj (hrecorded.symm.trans hpresented)
    rw [if_pos hpassword, hbytes]
    simp
  · -- what is compared are bytes, which differ for different passwords
    have hbytes : recorded ≠ presented := fun e =>
      hpassword (passwordBytes_inj (e ▸ hrecorded) hpresented)
    rw [if_neg hpassword, if_pos (bne_iff_ne.2 hbytes)]

/-- **A password that can not be compared** brings checking to a fault, if there is an account that
    is enabled. -/
theorem check_of_unwritable (hfind : s.find? c.username = some a) (h : a.enabled = true)
    (hpasswords : ¬ (a.password.Writable ∧ c.password.Writable)) :
    ∃ e, s.check c = .error (.unencodable e) := by
  unfold check
  rw [hfind]
  dsimp only
  rw [h]
  by_cases ha : a.password.Writable
  · obtain ⟨recorded, hrecorded⟩ := exists_passwordBytes_iff.2 ha
    obtain ⟨e, he⟩ := exists_fault_of_passwordBytes fun hc => hpasswords ⟨ha, hc⟩
    exact ⟨e, by rw [hrecorded, he]; rfl⟩
  · obtain ⟨e, he⟩ := exists_fault_of_passwordBytes ha
    exact ⟨e, by rw [he]; rfl⟩

end

/-- The account that credentials name is enabled and one of the two passwords can not be
    compared. -/
def Stuck (account? : Text → Option Account) (c : Credentials) : Prop :=
  ∃ a, account? c.username = some a ∧ a.enabled = true ∧
    ¬ (a.password.Writable ∧ c.password.Writable)

/-- The account that is found opens to its own password if it is enabled, and not otherwise. -/
theorem check_eq {s : Store} {c : Credentials} (h : ¬ Stuck s.find? c) :
    s.check c = match s.find? c.username with
      | none => .error (.rejected (s.unknown c.username))
      | some a => if a.enabled = true ∧ a.password = c.password then .ok a.identity
        else .error (.rejected (refusal a)) := by
  cases hfind : s.find? c.username with
  | none => exact check_of_unknown hfind
  | some a =>
    have husername := username_of_find? hfind
    dsimp only [refusal]
    rw [husername]
    cases henabled : a.enabled with
    | false => exact check_of_disabled hfind henabled
    | true =>
      have hpasswords := not_not.1 fun hno => h ⟨a, hfind, henabled, hno⟩
      rw [check_of_enabled hfind henabled hpasswords.1 hpasswords.2]
      simp

end Store

end Turnstile
