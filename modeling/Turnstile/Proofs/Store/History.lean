import Mathlib.Data.Set.Card
import Turnstile.Authenticator
import Turnstile.Proofs.Store

namespace Turnstile.Store

/-!
# The history of a store

* `Step`, `step`, `after` — a store in use: accounts are added, names looked up and credentials
  checked, one step after another;
* `Step.written?`, `lastWritten` — what the history says: the last account added for a name;
* `Judged`, `Mirrors` — the answers that one gives who knows the last account of each name, unless
  passwords can not be compared;
* `after_eq_foldl_put` — a history leaves the store that its additions alone make;
* `mirrors_lastWritten` — **the last account counts**, after any history.
-/

/-! ### Steps -/

/-- One use of a store. -/
inductive Step
  | add (account : Account)
  | contains (username : Text)
  | authenticate (credentials : Credentials)

/-- What one use of a store gives back. -/
inductive Reply
  | added (outcome : Except Fault Unit)
  | found (known : Bool)
  | answered (answer : Answer)

/-- One step, with the store it leaves. -/
def step (s : Store) : Step → Reply × Store
  | .add account =>
    match s.insert account with
    | .ok later => (.added (.ok ()), later)
    | .error fault => (.added (.error fault), s)
  | .contains username => (.found (s.contains username), s)
  | .authenticate credentials => (.answered (s.answer credentials), s)

/-- The store that steps leave, one after another. -/
def after (s : Store) (steps : List Step) : Store :=
  steps.foldl (fun s step => (s.step step).2) s

/-! ### What a history says -/

/-- The account that a step writes.  One without a name is not written. -/
def Step.written? : Step → Option Account
  | .add account => if account.username = "" then none else some account
  | _ => none

/-- The last account written for a name, in a store of some accounts after some steps. -/
def lastWritten (accounts : List Account) (steps : List Step) (username : Text) :
    Option Account :=
  Account.last? (accounts ++ steps.filterMap Step.written?) username

/-- The reply to a pair of credentials by one who knows the account of each name: first the name
    must have an account, then it must be enabled, and then its password must be the one given. -/
structure Judged (account? : Text → Option Account) (c : Credentials)
    (reply : Except Fault (Option Identity)) : Prop where
  unknown : (∃ r, reply = .error (.rejected r) ∧ r.kind = .usernameNotFound) ↔
    account? c.username = none
  disabled : (∃ r, reply = .error (.rejected r) ∧ r.kind = .disabled) ↔
    ∃ a, account? c.username = some a ∧ a.enabled = false
  wrong : (∃ r, reply = .error (.rejected r) ∧ r.kind = .badCredentials) ↔
    ∃ a, account? c.username = some a ∧ a.enabled = true ∧ c.password ≠ a.password
  accepted : ∀ identity, reply = .ok (some identity) ↔
    ∃ a, account? c.username = some a ∧ a.enabled = true ∧ c.password = a.password ∧
      identity = { id := c.username, type := "user", roles := a.roles }
  /-- Whatever goes wrong is a rejection of the name that was given. -/
  named : ∀ fault, reply = .error fault → ∃ r, fault = .rejected r ∧ r.username = some c.username

/-- A store answers as one who knows the account of each name.  Where passwords can not be compared
    the fault of writing them in UTF-8 comes out. -/
structure Mirrors (s : Store) (account? : Text → Option Account) : Prop where
  size : (s.size : ℕ∞) = {username | account? username ≠ none}.encard
  /-- An account without a name is refused, and the store stays as it is. -/
  unnamed : ∀ a : Account, a.username = "" →
    s.step (.add a) = (.added (.error .emptyUsername), s) ∧ Fault.emptyUsername.kind = .value
  added : ∀ a : Account, a.username ≠ "" → (s.step (.add a)).1 = .added (.ok ())
  contains : ∀ username, s.step (.contains username) =
    (.found (account? username).isSome, s)
  authenticate : ∀ c, ∃ answer, s.step (.authenticate c) = (.answered answer, s) ∧
    (¬ Stuck account? c → Judged account? c answer.reply) ∧
    (Stuck account? c → ∃ e, answer.reply = .error (.unencodable e))

/-! ### One step -/

/-- A step leaves the store with the account that it writes, if it writes one. -/
theorem step_eq_foldl_put (s : Store) (t : Step) :
    (s.step t).2 = t.written?.toList.foldl put s := by
  cases t with
  | add a =>
    by_cases h : a.username = ""
    · simp [step, Step.written?, insert, h]
    · simp [step, Step.written?, insert, h]
  | contains username => rfl
  | authenticate c => rfl

/-- A history leaves the store that its additions alone make. -/
theorem after_eq_foldl_put (s : Store) (steps : List Step) :
    s.after steps = (steps.filterMap Step.written?).foldl put s := by
  induction steps generalizing s with
  | nil => rfl
  | cons t steps ih =>
    have hrest : s.after (t :: steps) = ((s.step t).2).after steps := rfl
    rw [hrest, ih, step_eq_foldl_put]
    cases hwritten : t.written? with
    | none => rw [List.filterMap_cons_none hwritten]; rfl
    | some a => rw [List.filterMap_cons_some hwritten]; rfl

/-! ### Answers -/

section

variable {s : Store} {account? : Text → Option Account}

/-- The usernames of a store are those under which an account is found. -/
theorem mem_usernames {username : Text} :
    username ∈ s.accounts.map Account.username ↔ s.find? username ≠ none := by
  unfold find?
  rw [ne_eq, List.find?_eq_none]
  simp

/-- The size of a store is the number of names that have an account. -/
theorem encard_usernames (s : Store) :
    {username | s.find? username ≠ none}.encard = s.size := by
  have hset : {username | s.find? username ≠ none} =
      ((s.accounts.map Account.username).toFinset : Set Text) := by
    ext username
    rw [Set.mem_ofPred_eq, ← mem_usernames, Finset.mem_coe, List.mem_toFinset]
  rw [hset, Set.encard_coe_eq_coe_finsetCard, List.toFinset_card_of_nodup s.nodup,
    List.length_map]
  rfl

/-- Credentials that name no account are rejected for their name. -/
theorem judged_of_unknown {c : Credentials} (h : account? c.username = none) (s : Store) :
    Judged account? c (.error (.rejected (s.unknown c.username))) where
  unknown := by simp [h, unknown]
  disabled := by simp [h, unknown]
  wrong := by simp [h, unknown]
  accepted := by simp [h]
  named := by simp [unknown]

/-- Credentials that name an account but do not open it are rejected, for its status first. -/
theorem judged_of_refused {c : Credentials} {a : Account} (h : account? c.username = some a)
    (hname : a.username = c.username) (hclosed : a.enabled = true → c.password ≠ a.password) :
    Judged account? c (.error (.rejected (refusal a))) := by
  cases henabled : a.enabled with
  | false =>
    exact {
      unknown := by simp [h, refusal, henabled]
      disabled := by simp [h, refusal, henabled]
      wrong := by simp [h, refusal, henabled]
      accepted := by simp [h, henabled]
      named := by simp [refusal, hname] }
  | true =>
    have hwrong := hclosed henabled
    exact {
      unknown := by simp [h, refusal, henabled]
      disabled := by simp [h, refusal, henabled]
      wrong := by simp [h, refusal, henabled, hwrong]
      accepted := by simp [h, hwrong]
      named := by simp [refusal, hname] }

/-- Credentials that open an account give its identity. -/
theorem judged_of_open {c : Credentials} {a : Account} (h : account? c.username = some a)
    (hname : a.username = c.username) (henabled : a.enabled = true)
    (hpassword : c.password = a.password) :
    Judged account? c (.ok (some a.identity)) where
  unknown := by simp [h]
  disabled := by simp [h, henabled]
  wrong := by simp [h, hpassword]
  accepted := by
    intro identity
    simp only [h, Account.identity, hname, Except.ok.injEq, Option.some.injEq, exists_eq_left',
      henabled, hpassword, true_and]
    exact eq_comm
  named := nofun

/-- The reply to a pair of credentials follows the account of its name, if passwords can be
    compared. -/
theorem judged_answer {c : Credentials} (h : ¬ Stuck s.find? c) :
    Judged s.find? c (s.answer c).reply := by
  unfold answer
  rw [check_eq h]
  cases hfind : s.find? c.username with
  | none => exact judged_of_unknown hfind s
  | some a =>
    have hname := username_of_find? hfind
    dsimp only
    by_cases hopen : a.enabled = true ∧ a.password = c.password
    · rw [if_pos hopen]
      exact judged_of_open hfind hname hopen.1 hopen.2.symm
    · rw [if_neg hopen]
      exact judged_of_refused hfind hname fun henabled hpassword =>
        hopen ⟨henabled, hpassword.symm⟩

/-- If they can not, there is no reply to it. -/
theorem answer_of_stuck {c : Credentials} (h : Stuck s.find? c) :
    ∃ e, (s.answer c).reply = .error (.unencodable e) := by
  obtain ⟨a, hfind, henabled, hpasswords⟩ := h
  obtain ⟨e, he⟩ := check_of_unwritable hfind henabled hpasswords
  refine ⟨e, ?_⟩
  unfold answer
  rw [he]
  rfl

/-- A store mirrors what is found in it. -/
theorem mirrors_find? (s : Store) : s.Mirrors s.find? where
  size := s.encard_usernames.symm
  unnamed := by
    intro a h
    simp [step, insert, h, Fault.kind]
  added := by
    intro a h
    simp [step, insert, h]
  contains := fun _ => rfl
  authenticate := fun c => ⟨s.answer c, rfl, judged_answer, answer_of_stuck⟩

end

/-! ### A history -/

/-- An account without a name makes no store. -/
theorem ofAccounts_eq_error (hidesUnknown : Bool) {accounts : List Account}
    (h : ∃ a ∈ accounts, a.username = "") :
    ofAccounts hidesUnknown accounts = .error .emptyUsername := by
  unfold ofAccounts
  generalize empty hidesUnknown = s
  induction accounts generalizing s with
  | nil => exact absurd h (by simp)
  | cons a accounts ih =>
    rw [List.foldlM_cons, insert]
    by_cases ha : a.username = ""
    · rw [if_pos ha]
      rfl
    · rw [if_neg ha]
      have hrest : ∃ b ∈ accounts, b.username = "" := by simpa [ha] using h
      exact ih hrest _

/-- **The last account counts.**  Accounts with names make a store, one without a name makes none.
    After any history a store answers as one who knows the last account written for each name, but
    for passwords that can not be compared. -/
theorem mirrors_lastWritten (hidesUnknown : Bool) (accounts : List Account) :
    ((∃ a ∈ accounts, a.username = "") →
      ofAccounts hidesUnknown accounts = .error .emptyUsername) ∧
    ((∀ a ∈ accounts, a.username ≠ "") → ∃ s, ofAccounts hidesUnknown accounts = .ok s ∧
      ∀ steps, (s.after steps).Mirrors (lastWritten accounts steps)) := by
  refine ⟨ofAccounts_eq_error hidesUnknown, fun h => ?_⟩
  obtain ⟨s, hs, -, hfind⟩ := find?_ofAccounts hidesUnknown h
  refine ⟨s, hs, fun steps => ?_⟩
  have hlast : (s.after steps).find? = lastWritten accounts steps := by
    funext username
    rw [after_eq_foldl_put, find?_foldl_put, hfind, lastWritten, Account.last?_append]
  rw [← hlast]
  exact mirrors_find? _

/-- An account is written over at the start and another one later, between them an account without
    a name is refused.  No password with half a surrogate pair in it can be compared. -/
theorem mirrors_lastWritten_rod :
    let accounts : List Account := [⟨"rod", "koala", ["ADMIN"], true⟩, ⟨"rod", "wombat", [], false⟩]
    let steps : List Step :=
      [.contains "dianne", .add ⟨"", "emu", [], true⟩, .authenticate ⟨"rod", "koala"⟩,
        .add ⟨"dianne", "kö", ["USER", "ADMIN"], true⟩]
    ofAccounts true (⟨"", "emu", [], true⟩ :: accounts) = .error .emptyUsername ∧
      (∀ a ∈ accounts, a.username ≠ "") ∧
      ∃ s, ofAccounts true accounts = .ok s ∧
        (s.after steps).Mirrors (lastWritten accounts steps) ∧ (s.after steps).size = 2 ∧
        ((s.after steps).answer ⟨"dianne", "kö"⟩).reply =
          .ok (some ⟨"dianne", "user", ["USER", "ADMIN"], []⟩) ∧
        ((s.after steps).answer ⟨"rod", "koala"⟩).reply =
          .error (.rejected ⟨.disabled, "User is disabled", some "rod"⟩) ∧
        ∃ e, ((s.after steps).answer ⟨"dianne", Text.ofList [.surrogate 0]⟩).reply =
          .error (.unencodable e) := by
  intro accounts steps
  have hnamed : ∀ a ∈ accounts, a.username ≠ "" := by decide
  refine ⟨(mirrors_lastWritten true _).1 ⟨_, List.mem_cons_self, rfl⟩, hnamed, ?_⟩
  obtain ⟨s, hs, hmirrors⟩ := (mirrors_lastWritten true accounts).2 hnamed
  have hstore : s = accounts.foldl put (empty true) :=
    Except.ok.inj (hs.symm.trans (foldlM_insert hnamed _))
  have hstuck : Stuck (lastWritten accounts steps) ⟨"dianne", Text.ofList [.surrogate 0]⟩ :=
    ⟨⟨"dianne", "kö", ["USER", "ADMIN"], true⟩, rfl, rfl, by decide⟩
  obtain ⟨answer, hanswer, -, hfault⟩ := (hmirrors steps).authenticate _
  cases hanswer
  refine ⟨s, hs, hmirrors steps, ?_, ?_, ?_, hfault hstuck⟩
  all_goals rw [hstore]; rfl

end Turnstile.Store
