import Turnstile.Proofs.Text.Parts
import Turnstile.UserMap

namespace Turnstile.UserMap

/-!
# Reading a user map

* `Standing.readAll_eq` — the attributes one after another or all at once;
* `accountOfLine_eq_ok_iff` — the account of a line;
* `entries`, `parseLines_eq_ok_iff` — the lines that count, and **the accounts of lines**;
* `username_ne_of_parse` — so every account of a user map has a name;
* `readLine`, `parseLines_cons` — what one line adds to the accounts of those behind it;
* `parseLines_append`, `parseLines_add` — **lines one behind the other**, and lines that are counted
  from a later number.
-/

/-! ### Attributes -/

/-- The roles among trimmed attributes: all that are neither empty nor a status. -/
def rolesOf (attributes : List (List CodePoint)) : List (List CodePoint) :=
  attributes.filter fun token => !token.isEmpty && (status? token).isNone

/-- The status that the last status word among trimmed attributes sets; an account is enabled unless
    told otherwise. -/
def enabledOf (attributes : List (List CodePoint)) : Bool :=
  ((attributes.filterMap status?).getLast?).getD true

namespace Standing

variable {s : Standing} {token : List CodePoint}

theorem readAll_cons (tokens : List (List CodePoint)) :
    s.readAll (token :: tokens) = (s.read token).readAll tokens := rfl

/-- Nothing sets no status. -/
theorem status?_nil : status? [] = none := rfl

/-- An empty attribute changes nothing. -/
theorem read_nil : s.read [] = s := rfl

/-- A status takes the place of the one before. -/
theorem read_of_status {enabled : Bool} (h : status? token = some enabled) :
    s.read token = { s with enabled := enabled } := by
  have hne : token.isEmpty = false := by
    cases token with
    | nil => nomatch status?_nil.symm.trans h
    | cons c cs => rfl
  unfold read
  rw [hne, h]
  rfl

/-- What is no status is a role, unless it is empty. -/
theorem read_of_role (h : status? token = none) (hne : token ≠ []) :
    s.read token = { s with roles := s.roles ++ [token] } := by
  unfold read
  rw [List.isEmpty_eq_false_iff.2 hne, h]
  rfl

/-- What is read off attributes one after another is what is read off all of them at once. -/
theorem readAll_eq_append (s : Standing) (tokens : List (List CodePoint)) :
    s.readAll tokens =
      ⟨((tokens.filterMap status?).getLast?).getD s.enabled, s.roles ++ rolesOf tokens⟩ := by
  induction tokens generalizing s with
  | nil =>
    rw [rolesOf, List.filter_nil, List.append_nil]
    rfl
  | cons token tokens ih =>
    rw [readAll_cons, ih]
    unfold rolesOf
    cases hstatus : status? token with
    | some enabled =>
      rw [read_of_status hstatus, List.filterMap_cons_some hstatus, List.getLast?_cons,
        List.filter_cons_of_neg (by simp [hstatus])]
      rfl
    | none =>
      rw [List.filterMap_cons_none hstatus]
      by_cases hempty : token = []
      · rw [hempty, List.filter_cons_of_neg (by simp)]
        rfl
      · rw [read_of_role hstatus hempty, List.filter_cons_of_pos (by simp [hempty, hstatus]),
          List.append_assoc]
        rfl

theorem readAll_eq (tokens : List (List CodePoint)) :
    readAll {} tokens = ⟨enabledOf tokens, rolesOf tokens⟩ :=
  readAll_eq_append {} tokens

end Standing

/-! ### Lines -/

/-- There is always something to be trimmed before the first comma. -/
theorem map_trim_fields_ne_nil (cs : List CodePoint) : (Text.fields ',' cs).map Text.trim ≠ [] := by
  rw [ne_eq, List.map_eq_nil_iff]
  exact Text.fields_ne_nil ',' cs

/-- **The account of a line.**  The username stands before the first `=`; behind it come the
    password and the attributes, between commas. -/
theorem accountOfLine_eq_ok_iff {line : List CodePoint} {a : Account} :
    accountOfLine line = .ok a ↔ ∃ name rest password attributes,
      Text.cut? '=' line = some (name, rest) ∧ Text.trim name ≠ [] ∧
      (Text.fields ',' rest).map Text.trim = password :: attributes ∧ password ≠ [] ∧
      a = { username := Text.ofList (Text.trim name)
            password := Text.ofList password
            roles := (rolesOf attributes).map Text.ofList
            enabled := enabledOf attributes } := by
  unfold accountOfLine
  simp only [Standing.readAll_eq]
  cases hcut : Text.cut? '=' line with
  | none => simp
  | some sides =>
    obtain ⟨name, rest⟩ := sides
    obtain ⟨password, attributes, hparts⟩ :=
      List.exists_cons_of_ne_nil (map_trim_fields_ne_nil rest)
    dsimp only
    rw [hparts]
    dsimp only [List.headD, List.tail]
    simp only [Option.some.injEq, Prod.mk.injEq, List.isEmpty_iff]
    constructor
    · intro h
      split at h
      · nomatch h
      · rename_i hname
        split at h
        · nomatch h
        · rename_i hpassword
          exact ⟨name, rest, password, attributes, ⟨rfl, rfl⟩, hname, hparts, hpassword,
            (Except.ok.inj h).symm⟩
    · rintro ⟨_, _, password', attributes', ⟨rfl, rfl⟩, hname, hparts', hpassword, rfl⟩
      obtain ⟨rfl, rfl⟩ := List.cons.inj (hparts.symm.trans hparts')
      rw [if_neg hname, if_neg hpassword]

/-- The lines that count, trimmed. -/
def entries (lines : List (List CodePoint)) : List (List CodePoint) :=
  (lines.map Text.trim).filter fun line => !isSkipped line

/-- A line that counts stands among the others that count. -/
theorem entries_of_counts {raw : List CodePoint} (h : isSkipped (Text.trim raw) = false)
    (before after : List (List CodePoint)) :
    entries (before ++ raw :: after) = entries before ++ Text.trim raw :: entries after := by
  simp [entries, h]

/-- **The accounts of lines** are those of the lines that count. -/
theorem parseLines_eq_ok_iff {number : Nat} {lines : List (List CodePoint)}
    {accounts : List Account} :
    parseLines number lines = .ok accounts ↔
      (entries lines).map accountOfLine = accounts.map .ok := by
  induction lines generalizing number accounts with
  | nil =>
    cases accounts with
    | nil => exact ⟨fun _ => rfl, fun _ => rfl⟩
    | cons a accounts => exact ⟨fun h => (nomatch h), fun h => (nomatch h)⟩
  | cons raw lines ih =>
    unfold parseLines entries
    rw [List.map_cons, List.filter_cons]
    dsimp only
    cases hskip : isSkipped (Text.trim raw) with
    | true => exact ih
    | false =>
      cases haccount : accountOfLine (Text.trim raw) with
      | error problem =>
        simp only [Bool.not_false, Bool.false_eq_true, if_false, if_true, List.map_cons, haccount]
        cases accounts <;> simp
      | ok a =>
        simp only [Bool.not_false, Bool.false_eq_true, if_false, if_true, List.map_cons, haccount]
        cases accounts with
        | nil =>
          cases parseLines (number + 1) lines <;> simp [Except.map, Functor.map]
        | cons b accounts =>
          rw [List.map_cons, List.cons.injEq, ← entries, ← @ih (number + 1) accounts]
          cases parseLines (number + 1) lines <;> simp [Except.map, Functor.map]

/-- An account that is read stands in a line that counts. -/
theorem exists_line_of_parse {text : Text} {accounts : List Account}
    (h : parse text = .ok accounts) {a : Account} (ha : a ∈ accounts) :
    ∃ raw ∈ Text.splitLines text.toList, isSkipped (Text.trim raw) = false ∧
      accountOfLine (Text.trim raw) = .ok a := by
  have hread : Except.ok a ∈ (entries (Text.splitLines text.toList)).map accountOfLine := by
    rw [parseLines_eq_ok_iff.1 h]
    exact List.mem_map_of_mem ha
  obtain ⟨line, hmem, hline⟩ := List.mem_map.1 hread
  obtain ⟨htrim, hcounts⟩ := List.mem_filter.1 hmem
  obtain ⟨raw, hraw, rfl⟩ := List.mem_map.1 htrim
  exact ⟨raw, hraw, by simpa using hcounts, hline⟩

/-- **Every account of a user map has a name.** -/
theorem username_ne_of_parse {text : Text} {accounts : List Account}
    (h : parse text = .ok accounts) : ∀ a ∈ accounts, a.username ≠ "" := by
  intro a ha
  obtain ⟨raw, -, -, hline⟩ := exists_line_of_parse h ha
  obtain ⟨name, rest, password, attributes, -, hname, -, -, rfl⟩ := accountOfLine_eq_ok_iff.1 hline
  rwa [ne_eq, Text.ofList_eq_empty_iff]

/-! ### Line by line -/

/-- The accounts that a line adds: its own, or none if it does not count. -/
def readLine (raw : List CodePoint) : Except Problem (List Account) :=
  if isSkipped (Text.trim raw) then .ok []
  else (accountOfLine (Text.trim raw)).map fun a => [a]

theorem parseLines_cons (number : Nat) (raw : List CodePoint) (lines : List (List CodePoint)) :
    parseLines number (raw :: lines) =
      match readLine raw with
      | .error problem => .error ⟨number, problem⟩
      | .ok added => (added ++ ·) <$> parseLines (number + 1) lines := by
  rw [parseLines]
  unfold readLine
  cases isSkipped (Text.trim raw) with
  | true => cases parseLines (number + 1) lines <;> rfl
  | false => cases accountOfLine (Text.trim raw) <;> rfl

/-- **Lines one behind the other** give their accounts one behind the other, unless there is a
    faulty line among the first ones. -/
theorem parseLines_append (number : Nat) (lines later : List (List CodePoint)) :
    parseLines number (lines ++ later) =
      parseLines number lines >>= fun accounts =>
        (accounts ++ ·) <$> parseLines (number + lines.length) later := by
  induction lines generalizing number with
  | nil =>
    show parseLines number later = ([] ++ ·) <$> parseLines number later
    cases parseLines number later <;> rfl
  | cons raw lines ih =>
    have hcount : number + (raw :: lines).length = number + 1 + lines.length := by
      rw [List.length_cons]
      omega
    rw [List.cons_append, parseLines_cons, parseLines_cons, ih, hcount]
    cases readLine raw with
    | error problem => rfl
    | ok added =>
      cases parseLines (number + 1) lines with
      | error e => rfl
      | ok accounts =>
        cases parseLines (number + 1 + lines.length) later with
        | error e => rfl
        | ok others => exact congrArg Except.ok (List.append_assoc added accounts others).symm

/-- An error that is found in lines which stand behind others. -/
def LineError.behind (count : Nat) (e : LineError) : LineError :=
  ⟨count + e.line, e.problem⟩

/-- Lines that are counted from a later number are read alike. -/
theorem parseLines_add (count number : Nat) (lines : List (List CodePoint)) :
    parseLines (count + number) lines =
      (parseLines number lines).mapError (LineError.behind count) := by
  induction lines generalizing number with
  | nil => rfl
  | cons raw lines ih =>
    rw [parseLines_cons, parseLines_cons, Nat.add_assoc, ih]
    cases readLine raw with
    | error problem => rfl
    | ok added => cases parseLines (number + 1) lines <;> rfl

end Turnstile.UserMap
