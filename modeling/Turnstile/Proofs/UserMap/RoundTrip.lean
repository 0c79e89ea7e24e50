import Mathlib.Data.List.Basic
import Turnstile.Proofs.Text.Blank
import Turnstile.Proofs.Text.Lower
import Turnstile.Proofs.UserMap

namespace Turnstile.UserMap

/-!
# User maps read and written

* `Fits`, `WellFormed` — the accounts that a user map can give;
* `lineOf`, `write` — the line of an account, and the user map of a list of accounts;
* `wellFormed_of_accountOfLine`, `WellFormed.accountOfLine_lineOf` — a line that is read gives a
  well-formed account, and the line of a well-formed account gives it back;
* `wellFormed_of_parse`, `parse_write` — the same for a text;
* `parse_onto_wellFormed` — **round trip**: a user map can be written for the accounts that are
  well-formed, and only these are ever read.
-/

/-! ### Well-formed accounts -/

/-- A text as it can stand between separators: it is not empty, trimmed, on one line, and the
    separator that would end it is not in it. -/
structure Fits (sep : CodePoint) (s : Text) : Prop where
  ne : s ≠ ""
  trimmed : Text.Trimmed s.toList
  oneLine : Text.OneLine s.toList
  unbroken : sep ∉ s.toList

/-- The word "enabled" or the word "disabled" in any letter case. -/
def IsStatus (token : List CodePoint) : Prop :=
  token.map CodePoint.toLower = Text.toList "enabled" ∨
    token.map CodePoint.toLower = Text.toList "disabled"

/-- An account as a user map can give it. -/
structure WellFormed (a : Account) : Prop where
  username : Fits '=' a.username
  /-- The line of the account is no comment. -/
  uncommented : a.username.toList.head? ≠ some (.char '#')
  password : Fits ',' a.password
  roles : ∀ role ∈ a.roles, Fits ',' role ∧ ¬ IsStatus role.toList

/-! ### Writing -/

/-- The word for a status. -/
def statusWord (enabled : Bool) : Text :=
  if enabled then "enabled" else "disabled"

/-- What stands behind the password of an account: its roles and its status. -/
def attributesOf (a : Account) : List (List CodePoint) :=
  (a.roles ++ [statusWord a.enabled]).map Text.toList

/-- The line of an account: `username=password`, and each attribute behind a comma. -/
def lineOf (a : Account) : List CodePoint :=
  a.username.toList ++ .char '=' :: (a.password.toList ++ (attributesOf a).flatMap (.char ',' :: ·))

/-- The user map of a list of accounts, one a line. -/
def write (accounts : List Account) : Text :=
  Text.ofList ([CodePoint.char '\n'].intercalate (accounts.map lineOf))

/-! ### Attributes -/

/-- The letters of the two words for a status are letters of ASCII, and none of them is `k`. -/
theorem ascii_status :
    ∀ d ∈ Text.toList "enabled" ++ Text.toList "disabled", d.toNat < 0x80 ∧ d ≠ 'k' := by
  have hall : (Text.toList "enabled" ++ Text.toList "disabled").all
      (fun d => decide (d.toNat < 0x80 ∧ d ≠ 'k')) = true := by decide
  simpa only [List.all_eq_true, decide_eq_true_eq] using hall

/-- An attribute sets a status exactly if it spells the word for it in the letters of ASCII. -/
theorem status?_eq_some_iff {token : List CodePoint} {enabled : Bool} :
    status? token = some enabled ↔ token.map CodePoint.toLower = (statusWord enabled).toList := by
  have hletters : ∀ d ∈ (statusWord enabled).toList,
      d ∈ Text.toList "enabled" ++ Text.toList "disabled" := by
    intro d hd
    cases enabled with
    | true => exact List.mem_append_left _ hd
    | false => exact List.mem_append_right _ hd
  rw [← Text.lower_eq_iff fun d hd => ascii_status d (hletters d hd)]
  unfold status?
  dsimp only
  split
  · rename_i h
    rw [h]
    cases enabled <;> decide
  · rename_i henabled
    split
    · rename_i h
      rw [h]
      cases enabled <;> decide
    · rename_i hdisabled
      cases enabled with
      | false => exact ⟨fun h => (nomatch h), fun h => absurd h hdisabled⟩
      | true => exact ⟨fun h => (nomatch h), fun h => absurd h henabled⟩

/-- An attribute is a role unless it spells the word for a status in the letters of ASCII. -/
theorem status?_eq_none_iff {token : List CodePoint} : status? token = none ↔ ¬ IsStatus token := by
  have hstatus : IsStatus token ↔ ∃ enabled, status? token = some enabled := by
    simp only [Bool.exists_bool, status?_eq_some_iff]
    exact or_comm
  rw [hstatus, ← Option.isSome_iff_exists, Bool.not_eq_true, Option.isSome_eq_false_iff,
    Option.isNone_iff_eq_none]

/-- The word for a status sets it. -/
theorem status?_statusWord (enabled : Bool) :
    status? (statusWord enabled).toList = some enabled := by
  rw [status?_eq_some_iff]
  cases enabled <;> decide

/-- What is a role is an attribute that is neither empty nor a status. -/
theorem mem_rolesOf {attributes : List (List CodePoint)} {token : List CodePoint} :
    token ∈ rolesOf attributes ↔ token ∈ attributes ∧ token ≠ [] ∧ ¬ IsStatus token := by
  unfold rolesOf
  rw [List.mem_filter]
  simp only [Bool.and_eq_true, Bool.not_eq_true', List.isEmpty_eq_false_iff,
    Option.isNone_iff_eq_none, status?_eq_none_iff]

section

variable {roles : List (List CodePoint)}

/-- Roles in front of a status are the roles. -/
theorem rolesOf_append_statusWord (h : ∀ role ∈ roles, role ≠ [] ∧ ¬ IsStatus role)
    (enabled : Bool) : rolesOf (roles ++ [(statusWord enabled).toList]) = roles := by
  have hroles : rolesOf roles = roles := by
    refine List.filter_eq_self.2 fun role hrole => ?_
    obtain ⟨hne, hstatus⟩ := h role hrole
    rw [status?_eq_none_iff.2 hstatus]
    simpa using hne
  have hword : rolesOf [(statusWord enabled).toList] = [] := by
    simp [rolesOf, status?_statusWord]
  unfold rolesOf at hroles hword ⊢
  rw [List.filter_append, hroles, hword, List.append_nil]

/-- A status behind roles is the status. -/
theorem enabledOf_append_statusWord (h : ∀ role ∈ roles, ¬ IsStatus role) (enabled : Bool) :
    enabledOf (roles ++ [(statusWord enabled).toList]) = enabled := by
  have hroles : roles.filterMap status? = [] :=
    List.filterMap_eq_nil_iff.2 fun role hrole => status?_eq_none_iff.2 (h role hrole)
  unfold enabledOf
  rw [List.filterMap_append, hroles, List.nil_append,
    List.filterMap_cons_some (status?_statusWord enabled)]
  rfl

end

/-! ### A line that is read -/

section

variable {line : List CodePoint} {a : Account}

/-- What trimming leaves of a part fits between the separators. -/
theorem fits_trim {sep : CodePoint} {part : List CodePoint} (hne : Text.trim part ≠ [])
    (hline : Text.OneLine part) (hsep : sep ∉ part) : Fits sep (Text.ofList (Text.trim part)) where
  ne := by rwa [ne_eq, Text.ofList_eq_empty_iff]
  trimmed := by
    rw [Text.toList_ofList]
    exact Text.trimmed_trim part
  oneLine := by
    rw [Text.toList_ofList]
    exact fun c hc => hline c (Text.mem_of_mem_trim hc)
  unbroken := by
    rw [Text.toList_ofList]
    exact fun hmem => hsep (Text.mem_of_mem_trim hmem)

/-- What is between two commas of a line fits there. -/
theorem fits_field {rest token : List CodePoint} (hline : Text.OneLine rest)
    (hmem : token ∈ (Text.fields ',' rest).map Text.trim) (hne : token ≠ []) :
    Fits ',' (Text.ofList token) := by
  obtain ⟨field, hfield, rfl⟩ := List.mem_map.1 hmem
  refine fits_trim hne (fun c hc => hline c ?_) fun hc => ?_
  · exact (Text.mem_of_mem_fields hfield hc).1
  · exact (Text.mem_of_mem_fields hfield hc).2 rfl

/-- The username of a line starts as the line does. -/
theorem head?_trim_name {name rest : List CodePoint} (htrimmed : Text.Trimmed line)
    (hcut : line = name ++ .char '=' :: rest) (hne : Text.trim name ≠ []) :
    (Text.trim name).head? = line.head? := by
  have hname : name ≠ [] := by
    rintro rfl
    exact hne rfl
  have hhead : line.head? = name.head? := by rw [hcut, List.head?_append_of_ne_nil _ hname]
  have hleft : Text.trimLeft name = name :=
    Text.trimLeft_eq_self fun c hc => htrimmed.1 c (by rwa [hhead])
  unfold Text.trim at hne ⊢
  rw [hleft] at hne ⊢
  rw [Text.head?_trimRight hne, hhead]

/-- A line that counts gives a well-formed account. -/
theorem wellFormed_of_accountOfLine (htrimmed : Text.Trimmed line) (hline : Text.OneLine line)
    (hcounts : isSkipped line = false) (h : accountOfLine line = .ok a) : WellFormed a := by
  obtain ⟨name, rest, password, attributes, hcut, hname, hparts, hpassword, rfl⟩ :=
    accountOfLine_eq_ok_iff.1 h
  obtain ⟨heq, hsep⟩ := Text.cut?_eq_some_iff.1 hcut
  have hrest : Text.OneLine rest := fun c hc => hline c (by simp [heq, hc])
  have hmem : ∀ token ∈ password :: attributes, token ∈ (Text.fields ',' rest).map Text.trim :=
    fun token ht => hparts ▸ ht
  refine ⟨fits_trim hname (fun c hc => hline c (by simp [heq, hc])) hsep, ?_,
    fits_field hrest (hmem _ List.mem_cons_self) hpassword, fun role hrole => ?_⟩
  · -- the line is no comment, and the username starts as the line does
    rw [Text.toList_ofList, head?_trim_name htrimmed heq hname]
    simp only [isSkipped, Bool.or_eq_false_iff, beq_eq_false_iff_ne] at hcounts
    exact hcounts.2
  · obtain ⟨token, htoken, rfl⟩ := List.mem_map.1 hrole
    obtain ⟨hmember, hne, hstatus⟩ := mem_rolesOf.1 htoken
    rw [Text.toList_ofList]
    exact ⟨fits_field hrest (hmem _ (List.mem_cons_of_mem _ hmember)) hne, hstatus⟩

/-! ### A line that has been written -/

theorem Fits.toList_ne {sep : CodePoint} {s : Text} (h : Fits sep s) : s.toList ≠ [] := by
  rw [ne_eq, Text.toList_eq_nil_iff]
  exact h.ne

/-- The attributes of a well-formed account are trimmed, on one line and without commas. -/
theorem WellFormed.attribute (h : WellFormed a) {token : List CodePoint}
    (htoken : token ∈ attributesOf a) :
    Text.Trimmed token ∧ Text.OneLine token ∧ CodePoint.char ',' ∉ token := by
  obtain ⟨s, hs, rfl⟩ := List.mem_map.1 htoken
  rcases List.mem_append.1 hs with hrole | hword
  · have hfits := (h.roles s hrole).1
    exact ⟨hfits.trimmed, hfits.oneLine, hfits.unbroken⟩
  · rw [List.mem_singleton.1 hword]
    cases a.enabled <;> decide

/-- The line of a well-formed account is on one line. -/
theorem WellFormed.oneLine (h : WellFormed a) : Text.OneLine (lineOf a) := by
  have hequals : Text.isLineEnd '=' = false := rfl
  have hcomma : Text.isLineEnd ',' = false := rfl
  intro c hc
  rcases List.mem_append.1 hc with hc | hc
  · exact h.username.oneLine c hc
  · rcases List.mem_cons.1 hc with rfl | hc
    · exact hequals
    · rcases List.mem_append.1 hc with hc | hc
      · exact h.password.oneLine c hc
      · obtain ⟨token, htoken, hc⟩ := List.mem_flatMap.1 hc
        rcases List.mem_cons.1 hc with rfl | hc
        · exact hcomma
        · exact (h.attribute htoken).2.1 c hc

/-- The line of a well-formed account starts with its username. -/
theorem WellFormed.head?_lineOf (h : WellFormed a) :
    (lineOf a).head? = a.username.toList.head? :=
  List.head?_append_of_ne_nil _ h.username.toList_ne

/-- The line of an account ends with the word for its status. -/
theorem getLast?_lineOf (a : Account) :
    (lineOf a).getLast? = (statusWord a.enabled).toList.getLast? := by
  have hword : (statusWord a.enabled).toList ≠ [] := by cases a.enabled <;> decide
  have hline : lineOf a = (a.username.toList ++ .char '=' :: (a.password.toList ++
      (a.roles.map Text.toList).flatMap (.char ',' :: ·)) ++ [.char ',']) ++
      (statusWord a.enabled).toList := by
    simp [lineOf, attributesOf]
  rw [hline, List.getLast?_append_of_ne_nil _ hword]

/-- The line of a well-formed account is trimmed. -/
theorem WellFormed.trimmed (h : WellFormed a) : Text.Trimmed (lineOf a) := by
  have hword : Text.Trimmed (statusWord a.enabled).toList := by cases a.enabled <;> decide
  constructor
  · rw [h.head?_lineOf]
    exact h.username.trimmed.1
  · rw [getLast?_lineOf]
    exact hword.2

/-- The line of a well-formed account counts. -/
theorem WellFormed.counts (h : WellFormed a) : isSkipped (lineOf a) = false := by
  have hne : lineOf a ≠ [] := by simp [lineOf]
  simp only [isSkipped, Bool.or_eq_false_iff, beq_eq_false_iff_ne, List.isEmpty_eq_false_iff]
  refine ⟨hne, ?_⟩
  rw [h.head?_lineOf]
  exact h.uncommented

/-- **A line is read as it was written.** -/
theorem WellFormed.accountOfLine_lineOf (h : WellFormed a) : accountOfLine (lineOf a) = .ok a := by
  have hfields : Text.fields ',' (a.password.toList ++ (attributesOf a).flatMap (.char ',' :: ·)) =
      a.password.toList :: attributesOf a :=
    Text.fields_flatMap h.password.unbroken fun token ht => (h.attribute ht).2.2
  have hattributes : (attributesOf a).map Text.trim = attributesOf a :=
    (List.map_congr_left fun token ht => Text.trim_eq_self (h.attribute ht).1).trans
      (List.map_id' _)
  have hroles : ∀ role ∈ a.roles.map Text.toList, role ≠ [] ∧ ¬ IsStatus role := by
    intro role hrole
    obtain ⟨s, hs, rfl⟩ := List.mem_map.1 hrole
    exact ⟨(h.roles s hs).1.toList_ne, (h.roles s hs).2⟩
  have hsplit : attributesOf a = a.roles.map Text.toList ++ [(statusWord a.enabled).toList] := by
    simp [attributesOf]
  rw [accountOfLine_eq_ok_iff]
  refine ⟨a.username.toList, _, a.password.toList, attributesOf a,
    Text.cut?_eq_some_iff.2 ⟨rfl, h.username.unbroken⟩, ?_, ?_, h.password.toList_ne, ?_⟩
  · rw [Text.trim_eq_self h.username.trimmed]
    exact h.username.toList_ne
  · rw [hfields, List.map_cons, Text.trim_eq_self h.password.trimmed, hattributes]
  · rw [hsplit, rolesOf_append_statusWord hroles,
      enabledOf_append_statusWord fun role hrole => (hroles role hrole).2,
      Text.trim_eq_self h.username.trimmed]
    simp

end

/-! ### A text -/

/-- **All accounts that are read are well-formed.** -/
theorem wellFormed_of_parse {text : Text} {accounts : List Account}
    (h : parse text = .ok accounts) : ∀ a ∈ accounts, WellFormed a := by
  intro a ha
  obtain ⟨raw, hraw, hcounts, hline⟩ := exists_line_of_parse h ha
  have honeLine : Text.OneLine (Text.trim raw) :=
    fun c hc => Text.oneLine_of_mem_splitLines hraw c (Text.mem_of_mem_trim hc)
  exact wellFormed_of_accountOfLine (Text.trimmed_trim raw) honeLine hcounts hline

/-- **Well-formed accounts are read as they are written.** -/
theorem parse_write {accounts : List Account} (h : ∀ a ∈ accounts, WellFormed a) :
    parse (write accounts) = .ok accounts := by
  have hlines : Text.splitLines (write accounts).toList = accounts.map lineOf := by
    unfold write
    rw [Text.toList_ofList]
    refine Text.splitLines_intercalate (fun line hline => ?_) fun line hline => ?_
    · obtain ⟨a, ha, rfl⟩ := List.mem_map.1 hline
      exact (h a ha).oneLine
    · obtain ⟨a, -, rfl⟩ := List.mem_map.1 hline
      simp [lineOf]
  -- every line counts, and trimming leaves it alone
  have hentries : entries (accounts.map lineOf) = accounts.map lineOf := by
    have htrim : (accounts.map lineOf).map Text.trim = accounts.map lineOf := by
      rw [List.map_map]
      exact List.map_congr_left fun a ha => Text.trim_eq_self (h a ha).trimmed
    unfold entries
    rw [htrim]
    refine List.filter_eq_self.2 fun line hline => ?_
    obtain ⟨a, ha, rfl⟩ := List.mem_map.1 hline
    rw [(h a ha).counts]
    rfl
  unfold parse
  rw [hlines, parseLines_eq_ok_iff, hentries, List.map_map]
  exact List.map_congr_left fun a ha => (h a ha).accountOfLine_lineOf

/-- **Round trip.**  All accounts that are read are well-formed, and well-formed accounts are read
    as they are written, in their order and as often as they are there; so what has been read can be
    written and is read again. -/
theorem parse_onto_wellFormed :
    (∀ text accounts, parse text = .ok accounts →
      (∀ a ∈ accounts, WellFormed a) ∧ parse (write accounts) = .ok accounts) ∧
    ∀ accounts, (∀ a ∈ accounts, WellFormed a) → parse (write accounts) = .ok accounts :=
  ⟨fun _ _ h => ⟨wellFormed_of_parse h, parse_write (wellFormed_of_parse h)⟩,
    fun _ h => parse_write h⟩

/-- One name twice, a status word for a password, and a line that ends in a vertical tab. -/
theorem parse_onto_wellFormed_rod :
    let accounts : List Account :=
      [⟨"rod", "a=b", ["#x", "ADMIN"], false⟩, ⟨"rod", "enabled", [], true⟩]
    parse "# users\n rod = a=b ,#x,,DisAbled, ADMIN\x0brod=enabled" = .ok accounts ∧
      (∀ a ∈ accounts, WellFormed a) ∧
      write accounts = "rod=a=b,#x,ADMIN,disabled\nrod=enabled,enabled" ∧
      parse (write accounts) = .ok accounts := by
  intro accounts
  have hparse : parse "# users\n rod = a=b ,#x,,DisAbled, ADMIN\x0brod=enabled" = .ok accounts :=
    rfl
  have hwellFormed := (parse_onto_wellFormed.1 _ _ hparse).1
  exact ⟨hparse, hwellFormed, rfl, parse_onto_wellFormed.2 _ hwellFormed⟩

end Turnstile.UserMap
