import Turnstile.Text.Blank

namespace Turnstile.Text

/-!
# Words between blanks

* `Blanks`, `Solid` — texts of blanks, and texts without any;
* `trimRight_append`, `eq_trimRight_append` — trimming takes away the blanks at the end and nothing
  else;
* `Trimmed`, `trimmed_trim`, `trim_eq_self` — trimming at both ends: it leaves a text with no blank
  at either, and leaves such a text alone;
* `firstWord?_append`, `eq_append_of_firstWord?` — **the first word** stands between blanks, and
  something other than blanks follows it.
-/

/-- A text of nothing but blanks. -/
def Blanks (cs : List CodePoint) : Prop :=
  ∀ c ∈ cs, isBlank c = true

/-- A text without blanks. -/
def Solid (cs : List CodePoint) : Prop :=
  ∀ c ∈ cs, isBlank c = false

instance (cs : List CodePoint) : Decidable (Blanks cs) :=
  decidable_of_iff (cs.all isBlank = true) List.all_eq_true

instance (cs : List CodePoint) : Decidable (Solid cs) :=
  decidable_of_iff (cs.all (fun c => !isBlank c) = true) (by simp [Solid])

/-- Blanks are dropped from the start of a text up to its first other character. -/
theorem trimLeft_append {lead cs : List CodePoint} (hlead : Blanks lead)
    (hcs : ∀ c ∈ cs.head?, isBlank c = false) : trimLeft (lead ++ cs) = cs := by
  unfold trimLeft
  rw [List.dropWhile_append_of_pos hlead]
  cases cs with
  | nil => rfl
  | cons c cs => exact List.dropWhile_cons_of_neg (by simp [hcs c rfl])

/-- Only blanks are dropped from the start of a text. -/
theorem eq_append_trimLeft (cs : List CodePoint) :
    ∃ lead, Blanks lead ∧ cs = lead ++ trimLeft cs :=
  ⟨cs.takeWhile isBlank, fun _ hc => List.all_eq_true.1 List.all_takeWhile _ hc,
    List.takeWhile_append_dropWhile.symm⟩

/-- What is left has no blank at its start. -/
theorem head?_trimLeft (cs : List CodePoint) : ∀ c ∈ (trimLeft cs).head?, isBlank c = false := by
  intro c hc
  have h := List.head?_dropWhile_not isBlank cs
  rw [show (cs.dropWhile isBlank).head? = some c from hc] at h
  exact h

/-- Blanks behind a text without any are trimmed. -/
theorem trimRight_append {cs tail : List CodePoint} (hcs : Solid cs) (htail : Blanks tail) :
    trimRight (cs ++ tail) = cs := by
  have hhead : ∀ c ∈ cs.reverse.head?, isBlank c = false := fun c hc =>
    hcs c (List.mem_reverse.1 (List.mem_of_mem_head? hc))
  have hleft : (tail.reverse ++ cs.reverse).dropWhile isBlank = cs.reverse :=
    trimLeft_append (fun c hc => htail c (List.mem_reverse.1 hc)) hhead
  unfold trimRight
  rw [List.reverse_append, hleft, List.reverse_reverse]

/-- Only blanks are trimmed from the end of a text. -/
theorem eq_trimRight_append (cs : List CodePoint) :
    ∃ tail, Blanks tail ∧ cs = trimRight cs ++ tail := by
  obtain ⟨lead, hlead, heq⟩ := eq_append_trimLeft cs.reverse
  refine ⟨lead.reverse, fun c hc => hlead c (List.mem_reverse.1 hc), ?_⟩
  have hback := congrArg List.reverse heq
  rw [List.reverse_reverse, List.reverse_append] at hback
  exact hback

/-! ### Trimming at both ends -/

/-- A text with no blank at either end. -/
def Trimmed (cs : List CodePoint) : Prop :=
  (∀ c ∈ cs.head?, isBlank c = false) ∧ ∀ c ∈ cs.getLast?, isBlank c = false

instance (cs : List CodePoint) : Decidable (Trimmed cs) :=
  decidable_of_iff ((cs.head?.all fun c => !isBlank c) = true ∧
    (cs.getLast?.all fun c => !isBlank c) = true) (by simp [Trimmed, Option.all_eq_true])

/-- Trimming takes away blanks alone. -/
theorem eq_append_trim (cs : List CodePoint) :
    ∃ lead tail, Blanks lead ∧ Blanks tail ∧ cs = lead ++ (trim cs ++ tail) := by
  obtain ⟨lead, hlead, hleft⟩ := eq_append_trimLeft cs
  obtain ⟨tail, htail, hright⟩ := eq_trimRight_append (trimLeft cs)
  refine ⟨lead, tail, hlead, htail, ?_⟩
  rw [trim, ← hright]
  exact hleft

/-- Nothing is left of a text exactly if there is nothing in it but blanks. -/
theorem trim_eq_nil_iff {cs : List CodePoint} : trim cs = [] ↔ Blanks cs := by
  constructor
  · intro h
    obtain ⟨lead, tail, hlead, htail, heq⟩ := eq_append_trim cs
    rw [h, List.nil_append] at heq
    intro c hc
    rw [heq] at hc
    exact (List.mem_append.1 hc).elim (hlead c) (htail c)
  · intro h
    have hleft : trimLeft (cs ++ []) = [] := trimLeft_append h nofun
    rw [List.append_nil] at hleft
    rw [trim, hleft]
    rfl

/-- Trimming adds no character. -/
theorem mem_of_mem_trim {c : CodePoint} {cs : List CodePoint} (h : c ∈ trim cs) : c ∈ cs := by
  obtain ⟨lead, tail, -, -, heq⟩ := eq_append_trim cs
  rw [heq]
  exact List.mem_append_right _ (List.mem_append_left _ h)

/-- A text of which something is left starts as before if it did not start with a blank. -/
theorem head?_trimRight {cs : List CodePoint} (h : trimRight cs ≠ []) :
    (trimRight cs).head? = cs.head? := by
  obtain ⟨tail, -, heq⟩ := eq_trimRight_append cs
  obtain ⟨c, rest, hc⟩ := List.exists_cons_of_ne_nil h
  rw [hc] at heq ⊢
  rw [heq]
  rfl

/-- What is left has no blank at its end. -/
theorem getLast?_trimRight (cs : List CodePoint) :
    ∀ c ∈ (trimRight cs).getLast?, isBlank c = false := by
  intro c hc
  rw [trimRight, List.getLast?_reverse] at hc
  exact head?_trimLeft cs.reverse c hc

/-- What trimming leaves is trimmed. -/
theorem trimmed_trim (cs : List CodePoint) : Trimmed (trim cs) := by
  refine ⟨fun c hc => ?_, getLast?_trimRight _⟩
  have hne : trim cs ≠ [] := by
    intro hnil
    rw [hnil] at hc
    nomatch hc
  rw [trim, head?_trimRight hne] at hc
  exact head?_trimLeft cs c hc

/-- A text that does not start with a blank keeps its start. -/
theorem trimLeft_eq_self {cs : List CodePoint} (h : ∀ c ∈ cs.head?, isBlank c = false) :
    trimLeft cs = cs := by
  have hnone : Blanks [] := fun _ hc => nomatch hc
  exact trimLeft_append hnone h

/-- A trimmed text is left alone. -/
theorem trim_eq_self {cs : List CodePoint} (h : Trimmed cs) : trim cs = cs := by
  have hreversed : trimLeft cs.reverse = cs.reverse :=
    trimLeft_eq_self fun c hc => h.2 c (by rwa [List.head?_reverse] at hc)
  rw [trim, trimLeft_eq_self h.1]
  show (trimLeft cs.reverse).reverse = cs
  rw [hreversed, List.reverse_reverse]

/-- Blanks in front of a text are trimmed away. -/
theorem trim_append_left {lead : List CodePoint} (h : Blanks lead) (cs : List CodePoint) :
    trim (lead ++ cs) = trim cs := by
  unfold trim trimLeft
  rw [List.dropWhile_append_of_pos h]

/-- A text in which there is something other than blanks starts alike, whatever follows it. -/
theorem trimLeft_append_of_not_blanks {cs : List CodePoint} (h : ¬ Blanks cs)
    (more : List CodePoint) : trimLeft (cs ++ more) = trimLeft cs ++ more := by
  have hleft : trimLeft cs ≠ [] := by
    intro hnil
    obtain ⟨lead, hlead, heq⟩ := eq_append_trimLeft cs
    rw [hnil, List.append_nil] at heq
    exact h (heq ▸ hlead)
  unfold trimLeft at hleft ⊢
  rw [List.dropWhile_append, if_neg (by simpa using hleft)]

/-- Blanks behind a text are trimmed away. -/
theorem trim_append_right {tail : List CodePoint} (h : Blanks tail) (cs : List CodePoint) :
    trim (cs ++ tail) = trim cs := by
  by_cases hcs : Blanks cs
  · have hboth : Blanks (cs ++ tail) := fun c hc => (List.mem_append.1 hc).elim (hcs c) (h c)
    rw [trim_eq_nil_iff.2 hboth, trim_eq_nil_iff.2 hcs]
  · have hreversed : Blanks tail.reverse := fun c hc => h c (List.mem_reverse.1 hc)
    unfold trim
    rw [trimLeft_append_of_not_blanks hcs]
    unfold trimRight
    rw [List.reverse_append, List.dropWhile_append_of_pos hreversed]

/-- What is left of a text starts alike, whatever follows it. -/
theorem head?_trim_append {cs : List CodePoint} (h : ¬ Blanks cs) (more : List CodePoint) :
    (trim (cs ++ more)).head? = (trim cs).head? := by
  have hne : trim cs ≠ [] := mt trim_eq_nil_iff.1 h
  have hboth : trim (cs ++ more) ≠ [] := fun hnil =>
    h fun c hc => trim_eq_nil_iff.1 hnil c (List.mem_append_left more hc)
  unfold trim at hne hboth ⊢
  rw [head?_trimRight hboth, head?_trimRight hne, trimLeft_append_of_not_blanks h]
  cases hleft : trimLeft cs with
  | nil =>
    rw [hleft] at hne
    exact absurd rfl hne
  | cons c rest => rfl

/-! ### The first word -/

/-- **The first word** of a text that has blanks around it and something behind them. -/
theorem firstWord?_append {lead word gap rs : List CodePoint} {r : CodePoint} (hlead : Blanks lead)
    (hword : Solid word) (hword_ne : word ≠ []) (hgap : Blanks gap) (hgap_ne : gap ≠ [])
    (hr : isBlank r = false) :
    firstWord? (lead ++ (word ++ (gap ++ r :: rs))) = some (word, r :: rs) := by
  have hrest : ∀ c ∈ (r :: rs).head?, isBlank c = false := fun c hc => Option.some.inj hc ▸ hr
  have hstart : ∀ c ∈ (word ++ (gap ++ r :: rs)).head?, isBlank c = false := by
    obtain ⟨w, ws, rfl⟩ := List.exists_cons_of_ne_nil hword_ne
    intro c hc
    rw [← Option.some.inj hc]
    exact hword w List.mem_cons_self
  have hsolid : ∀ c ∈ word, (!isBlank c) = true := fun c hc => by simp [hword c hc]
  -- the word ends where the gap begins
  obtain ⟨b, bs, rfl⟩ := List.exists_cons_of_ne_nil hgap_ne
  have hb : isBlank b = true := hgap b List.mem_cons_self
  have htake : (word ++ (b :: bs ++ r :: rs)).takeWhile (fun c => !isBlank c) = word := by
    rw [List.takeWhile_append_of_pos hsolid]
    simp [hb]
  have hdrop : (word ++ (b :: bs ++ r :: rs)).dropWhile (fun c => !isBlank c) =
      b :: bs ++ r :: rs := by
    rw [List.dropWhile_append_of_pos hsolid]
    simp [hb]
  unfold firstWord?
  simp only [trimLeft_append hlead hstart, htake, hdrop, trimLeft_append hgap hrest]
  simp [hword_ne]

/-- **The first word** stands between blanks, and what follows it does not start with one. -/
theorem eq_append_of_firstWord? {cs word rest : List CodePoint}
    (h : firstWord? cs = some (word, rest)) :
    ∃ lead gap, cs = lead ++ (word ++ (gap ++ rest)) ∧ Blanks lead ∧ Blanks gap ∧ gap ≠ [] ∧
      ∃ r rs, rest = r :: rs ∧ isBlank r = false := by
  unfold firstWord? at h
  dsimp only at h
  split at h
  · nomatch h
  · rename_i hne
    simp only [Bool.or_eq_true, List.isEmpty_iff, not_or] at hne
    obtain ⟨hword, hrest⟩ := Prod.mk.inj (Option.some.inj h)
    obtain ⟨lead, hlead, hcs⟩ := eq_append_trimLeft cs
    obtain ⟨gap, hgap, hbehind⟩ :=
      eq_append_trimLeft ((trimLeft cs).dropWhile fun c => !isBlank c)
    have hsolid := head?_trimLeft ((trimLeft cs).dropWhile fun c => !isBlank c)
    rw [hrest] at hbehind hne hsolid
    obtain ⟨r, rs, rfl⟩ := List.exists_cons_of_ne_nil hne.2
    have hr : isBlank r = false := hsolid r rfl
    have hstart := List.takeWhile_append_dropWhile (p := fun c => !isBlank c) (l := trimLeft cs)
    rw [hword, hbehind] at hstart
    refine ⟨lead, gap, by rw [hstart]; exact hcs, hlead, hgap, ?_, r, rs, rfl, hr⟩
    -- what follows the word starts with a blank, and what follows the gap does not
    rintro rfl
    have hblank := List.head?_dropWhile_not (fun c => !isBlank c) (trimLeft cs)
    rw [hbehind] at hblank
    simp [hr] at hblank

end Turnstile.Text
