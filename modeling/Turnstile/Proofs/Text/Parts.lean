import Turnstile.Text.Lines

namespace Turnstile.Text

/-!
# Fields and lines put together again

* `mem_of_mem_fields` — **fields**: their characters come from the text, and none is the separator;
* `fields_flatMap`, `eq_of_fields` — parts with a separator in front of each but the first are taken
  apart again, and a text is made of its fields in this way;
* `OneLine` — a text in which no line ends;
* `oneLine_of_mem_splitLines`, `splitLines_intercalate` — **lines**: each is a text on one line, and
  lines joined by line feeds are taken apart again unless one of them is empty;
* `splitLines_append_newline`, `splitLines_newline` — behind a line feed the lines start anew, and a
  line feed at the end adds an empty line at most.
-/

/-! ### Fields -/

/-- There is always a first part to be extended. -/
theorem extendFirst_eq_modifyHead {c : CodePoint} {parts : List (List CodePoint)} (h : parts ≠ []) :
    extendFirst c parts = parts.modifyHead (List.cons c) := by
  cases parts with
  | nil => exact absurd rfl h
  | cons part parts => rfl

/-- The fields of a text are its parts between the separators. -/
theorem fields_eq_splitOn (sep : CodePoint) (cs : List CodePoint) :
    fields sep cs = cs.splitOn sep := by
  induction cs with
  | nil => rfl
  | cons c cs ih =>
    rw [fields, ih, List.splitOn_cons_eq_if_modifyHead,
      extendFirst_eq_modifyHead (List.splitOn_ne_nil _ _)]
    simp only [beq_iff_eq]

/-- There is always a first field. -/
theorem fields_ne_nil (sep : CodePoint) (cs : List CodePoint) : fields sep cs ≠ [] := by
  rw [fields_eq_splitOn]
  exact List.splitOn_ne_nil sep cs

/-- Parts that do not hold the separator are the fields of the text in which it stands in front of
    each of them but the first. -/
theorem fields_flatMap {sep : CodePoint} {part : List CodePoint} {parts : List (List CodePoint)}
    (hpart : sep ∉ part) (hparts : ∀ p ∈ parts, sep ∉ p) :
    fields sep (part ++ parts.flatMap (sep :: ·)) = part :: parts := by
  rw [fields_eq_splitOn]
  induction parts generalizing part with
  | nil =>
    rw [List.flatMap_nil, List.append_nil]
    exact List.splitOn_eq_singleton hpart
  | cons next parts ih =>
    rw [List.flatMap_cons, List.cons_append, List.splitOn_append_cons_self_of_not_mem hpart,
      ih (hparts next List.mem_cons_self) fun p hp => hparts p (List.mem_cons_of_mem _ hp)]

/-- Joining parts puts the separator in front of each of them but the first. -/
theorem intercalate_eq_flatMap (sep : CodePoint) (part : List CodePoint)
    (parts : List (List CodePoint)) :
    [sep].intercalate (part :: parts) = part ++ parts.flatMap (sep :: ·) := by
  induction parts generalizing part with
  | nil => simp
  | cons next parts ih =>
    rw [List.intercalate_cons_of_ne_nil (List.cons_ne_nil next parts), ih]
    simp

/-- A text is its first field, and each further field behind a separator. -/
theorem eq_of_fields {sep : CodePoint} {cs part : List CodePoint} {parts : List (List CodePoint)}
    (h : fields sep cs = part :: parts) : cs = part ++ parts.flatMap (sep :: ·) := by
  have hjoined : [sep].intercalate (cs.splitOn sep) = cs := List.intercalate_splitOn sep
  rw [fields_eq_splitOn] at h
  rwa [h, intercalate_eq_flatMap, eq_comm] at hjoined

/-- The first field goes on up to the first separator. -/
theorem fields_append {sep : CodePoint} {part more : List CodePoint} (hpart : sep ∉ part)
    (hmore : ∀ c ∈ more.head?, c = sep) : ∃ parts, fields sep (part ++ more) = part :: parts := by
  rw [fields_eq_splitOn]
  cases more with
  | nil =>
    rw [List.append_nil]
    exact ⟨[], List.splitOn_eq_singleton hpart⟩
  | cons c more =>
    rw [hmore c rfl]
    exact ⟨_, List.splitOn_append_cons_self_of_not_mem hpart more⟩

/-- A text without the separator lengthens the last field alone. -/
theorem exists_fields_append {sep : CodePoint} {tail : List CodePoint} (htail : sep ∉ tail)
    (cs : List CodePoint) : ∃ parts last, fields sep cs = parts ++ [last] ∧
      fields sep (cs ++ tail) = parts ++ [last ++ tail] := by
  induction cs with
  | nil =>
    have hwhole : fields sep tail = [tail] := by
      rw [fields_eq_splitOn]
      exact List.splitOn_eq_singleton htail
    exact ⟨[], [], rfl, hwhole⟩
  | cons c cs ih =>
    obtain ⟨parts, last, hfields, hlonger⟩ := ih
    rw [List.cons_append, fields, fields, hfields, hlonger]
    by_cases hc : c = sep
    · rw [if_pos hc, if_pos hc]
      exact ⟨[] :: parts, last, rfl, rfl⟩
    · rw [if_neg hc, if_neg hc]
      cases parts with
      | nil => exact ⟨[], c :: last, rfl, rfl⟩
      | cons part parts => exact ⟨(c :: part) :: parts, last, rfl, rfl⟩

/-- What a part is made of is what it has been extended by, and what was in the parts. -/
theorem mem_of_mem_extendFirst {c d : CodePoint} {parts : List (List CodePoint)}
    {part : List CodePoint} (h : part ∈ extendFirst c parts) (hd : d ∈ part) :
    d = c ∨ ∃ old ∈ parts, d ∈ old := by
  cases parts with
  | nil =>
    rw [List.mem_singleton.1 h] at hd
    exact .inl (List.mem_singleton.1 hd)
  | cons first parts =>
    rcases List.mem_cons.1 h with rfl | h
    · rcases List.mem_cons.1 hd with rfl | hd
      · exact .inl rfl
      · exact .inr ⟨first, List.mem_cons_self, hd⟩
    · exact .inr ⟨part, List.mem_cons_of_mem _ h, hd⟩

/-- All characters of all fields come from the text, and none of them is the separator. -/
theorem mem_of_mem_fields {sep d : CodePoint} {cs field : List CodePoint}
    (h : field ∈ fields sep cs) (hd : d ∈ field) : d ∈ cs ∧ d ≠ sep := by
  induction cs generalizing field with
  | nil =>
    rw [List.mem_singleton.1 h] at hd
    nomatch hd
  | cons c cs ih =>
    have hlater : ∀ {old}, old ∈ fields sep cs → d ∈ old → d ∈ c :: cs ∧ d ≠ sep :=
      fun hold hd => ⟨List.mem_cons_of_mem _ (ih hold hd).1, (ih hold hd).2⟩
    rw [fields] at h
    split at h
    · -- a field ends here, and what there is of it is empty
      rcases List.mem_cons.1 h with rfl | h
      · nomatch hd
      · exact hlater h hd
    · rename_i hc
      rcases mem_of_mem_extendFirst h hd with rfl | ⟨old, hold, hd⟩
      · exact ⟨List.mem_cons_self, hc⟩
      · exact hlater hold hd

/-! ### Lines -/

/-- A text in which no line ends. -/
def OneLine (cs : List CodePoint) : Prop :=
  ∀ c ∈ cs, isLineEnd c = false

instance (cs : List CodePoint) : Decidable (OneLine cs) :=
  decidable_of_iff (cs.all (fun c => !isLineEnd c) = true) (by simp [OneLine])

/-- Where no line ends, the first line goes on. -/
theorem splitLines_cons {c : CodePoint} (h : isLineEnd c = false) (cs : List CodePoint) :
    splitLines (c :: cs) = extendFirst c (splitLines cs) := by
  have hreturn : c ≠ '\r' := by
    rintro rfl
    nomatch h
  rw [splitLines]
  · rw [h]
    rfl
  · intro rest hc
    exact absurd hc hreturn

/-- Each line of a text is on one line. -/
theorem oneLine_of_mem_splitLines {cs line : List CodePoint} (h : line ∈ splitLines cs) :
    OneLine line := by
  fun_induction splitLines cs generalizing line with
  | case1 => nomatch h
  | case2 cs ih =>
    rcases List.mem_cons.1 h with rfl | h
    · exact fun _ hc => nomatch hc
    · exact ih h
  | case3 c cs _ _ ih =>
    rcases List.mem_cons.1 h with rfl | h
    · exact fun _ hc => nomatch hc
    · exact ih h
  | case4 c cs _ hend ih =>
    intro d hd
    rcases mem_of_mem_extendFirst h hd with rfl | ⟨old, hold, hd⟩
    · exact Bool.eq_false_iff.2 hend
    · exact ih hold d hd

/-- A line is followed by the lines behind its end. -/
theorem splitLines_append {line : List CodePoint} (h : OneLine line) (cs : List CodePoint) :
    splitLines (line ++ .char '\n' :: cs) = line :: splitLines cs := by
  induction line with
  | nil => rfl
  | cons c line ih =>
    rw [List.cons_append, splitLines_cons (h c List.mem_cons_self),
      ih fun d hd => h d (List.mem_cons_of_mem _ hd)]
    rfl

/-- A text on one line is its own single line, unless it is empty. -/
theorem splitLines_eq_singleton {line : List CodePoint} (h : OneLine line) (hne : line ≠ []) :
    splitLines line = [line] := by
  induction line with
  | nil => exact absurd rfl hne
  | cons c line ih =>
    rw [splitLines_cons (h c List.mem_cons_self)]
    by_cases hline : line = []
    · rw [hline]
      rfl
    · rw [ih (fun d hd => h d (List.mem_cons_of_mem _ hd)) hline]
      rfl

/-- **Lines** that are joined by line feeds are taken apart again, unless one of them is empty. -/
theorem splitLines_intercalate {lines : List (List CodePoint)} (h : ∀ line ∈ lines, OneLine line)
    (hne : ∀ line ∈ lines, line ≠ []) :
    splitLines ([CodePoint.char '\n'].intercalate lines) = lines := by
  induction lines with
  | nil => rfl
  | cons line lines ih =>
    have hline := h line List.mem_cons_self
    by_cases hlast : lines = []
    · rw [hlast, List.intercalate_singleton]
      exact splitLines_eq_singleton hline (hne line List.mem_cons_self)
    · rw [List.intercalate_cons_of_ne_nil hlast, List.append_assoc, List.singleton_append,
        splitLines_append hline, ih (fun l hl => h l (List.mem_cons_of_mem _ hl))
          fun l hl => hne l (List.mem_cons_of_mem _ hl)]

/-! ### Texts one behind the other -/

/-- Only an empty text has no lines. -/
theorem splitLines_ne_nil {cs : List CodePoint} (h : cs ≠ []) : splitLines cs ≠ [] := by
  fun_cases splitLines cs with
  | case1 => exact absurd rfl h
  | case2 => exact List.cons_ne_nil _ _
  | case3 => exact List.cons_ne_nil _ _
  | case4 c cs _ _ => cases splitLines cs <;> exact List.cons_ne_nil _ _

/-- Where there is a line to go on with, it alone gets the character. -/
theorem extendFirst_append {c : CodePoint} {parts : List (List CodePoint)} (h : parts ≠ [])
    (later : List (List CodePoint)) :
    extendFirst c (parts ++ later) = extendFirst c parts ++ later := by
  cases parts with
  | nil => exact absurd rfl h
  | cons part parts => rfl

/-- A character at which a line ends is the end of an empty line, unless it is a carriage return in
    front of a line feed. -/
theorem splitLines_cons_of_end {c : CodePoint} {cs : List CodePoint} (h : isLineEnd c = true)
    (hpair : ¬ (c = '\r' ∧ cs.head? = some (.char '\n'))) :
    splitLines (c :: cs) = [] :: splitLines cs := by
  rw [splitLines]
  · rw [if_pos h]
  · rintro rest rfl rfl
    exact hpair ⟨rfl, rfl⟩

theorem splitLines_cons_cons {c d : CodePoint} {cs : List CodePoint} (h : isLineEnd c = true)
    (hpair : ¬ (c = '\r' ∧ d = '\n')) :
    splitLines (c :: d :: cs) = [] :: splitLines (d :: cs) :=
  splitLines_cons_of_end h fun hboth => hpair ⟨hboth.1, Option.some.inj hboth.2⟩

/-- **Behind a line feed the lines start anew**, although the line feed may belong to a carriage
    return in front of it. -/
theorem splitLines_append_newline (cs later : List CodePoint) :
    splitLines (cs ++ .char '\n' :: later) =
      splitLines (cs ++ [.char '\n']) ++ splitLines later := by
  fun_induction splitLines cs with
  | case1 => rfl
  | case2 cs ih => exact congrArg ([] :: ·) ih
  | case3 c cs hpair hend ih =>
    cases cs with
    | nil =>
      by_cases hreturn : c = '\r'
      · rw [hreturn]
        rfl
      · rw [List.cons_append, splitLines_cons_of_end hend fun h => hreturn h.1, ih,
          List.cons_append, splitLines_cons_of_end hend fun h => hreturn h.1]
        rfl
    | cons d cs =>
      have hnext : ¬ (c = '\r' ∧ d = '\n') := fun h => hpair cs h.1 (congrArg (· :: cs) h.2)
      simp only [List.cons_append] at ih ⊢
      rw [splitLines_cons_cons hend hnext, splitLines_cons_cons hend hnext, ih]
      rfl
  | case4 c cs _ hend ih =>
    have hgoes := splitLines_cons (Bool.eq_false_iff.2 hend)
    rw [List.cons_append, hgoes, ih, List.cons_append, hgoes,
      extendFirst_append (splitLines_ne_nil (List.append_ne_nil_of_right_ne_nil cs (by simp)))]

/-- A line feed at the end of a text adds an empty line at most. -/
theorem splitLines_newline (cs : List CodePoint) :
    splitLines (cs ++ [.char '\n']) = splitLines cs ∨
      splitLines (cs ++ [.char '\n']) = splitLines cs ++ [[]] := by
  fun_induction splitLines cs with
  | case1 => exact .inr rfl
  | case2 cs ih => exact ih.imp (congrArg ([] :: ·)) (congrArg ([] :: ·))
  | case3 c cs hpair hend ih =>
    cases cs with
    | nil =>
      by_cases hreturn : c = '\r'
      · rw [hreturn]
        exact .inl rfl
      · rw [List.cons_append, splitLines_cons_of_end hend fun h => hreturn h.1]
        exact .inr rfl
    | cons d cs =>
      have hnext : ¬ (c = '\r' ∧ d = '\n') := fun h => hpair cs h.1 (congrArg (· :: cs) h.2)
      simp only [List.cons_append] at ih ⊢
      rw [splitLines_cons_cons hend hnext]
      exact ih.imp (congrArg ([] :: ·)) (congrArg ([] :: ·))
  | case4 c cs _ hend ih =>
    have hgoes := splitLines_cons (Bool.eq_false_iff.2 hend)
    rw [List.cons_append, hgoes]
    by_cases hcs : cs = []
    · rw [hcs]
      exact .inl rfl
    · refine ih.imp (congrArg (extendFirst c)) fun h => ?_
      rw [h, extendFirst_append (splitLines_ne_nil hcs)]

end Turnstile.Text
