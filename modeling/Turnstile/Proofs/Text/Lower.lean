import Turnstile.Text.Lower

namespace Turnstile.Text

/-!
# Small letters in ASCII

* `lowerChar_of_ascii` — a character of ASCII has the small letter of ASCII;
* `lowerChar_of_not_ascii` — any other character has a small letter outside of ASCII, save one: the
  Kelvin sign, whose small letter is `k`;
* `lower_eq_iff` — **a word of ASCII without `k`** is the small form of those texts alone that spell
  it in the letters of ASCII.
-/

/-- A character of ASCII has the small letter of ASCII. -/
theorem lowerChar_of_ascii : ∀ c : CodePoint, c.toNat < 0x80 → lowerChar c = [c.toLower] :=
  CodePoint.forall_of_forall_lt (by decide +kernel)

/-- The capitals of a run are in ASCII, or the run is that of the Kelvin sign, or its small letters
    lie outside of ASCII. -/
theorem lowerRuns_cases : ∀ r ∈ lowerRuns, r.last < 0x80 ∨
    (r.first = 0x212A ∧ r.last = 0x212A ∧ r.small = 0x6B) ∨
    (0x80 ≤ r.small ∧ r.small + (r.last - r.first) < 0x110000) := by
  decide +kernel

/-- A character outside of ASCII has a small letter there, or it is the Kelvin sign. -/
theorem lowerChar_of_not_ascii {c : CodePoint} (h : 0x80 ≤ c.toNat) :
    ∃ d ∈ lowerChar c, 0x80 ≤ d.toNat ∨ d = 'k' := by
  unfold lowerChar
  split
  · exact ⟨CodePoint.ofNat 0x307, by simp, .inl (by decide)⟩
  · cases hfind : lowerRuns.find? fun r => r.has c.toNat with
    | none => exact ⟨c, List.mem_singleton_self c, .inl h⟩
    | some r =>
      have hhas := List.find?_some hfind
      simp only [LowerRun.has, Bool.and_eq_true, decide_eq_true_eq] at hhas
      obtain ⟨⟨hfirst, hlast⟩, -⟩ := hhas
      refine ⟨_, List.mem_singleton_self _, ?_⟩
      rcases lowerRuns_cases r (List.mem_of_find?_eq_some hfind) with hascii | hkelvin | hsmall
      · omega
      · obtain ⟨hf, hl, hs⟩ := hkelvin
        have hn : r.small + (c.toNat - r.first) = 0x6B := by omega
        exact .inr (by rw [hn]; rfl)
      · obtain ⟨hlow, hbound⟩ := hsmall
        rw [CodePoint.toNat_ofNat (by omega)]
        exact .inl (by omega)

/-- A character is in ASCII if its small letters are, and none of them is `k`. -/
theorem ascii_of_lowerChar {c : CodePoint} (h : ∀ d ∈ lowerChar c, d.toNat < 0x80 ∧ d ≠ 'k') :
    c.toNat < 0x80 := by
  by_cases hc : c.toNat < 0x80
  · exact hc
  · obtain ⟨d, hd, hout⟩ := lowerChar_of_not_ascii (Nat.not_lt.1 hc)
    obtain ⟨hlt, hne⟩ := h d hd
    rcases hout with hge | hk
    · omega
    · exact absurd hk hne

/-- A text is in ASCII if its small form is, and no `k` is in that. -/
theorem ascii_of_lowerFrom {b : Bool} {cs : List CodePoint}
    (h : ∀ d ∈ lowerFrom b cs, d.toNat < 0x80 ∧ d ≠ 'k') : ∀ c ∈ cs, c.toNat < 0x80 := by
  induction cs generalizing b with
  | nil => exact fun _ hc => nomatch hc
  | cons c cs ih =>
    unfold lowerFrom at h
    intro d hd
    rcases List.mem_cons.1 hd with rfl | hd
    · split at h
      · -- the final sigma is not in ASCII
        have hsigma := (h 'ς' (List.mem_append_left _ (List.mem_singleton_self _))).1
        exact absurd hsigma (by decide)
      · exact ascii_of_lowerChar fun e he => h e (List.mem_append_left _ he)
    · exact ih (fun e he => h e (List.mem_append_right _ he)) d hd

/-- A text in ASCII has the small form of ASCII. -/
theorem lower_of_ascii {cs : List CodePoint} (h : ∀ c ∈ cs, c.toNat < 0x80) :
    lower cs = cs.map CodePoint.toLower := by
  have hsigma : CodePoint.char 'Σ' ∉ cs := fun hmem => absurd (h _ hmem) (by decide)
  rw [lower_eq_flatMap hsigma]
  induction cs with
  | nil => rfl
  | cons c cs ih =>
    have htail := ih (fun d hd => h d (List.mem_cons_of_mem _ hd))
      fun hmem => hsigma (List.mem_cons_of_mem _ hmem)
    rw [List.flatMap_cons, lowerChar_of_ascii c (h c List.mem_cons_self), htail]
    rfl

/-- Taking the small letters of ASCII brings no other character into ASCII. -/
theorem toNat_lt_of_toLower {c : CodePoint} (h : c.toLower.toNat < 0x80) : c.toNat < 0x80 := by
  cases c with
  | char c =>
    replace h : c.toLower.toNat < 0x80 := h
    show c.toNat < 0x80
    unfold Char.toLower at h
    split at h
    · rename_i hcapital
      have hle : c.toNat ≤ 'Z'.toNat := UInt32.le_iff_toNat_le.1 hcapital.2
      have hz : 'Z'.toNat = 90 := rfl
      omega
    · exact h
  | surrogate n => exact h

/-- **A word of ASCII without `k`** is the small form of a text only if the text spells it in the
    letters of ASCII: no other character can stand for one of its letters. -/
theorem lower_eq_iff {cs word : List CodePoint} (hword : ∀ d ∈ word, d.toNat < 0x80 ∧ d ≠ 'k') :
    lower cs = word ↔ cs.map CodePoint.toLower = word := by
  constructor
  · rintro rfl
    exact (lower_of_ascii (ascii_of_lowerFrom hword)).symm
  · rintro rfl
    refine lower_of_ascii fun c hc => toNat_lt_of_toLower ?_
    exact (hword _ (List.mem_map_of_mem hc)).1

end Turnstile.Text
