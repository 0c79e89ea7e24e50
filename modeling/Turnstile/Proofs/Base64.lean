import Turnstile.Base64
import Turnstile.Proofs.Text.Blank

namespace Turnstile.Base64

/-!
# Base64 is read back as it was written

* `Spells` — the form of a base64 text: symbols, and padding that fits their number;
* `decode?_eq_some_iff` — **exactly these texts are read**, and no others;
* `spells_encode` — what is written for bytes has the form, so that it is read back;
* `Spells.solid` — no such text holds a blank.
-/

/-! ### Symbols -/

/-- A symbol stands for its number. -/
theorem value?_symbol : ∀ n < 64, value? (symbol n) = some n := by
  decide +kernel

/-- The mark of padding is no symbol. -/
theorem symbol_ne_pad : ∀ n < 64, symbol n ≠ '=' := by
  decide +kernel

/-- No symbol is blank. -/
theorem isBlank_symbol : ∀ n < 64, Text.isBlank (symbol n) = false := by
  decide +kernel

/-- There is nothing but symbols in the alphabet, each for a number of six bits. -/
theorem symbol_of_value? {c : CodePoint} {n : Nat} (h : value? c = some n) :
    n < 64 ∧ symbol n = c := by
  have hascii : ∀ c : CodePoint, c.toNat < 128 →
      (value? c).all (fun n => decide (n < 64 ∧ symbol n = c)) = true :=
    CodePoint.forall_of_forall_lt (by decide +kernel)
  by_cases hc : c.toNat < 128
  · have hall := hascii c hc
    rw [h] at hall
    simpa using hall
  · -- the alphabet is in ASCII
    have hplus : c ≠ '+' := fun e => hc (by rw [e]; decide)
    have hslash : c ≠ '/' := fun e => hc (by rw [e]; decide)
    have hnone : value? c = none := by
      unfold value?
      dsimp only
      rw [if_neg (by omega), if_neg (by omega), if_neg (by omega), if_neg hplus, if_neg hslash]
    rw [hnone] at h
    nomatch h

/-- The numbers of a text are those of which it is the symbols. -/
theorem mapM_value?_eq_some_iff {symbols : List CodePoint} {values : List Nat} :
    symbols.mapM value? = some values ↔
      symbols = values.map symbol ∧ ∀ v ∈ values, v < 64 := by
  induction symbols generalizing values with
  | nil => cases values <;> simp
  | cons c cs ih =>
    rw [List.mapM_cons]
    constructor
    · intro h
      obtain ⟨v, hv, hrest⟩ := Option.bind_eq_some_iff.1 h
      obtain ⟨vs, hvs, heq⟩ := Option.bind_eq_some_iff.1 hrest
      obtain ⟨hlt, hsymbol⟩ := symbol_of_value? hv
      obtain ⟨hmap, hall⟩ := ih.1 hvs
      rw [← Option.some.inj heq]
      refine ⟨by rw [List.map_cons, hsymbol, hmap], ?_⟩
      intro w hw
      rcases List.mem_cons.1 hw with rfl | hw
      · exact hlt
      · exact hall w hw
    · rintro ⟨hmap, hall⟩
      cases values with
      | nil => nomatch hmap
      | cons v vs =>
        obtain ⟨rfl, hcs⟩ := List.cons.inj hmap
        rw [value?_symbol v (hall v List.mem_cons_self),
          ih.2 ⟨hcs, fun w hw => hall w (List.mem_cons_of_mem _ hw)⟩]
        rfl

/-! ### The form of a text -/

/-- A base64 text of bytes: the symbols of numbers of six bits, padding that fits their number, and
    nothing else; the numbers make up the bytes. -/
def Spells (text : List CodePoint) (bytes : List UInt8) : Prop :=
  ∃ values pads, text = values.map symbol ++ List.replicate pads (.char '=') ∧
    (∀ v ∈ values, v < 64) ∧ padFits values.length pads = true ∧ pack values = bytes

/-- A text with no blank in it. -/
theorem Spells.solid {text : List CodePoint} {bytes : List UInt8} (h : Spells text bytes) :
    Text.Solid text := by
  obtain ⟨values, pads, rfl, hvalues, -, -⟩ := h
  intro c hc
  rcases List.mem_append.1 hc with hc | hc
  · obtain ⟨v, hv, rfl⟩ := List.mem_map.1 hc
    exact isBlank_symbol v (hvalues v hv)
  · rw [List.eq_of_mem_replicate hc]
    decide

/-- **Exactly the texts of the form are read.** -/
theorem decode?_eq_some_iff {text : List CodePoint} {bytes : List UInt8} :
    decode? text = some bytes ↔ Spells text bytes := by
  unfold decode?
  dsimp only
  constructor
  · intro h
    split at h
    · rename_i hfits
      obtain ⟨hall, hfits⟩ := Bool.and_eq_true_iff.1 hfits
      obtain ⟨values, hvalues, hpack⟩ := Option.map_eq_some_iff.1 h
      obtain ⟨hmap, hlt⟩ := mapM_value?_eq_some_iff.1 hvalues
      have hpads : text.dropWhile (· != .char '=') =
          List.replicate (text.dropWhile (· != .char '=')).length (.char '=') :=
        List.eq_replicate_of_mem fun c hc => by simpa using List.all_eq_true.1 hall c hc
      refine ⟨values, (text.dropWhile (· != .char '=')).length, ?_, hlt, ?_, hpack⟩
      · rw [← hmap, ← hpads]
        exact List.takeWhile_append_dropWhile.symm
      · rw [hmap, List.length_map] at hfits
        exact hfits
    · nomatch h
  · rintro ⟨values, pads, rfl, hlt, hfits, rfl⟩
    -- the padding starts where the symbols end
    have hsymbols : ∀ c ∈ values.map symbol, (c != .char '=') = true := by
      intro c hc
      obtain ⟨v, hv, rfl⟩ := List.mem_map.1 hc
      simpa using symbol_ne_pad v (hlt v hv)
    have htake : (values.map symbol ++ List.replicate pads (CodePoint.char '=')).takeWhile
        (· != CodePoint.char '=') = values.map symbol := by
      rw [List.takeWhile_append_of_pos hsymbols]
      simp
    have hdrop : (values.map symbol ++ List.replicate pads (CodePoint.char '=')).dropWhile
        (· != .char '=') = List.replicate pads (.char '=') := by
      rw [List.dropWhile_append_of_pos hsymbols]
      cases pads <;> simp [List.replicate_succ]
    rw [htake, hdrop, mapM_value?_eq_some_iff.2 ⟨rfl, hlt⟩]
    simp [hfits]

/-! ### Writing and reading back -/

/-- Bytes are made up of the numbers that they are cut into. -/
theorem ofNat_eq_of_toNat {n : Nat} {b : UInt8} (h : n = b.toNat) : UInt8.ofNat n = b := by
  rw [h, UInt8.ofNat_toNat]

/-- Four symbols more need the same padding. -/
theorem padFits_add_four {symbols pads : Nat} (h : padFits symbols pads = true) :
    padFits (symbols + 4) pads = true := by
  unfold padFits at h ⊢
  rw [Nat.add_mod_right]
  split at h <;> simp_all

/-- What is written for bytes has the form. -/
theorem spells_encode (bytes : List UInt8) : Spells (encode bytes) bytes := by
  fun_induction encode bytes with
  | case1 => exact ⟨[], 0, rfl, by simp, rfl, rfl⟩
  | case2 a =>
    have ha := a.toNat_lt
    refine ⟨[a.toNat / 4, a.toNat % 4 * 16], 2, rfl, ?_, rfl, ?_⟩
    · simp only [List.mem_cons, List.not_mem_nil, or_false, forall_eq_or_imp, forall_eq]
      omega
    · rw [pack, ofNat_eq_of_toNat (b := a) (by omega)]
  | case3 a b =>
    have ha := a.toNat_lt
    have hb := b.toNat_lt
    refine ⟨[a.toNat / 4, a.toNat % 4 * 16 + b.toNat / 16, b.toNat % 16 * 4], 1, rfl, ?_, rfl, ?_⟩
    · simp only [List.mem_cons, List.not_mem_nil, or_false, forall_eq_or_imp, forall_eq]
      omega
    · rw [pack, ofNat_eq_of_toNat (b := a) (by omega), ofNat_eq_of_toNat (b := b) (by omega)]
  | case4 a b c rest ih =>
    obtain ⟨values, pads, htext, hlt, hfits, hpack⟩ := ih
    have ha := a.toNat_lt
    have hb := b.toNat_lt
    have hc := c.toNat_lt
    refine ⟨a.toNat / 4 :: (a.toNat % 4 * 16 + b.toNat / 16) ::
      (b.toNat % 16 * 4 + c.toNat / 64) :: c.toNat % 64 :: values, pads, ?_, ?_, ?_, ?_⟩
    · rw [htext]
      rfl
    · simp only [List.mem_cons, forall_eq_or_imp]
      exact ⟨by omega, by omega, by omega, by omega, hlt⟩
    · exact padFits_add_four hfits
    · rw [pack, hpack, ofNat_eq_of_toNat (b := a) (by omega), ofNat_eq_of_toNat (b := b) (by omega),
        ofNat_eq_of_toNat (b := c) (by omega)]

/-- **Round trip.** What is written for bytes is read as these bytes. -/
theorem decode?_encode (bytes : List UInt8) : decode? (encode bytes) = some bytes :=
  decode?_eq_some_iff.2 (spells_encode bytes)

/-- What is written for bytes is empty only if there are none. -/
theorem encode_ne_nil {bytes : List UInt8} (h : bytes ≠ []) : encode bytes ≠ [] := by
  intro hnil
  have hread := decode?_encode bytes
  rw [hnil] at hread
  exact h (Option.some.inj hread).symm

end Turnstile.Base64
