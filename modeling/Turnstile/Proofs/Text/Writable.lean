import Mathlib.Data.List.Basic
import Turnstile.Value

namespace Turnstile

/-!
# Texts that UTF-8 can write

* `Text.writable_append_iff`, `Text.writable_intercalate_iff` — texts that are put together;
* `writable_jsonText_iff` — a text in JSON: escaping neither adds nor removes half a surrogate pair;
* `writable_enclosed_iff`, `writable_texts_iff` — groups of values in JSON.
-/

namespace Text

@[simp] theorem writable_append_iff {s t : Text} : (s ++ t).Writable ↔ s.Writable ∧ t.Writable :=
  List.forall_mem_append

/-- A string holds characters alone. -/
@[simp] theorem writable_ofString (s : String) : (ofString s).Writable := by
  intro c hc
  obtain ⟨d, -, rfl⟩ := List.mem_map.1 hc
  rfl

/-- Texts with a separator between them can be written if each of them can. -/
theorem writable_intercalate_iff {separator : Text} (h : separator.Writable)
    (texts : List Text) : (intercalate separator texts).Writable ↔ ∀ t ∈ texts, t.Writable := by
  induction texts with
  | nil => exact ⟨fun _ _ hmem => (nomatch hmem), fun _ _ hmem => (nomatch hmem)⟩
  | cons t texts ih =>
    by_cases hne : texts = []
    · subst hne
      simp [intercalate]
    · have hcons : intercalate separator (t :: texts) =
          t ++ (separator ++ intercalate separator texts) := by
        unfold intercalate
        rw [List.map_cons, List.intercalate_cons_of_ne_nil (mt List.map_eq_nil_iff.1 hne),
          List.append_assoc]
        rfl
      rw [hcons, writable_append_iff, writable_append_iff, ih, List.forall_mem_cons]
      exact and_congr_right fun _ => and_iff_right h

/-- Hexadecimal digits are characters. -/
theorem isSurrogate_of_mem_hex {width n : Nat} {c : CodePoint} (h : c ∈ hex width n) :
    c.isSurrogate = false := by
  rcases List.mem_append.1 h with hzero | hdigit
  · rw [(List.mem_replicate.1 hzero).2]
    rfl
  · obtain ⟨d, -, rfl⟩ := List.mem_map.1 hdigit
    rfl

end Text

/-- A code point in JSON is made of characters if it is one. -/
theorem forall_mem_jsonChar_iff {c : CodePoint} :
    (∀ d ∈ jsonChar c, d.isSurrogate = false) ↔ c.isSurrogate = false := by
  cases c with
  | surrogate n =>
    have hlarge : ¬ (CodePoint.surrogate n).toNat < 0x20 := by
      show ¬ 0xD800 + n.val < 0x20
      omega
    simp [jsonChar, hlarge]
  | char c =>
    refine ⟨fun _ => rfl, fun _ d hd => ?_⟩
    unfold jsonChar at hd
    split at hd
    · rcases List.mem_pair.1 hd with rfl | rfl <;> rfl
    -- one escape after another, and then the numbered ones
    iterate 5
      split at hd
      · rcases List.mem_pair.1 hd with rfl | rfl <;> rfl
    split at hd
    · rcases List.mem_cons.1 hd with rfl | hd
      · rfl
      · rcases List.mem_cons.1 hd with rfl | hd
        · rfl
        · exact Text.isSurrogate_of_mem_hex hd
    · rw [List.mem_singleton.1 hd]
      rfl

/-- **A text in JSON** can be written if the text can. -/
theorem writable_jsonText_iff {s : Text} : (jsonText s).Writable ↔ s.Writable := by
  have hparts : (jsonText s).Writable ↔
      ∀ d ∈ s.toList.flatMap jsonChar, d.isSurrogate = false := by
    unfold Text.Writable jsonText
    rw [Text.toList_ofList, List.cons_append, List.forall_mem_cons, List.forall_mem_append,
      List.forall_mem_singleton]
    exact ⟨fun h => h.2.1, fun h => ⟨rfl, h, rfl⟩⟩
  rw [hparts]
  simp only [List.mem_flatMap, forall_exists_index, and_imp]
  constructor
  · intro h c hc
    exact forall_mem_jsonChar_iff.1 fun d hd => h d c hc hd
  · intro h d c hc hd
    exact forall_mem_jsonChar_iff.2 (h c hc) d hd

/-- A group of parts in JSON can be written if each part can. -/
theorem writable_enclosed_iff (left right : String) (parts : List Text) :
    (Dialect.json.enclosed left parts right).Writable ↔ ∀ part ∈ parts, part.Writable := by
  have hcomma : Dialect.json.comma.Writable := Text.writable_ofString ","
  unfold Dialect.enclosed
  rw [Text.writable_append_iff, Text.writable_append_iff, Text.writable_intercalate_iff hcomma]
  simp

/-- A list of texts in JSON can be written if each of the texts can. -/
theorem writable_texts_iff (texts : List Text) :
    (Value.list (texts.map .text)).json.Writable ↔ ∀ t ∈ texts, t.Writable := by
  have hitems : Value.writeItems .json (texts.map .text) = texts.map jsonText := by
    induction texts with
    | nil => rfl
    | cons t texts ih => exact congrArg (jsonText t :: ·) ih
  unfold Value.json Value.write
  rw [hitems, writable_enclosed_iff, List.forall_mem_map]
  exact forall₂_congr fun t _ => writable_jsonText_iff

end Turnstile
