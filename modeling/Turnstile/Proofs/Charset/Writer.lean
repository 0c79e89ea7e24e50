import Turnstile.Charset.Writer

namespace Turnstile.Charset.Writer

/-!
# What a writer can write

* `bytes` — the bytes of one character;
* `encode_eq_ok_iff` — **the bytes of a text** are those of its characters, none of which is
  lacking;
* `exists_encode_iff` — so a text can be written exactly if each of its characters can.
-/

/-- The bytes of a character, none if it is lacking. -/
def bytes (w : Writer) (c : CodePoint) : List UInt8 :=
  (w.write? c).getD []

variable {w : Writer} {text : List CodePoint} {written : List UInt8}

theorem encodeFrom_eq_ok_iff {position : Nat} :
    w.encodeFrom position text = .ok written ↔
      (∀ c ∈ text, w.lacks c = false) ∧ written = text.flatMap w.bytes := by
  induction text generalizing position written with
  | nil =>
    refine ⟨fun h => ⟨fun _ hc => (nomatch hc), (Except.ok.inj h).symm⟩, ?_⟩
    rintro ⟨-, rfl⟩
    rfl
  | cons c cs ih =>
    rw [encodeFrom, List.forall_mem_cons, List.flatMap_cons]
    unfold lacks bytes
    cases w.write? c with
    | none => simp
    | some own =>
      dsimp only [Option.isNone_some, Option.getD_some]
      rw [and_iff_right rfl]
      constructor
      · intro h
        cases hrest : w.encodeFrom (position + 1) cs with
        | error e =>
          rw [hrest] at h
          nomatch h
        | ok rest =>
          rw [hrest] at h
          obtain ⟨hall, rfl⟩ := ih.1 hrest
          exact ⟨hall, (Except.ok.inj h).symm⟩
      · rintro ⟨hall, rfl⟩
        rw [ih.2 ⟨hall, rfl⟩]
        rfl

/-- **The bytes of a text** are those of its characters, none of which is lacking. -/
theorem encode_eq_ok_iff :
    w.encode text = .ok written ↔
      (∀ c ∈ text, w.lacks c = false) ∧ written = text.flatMap w.bytes :=
  encodeFrom_eq_ok_iff

/-- A text can be written exactly if each of its characters can. -/
theorem exists_encode_iff :
    (∃ written, w.encode text = .ok written) ↔ ∀ c ∈ text, w.lacks c = false := by
  simp only [encode_eq_ok_iff, exists_and_left, exists_eq, and_true]

end Turnstile.Charset.Writer
