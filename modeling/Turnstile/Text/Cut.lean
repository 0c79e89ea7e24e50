import Turnstile.Text

namespace Turnstile.Text

/-!
# Cutting a text at a separator

* `cut?` — the two sides of the first separator;
* `fields` — the parts between all separators, at least one;
* `cut?_eq_some_iff` — **the first separator**: a text is cut exactly into the two sides of a
  separator that has none on its left.
-/

/-- The text before and the text after the first `sep`; `none` when there is no `sep`. -/
def cut? (sep : CodePoint) : List CodePoint → Option (List CodePoint × List CodePoint)
  | [] => none
  | c :: cs =>
    if c = sep then some ([], cs) else (cut? sep cs).map fun sides => (c :: sides.1, sides.2)

/-- A text is cut into two sides exactly when it is the one, a separator and the other, and the
    left side holds no separator. -/
theorem cut?_eq_some_iff {sep : CodePoint} {cs left right : List CodePoint} :
    cut? sep cs = some (left, right) ↔ cs = left ++ sep :: right ∧ sep ∉ left := by
  induction cs generalizing left with
  | nil => simp [cut?]
  | cons c cs ih =>
    by_cases h : c = sep
    · cases left with
      | nil => simp [cut?, h]
      | cons b bs =>
        simp only [cut?, h, if_true, Option.some.injEq, Prod.mk.injEq, List.cons_append,
          List.cons.injEq, List.mem_cons, not_or]
        exact ⟨fun e => by simp at e, fun e => absurd e.1.1 e.2.1⟩
    · cases left with
      | nil => simp [cut?, h]
      | cons b bs =>
        simp only [cut?, h, if_false, Option.map_eq_some_iff, Prod.mk.injEq, List.cons.injEq,
          List.cons_append, List.mem_cons, not_or, Prod.exists]
        constructor
        · rintro ⟨x, y, hxy, ⟨rfl, rfl⟩, rfl⟩
          exact ⟨⟨rfl, (ih.1 hxy).1⟩, Ne.symm h, (ih.1 hxy).2⟩
        · rintro ⟨⟨rfl, hcs⟩, _, hn⟩
          exact ⟨bs, right, ih.2 ⟨hcs, hn⟩, ⟨rfl, rfl⟩, rfl⟩

/-- A text is not cut exactly when there is no separator in it. -/
theorem cut?_eq_none_iff {sep : CodePoint} {cs : List CodePoint} :
    cut? sep cs = none ↔ sep ∉ cs := by
  induction cs with
  | nil => simp [cut?]
  | cons c cs ih =>
    by_cases h : c = sep
    · simp [cut?, h]
    · simp [cut?, h, ih, Ne.symm h]

/-- Puts a character in front of the first part, which it opens if there is none. -/
def extendFirst (c : CodePoint) : List (List CodePoint) → List (List CodePoint)
  | [] => [[c]]
  | part :: parts => (c :: part) :: parts

/-- The parts of a text between its separators; a text without one is its own single part. -/
def fields (sep : CodePoint) : List CodePoint → List (List CodePoint)
  | [] => [[]]
  | c :: cs => if c = sep then [] :: fields sep cs else extendFirst c (fields sep cs)

end Turnstile.Text
