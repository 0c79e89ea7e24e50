import Turnstile.Http.Headers

namespace Turnstile.Http

/-!
# Finding headers

* `lookup_addNew` — a name that is there keeps its value;
* `header?_eq_find?` — **the first header of a name counts**.
-/

/-- Adding a name changes the value of no name that is there. -/
theorem lookup_addNew (entries : List (Text × Text)) (name value other : Text) :
    (addNew entries name value).lookup other =
      (entries.lookup other).or (if other = name then some value else none) := by
  unfold addNew
  split
  · rename_i hany
    by_cases h : other = name
    · -- the name is there, so that its value is found before the one that would be added
      have hsome : (entries.lookup other).isSome := by
        obtain ⟨e, hmem, he⟩ := List.any_eq_true.1 hany
        exact List.lookup_isSome_iff.2 ⟨e, hmem, by rw [h, BEq.comm]; exact he⟩
      rw [Option.or_of_isSome hsome]
    · rw [if_neg h, Option.or_none]
  · rw [List.lookup_append, List.lookup_singleton]
    simp only [beq_iff_eq]

/-- The values found after headers have been added one after another. -/
theorem lookup_foldl_addNew (headers : List RawHeader) (entries : List (Text × Text))
    (name : Text) :
    (headers.foldl (fun entries h => addNew entries h.key h.text) entries).lookup name =
      (entries.lookup name).or ((headers.find? fun h => h.key == name).map RawHeader.text) := by
  induction headers generalizing entries with
  | nil => rw [List.foldl_nil, List.find?_nil, Option.map_none, Option.or_none]
  | cons h headers ih =>
    rw [List.foldl_cons, ih, lookup_addNew, Option.or_assoc, List.find?_cons]
    by_cases hkey : h.key = name
    · rw [if_pos hkey.symm, beq_iff_eq.2 hkey]
      rfl
    · rw [if_neg (Ne.symm hkey), beq_eq_false_iff_ne.2 hkey]
      rfl

/-- **The first header of a name counts.** -/
theorem header?_eq_find? (name : Text) (headers : List RawHeader) :
    header? name headers = (headers.find? fun h => h.key == name).map RawHeader.text :=
  lookup_foldl_addNew headers [] name

/-- A name is found no more once all headers of that name have been taken away. -/
theorem header?_filter_ne (name : Text) (headers : List RawHeader) :
    header? name (headers.filter fun h => h.key != name) = none := by
  rw [header?_eq_find?, Option.map_eq_none_iff, List.find?_eq_none]
  intro h hmem heq
  exact bne_iff_ne.1 (List.mem_filter.1 hmem).2 (beq_iff_eq.1 heq)

end Turnstile.Http
