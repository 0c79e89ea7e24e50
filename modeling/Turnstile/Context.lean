import Turnstile.Identity

namespace Turnstile

/-!
# Identity contexts

An identity context is a slot for the identity of one request.  Contexts live in memory that all
requests share, and each is known by its number.

* `Contexts` — that memory, with `grow`, `get` and `put`;
* `Binding` — which context a task has bound, and what to go back to when it is closed.
-/

/-- The number of a context. -/
abbrev ContextId := Nat

/-- The contexts opened so far, the slot of number `n` standing at place `n`. -/
structure Contexts where
  slots : List (Option Identity)

namespace Contexts

/-- No contexts. -/
def empty : Contexts := ⟨[]⟩

/-- The identity in a context. -/
def get (cs : Contexts) (id : ContextId) : Option Identity :=
  (cs.slots[id]?).join

/-- Fills or empties the slot of a context. -/
def put (cs : Contexts) (id : ContextId) (slot : Option Identity) : Contexts :=
  ⟨cs.slots.set id slot⟩

/-- The number of the next context. -/
def next (cs : Contexts) : ContextId :=
  cs.slots.length

/-- Opens the next context, which is empty. -/
def grow (cs : Contexts) : Contexts :=
  ⟨cs.slots ++ [none]⟩

@[simp] theorem next_put (cs : Contexts) (id : ContextId) (slot : Option Identity) :
    (cs.put id slot).next = cs.next := by
  simp [next, put]

@[simp] theorem next_grow (cs : Contexts) : cs.grow.next = cs.next + 1 := by
  simp [next, grow]

/-- Nothing is in a context that has not been opened. -/
theorem get_eq_none {cs : Contexts} {id : ContextId} (h : cs.next ≤ id) : cs.get id = none := by
  simp only [get, List.getElem?_eq_none h, Option.join_none]

/-- Opening a context changes what is in none of them, the new one included. -/
@[simp] theorem get_grow (cs : Contexts) (id : ContextId) : cs.grow.get id = cs.get id := by
  unfold get grow
  by_cases h : id < cs.slots.length
  · rw [List.getElem?_append_left h]
  · rw [List.getElem?_append_right (Nat.not_lt.1 h),
      List.getElem?_eq_none (l := cs.slots) (Nat.not_lt.1 h)]
    cases id - cs.slots.length <;> rfl

/-- Filling an open context changes what is in that one alone. -/
theorem get_put (cs : Contexts) (id other : ContextId) (slot : Option Identity) :
    (cs.put id slot).get other = if other = id ∧ id < cs.next then slot else cs.get other := by
  unfold get put next
  rw [List.getElem?_set]
  by_cases h : id = other
  · subst h
    by_cases hlt : id < cs.slots.length
    · simp [hlt]
    · simp [hlt]
  · simp [h, Ne.symm h]

theorem get_put_self {cs : Contexts} {id : ContextId} (h : id < cs.next)
    (slot : Option Identity) : (cs.put id slot).get id = slot := by
  rw [get_put, if_pos ⟨rfl, h⟩]

theorem get_put_of_ne {cs : Contexts} {id other : ContextId} (h : other ≠ id)
    (slot : Option Identity) : (cs.put id slot).get other = cs.get other := by
  rw [get_put, if_neg fun e => h e.1]

/-- To empty a slot that is empty is to do nothing. -/
theorem put_none_of_empty {cs : Contexts} {id : ContextId} (h : cs.get id = none) :
    cs.put id none = cs := by
  refine congrArg mk ?_
  by_cases hid : id < cs.slots.length
  · have hslot : cs.slots[id] = none := by simpa [get, hid] using h
    rw [← hslot]
    exact List.set_getElem_self hid
  · exact List.set_eq_of_length_le (Nat.not_lt.1 hid)

end Contexts

/-- The bound context of a task, and for each of its open contexts, the innermost first, the binding
    that it replaced. -/
structure Binding where
  bound : Option ContextId
  saved : List (ContextId × Option ContextId)
  deriving DecidableEq, Repr

namespace Binding

/-- Nothing is bound. -/
def none : Binding := ⟨.none, []⟩

/-- Binds a context, remembering the binding that it replaces. -/
def bind (b : Binding) (id : ContextId) : Binding :=
  ⟨some id, (id, b.bound) :: b.saved⟩

/-- Goes back to the binding that the innermost open context replaced. -/
def unbind (b : Binding) : Binding :=
  match b.saved with
  | [] => b
  | (_, before) :: saved => ⟨before, saved⟩

/-- The innermost open context. -/
def innermost? (b : Binding) : Option ContextId :=
  b.saved.head?.map (·.1)

@[simp] theorem innermost?_bind (b : Binding) (id : ContextId) :
    (b.bind id).innermost? = some id := rfl

/-- Closing a context goes back to the binding in which it was opened. -/
@[simp] theorem unbind_bind (b : Binding) (id : ContextId) : (b.bind id).unbind = b := rfl

end Binding

/-- The identity in the bound context; none when no context is bound. -/
def Contexts.current (cs : Contexts) (b : Binding) : Option Identity :=
  b.bound.bind cs.get

/-- Empties the innermost open context. -/
def Contexts.emptyInnermost (cs : Contexts) (b : Binding) : Contexts :=
  match b.innermost? with
  | some id => cs.put id none
  | none => cs

@[simp] theorem Contexts.next_emptyInnermost (cs : Contexts) (b : Binding) :
    (cs.emptyInnermost b).next = cs.next := by
  unfold Contexts.emptyInnermost
  cases b.innermost? <;> simp

end Turnstile
