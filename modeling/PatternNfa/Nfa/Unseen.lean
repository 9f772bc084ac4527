import PatternNfa.Arena

/-!
# `PatternNfa.Nfa.Unseen`: why a search through an arena ends

A search keeps a list of the ids that it has seen and looks at each id at most once. The states
that it has not seen yet become fewer with every state that it looks at (`unseen_cons_lt`), and
never more (`unseen_append_le`). So a search that puts what follows an id onto a stack gets through
with the stack (`unseen_push_lt`).
-/

set_option autoImplicit false

namespace PatternNfa.Arena

/-- The number of states that are not among the seen ones. -/
def unseen (a : Arena) (seen : List StateId) : Nat :=
  (List.range a.size).countP fun id => !seen.contains id

/-- One state more is seen, so no more are unseen. -/
theorem unseen_cons_le (a : Arena) (id : StateId) (seen : List StateId) :
    a.unseen (id :: seen) ≤ a.unseen seen := by
  apply List.countP_mono_left
  intro x _ hx
  simp only [List.contains_cons, Bool.not_or, Bool.and_eq_true] at hx
  exact hx.2

/-- More states are seen, so no more are unseen. -/
theorem unseen_append_le (a : Arena) (ids seen : List StateId) :
    a.unseen (ids ++ seen) ≤ a.unseen seen := by
  induction ids with
  | nil => exact Nat.le_refl _
  | cons id ids ih => exact Nat.le_trans (unseen_cons_le a id (ids ++ seen)) ih

/-- A stricter condition counts fewer elements if it refuses one that the other takes. -/
private theorem countP_lt_countP {α : Type} {p q : α → Bool} {l : List α}
    (hpq : ∀ x ∈ l, p x = true → q x = true) {y : α} (hy : y ∈ l) (hp : p y = false)
    (hq : q y = true) : l.countP p < l.countP q := by
  obtain ⟨before, after, rfl⟩ := List.append_of_mem hy
  have hbefore : before.countP p ≤ before.countP q :=
    List.countP_mono_left fun x hx => hpq x (List.mem_append_left _ hx)
  have hafter : after.countP p ≤ after.countP q :=
    List.countP_mono_left fun x hx => hpq x (List.mem_append_right _ (List.mem_cons_of_mem _ hx))
  simp only [List.countP_append, List.countP_cons, hp, hq]
  simp only [Bool.false_eq_true, if_false, if_true]
  omega

/-- A state that exists and is seen for the first time is one less that is unseen. -/
theorem unseen_cons_lt {a : Arena} {id : StateId} {seen : List StateId} (hid : id < a.size)
    (hseen : id ∉ seen) : a.unseen (id :: seen) < a.unseen seen := by
  apply countP_lt_countP (y := id)
  · intro x _ hx
    simp only [List.contains_cons, Bool.not_or, Bool.and_eq_true] at hx
    exact hx.2
  · exact List.mem_range.2 hid
  · simp
  · simpa using hseen

/-- A search gets on if no more is unseen than before and less is left to look at. -/
theorem lex_of_le_of_lt {m m' n n' : Nat} (hm : m ≤ m') (hn : n < n') :
    Prod.Lex (· < ·) (· < ·) (m, n) (m', n') := by
  rcases Nat.lt_or_eq_of_le hm with hlt | heq
  · exact Prod.Lex.left _ _ hlt
  · rw [heq]
    exact Prod.Lex.right _ hn

/-- A search that sees a new id gets on, whatever it still has to look at. An id without a state
adds nothing to that. -/
theorem unseen_push_lt {a : Arena} {id : StateId} {seen new : List StateId} (hseen : id ∉ seen)
    (hnew : a.size ≤ id → new = []) (stack : List StateId) :
    Prod.Lex (· < ·) (· < ·) (a.unseen (id :: seen), (new ++ stack).length)
      (a.unseen seen, (id :: stack).length) := by
  by_cases hid : id < a.size
  · exact Prod.Lex.left _ _ (unseen_cons_lt hid hseen)
  · rw [hnew (Nat.le_of_not_lt hid)]
    exact lex_of_le_of_lt (unseen_cons_le a id seen) (Nat.lt_succ_self _)

end PatternNfa.Arena
