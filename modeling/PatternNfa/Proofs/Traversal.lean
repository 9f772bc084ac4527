import PatternNfa.Nfa.Walk
import PatternNfa.Proofs.Acceptance

/-!
# `PatternNfa.Proofs.Traversal`: a walk reports what can be reached, once

A walk is lazy: it stops at every edge, in the middle of a state. What it reports altogether is told
more easily by the ids that it looks at (`Arena.visits`), which are those of the same search without
the edges. `Walk.toList_eq` says that a walk reports the edges of these ids, one id after another,
behind the edges that it had already found.

So all that matters is which ids are looked at. None is looked at twice (`visits_nodup`), and from a
start they are the ids that can be reached (`mem_visits_iff`). This holds of any arena, also of one
whose targets do not all exist.
-/

set_option autoImplicit false

namespace PatternNfa

namespace Arena

/-- The edges of a state leave from it. -/
theorem source_of_mem_edgesOf {a : Arena} {id : StateId} {e : Edge} (h : e ∈ a.edgesOf id) :
    e.source = id := by
  rw [edgesOf] at h
  split at h
  · cases h
  · exact (mem_edges.mp h).1

/-! ### The ids that are looked at -/

/-- The ids that a walk still looks at, in this order, if it has seen some and has others on its
stack. -/
def visits (a : Arena) (seen : List StateId) : List StateId → List StateId
  | [] => []
  | id :: stack =>
      if id ∈ seen then visits a seen stack
      else id :: visits a (id :: seen) (((a.edgesOf id).map Edge.target).reverse ++ stack)
termination_by stack => (a.unseen seen, stack.length)
decreasing_by
  · exact Prod.Lex.right _ (Nat.lt_succ_self _)
  · rename_i hseen
    refine unseen_push_lt hseen (fun hid => ?_) stack
    rw [edgesOf_eq_nil hid]
    rfl

/-- What was seen is not looked at again. -/
theorem visits_of_mem {a : Arena} {seen : List StateId} {id : StateId} (h : id ∈ seen)
    (stack : List StateId) : a.visits seen (id :: stack) = a.visits seen stack := by
  rw [visits, if_pos h]

/-- What was not seen is looked at, and then what its edges lead to, the last of them first. -/
theorem visits_of_not_mem {a : Arena} {seen : List StateId} {id : StateId} (h : id ∉ seen)
    (stack : List StateId) :
    a.visits seen (id :: stack) =
      id :: a.visits (id :: seen) (((a.edgesOf id).map Edge.target).reverse ++ stack) := by
  rw [visits, if_neg h]

/-- No id is looked at twice, and none that was seen before. -/
theorem visits_nodup (a : Arena) (seen stack : List StateId) :
    (a.visits seen stack).Nodup ∧ ∀ id ∈ a.visits seen stack, id ∉ seen := by
  fun_induction visits a seen stack with
  | case1 seen => simp
  | case2 seen id stack hseen ih => exact ih
  | case3 seen id stack hseen ih =>
      obtain ⟨hnodup, hnew⟩ := ih
      refine ⟨List.nodup_cons.mpr ⟨fun hid => hnew id hid List.mem_cons_self, hnodup⟩, ?_⟩
      rw [List.forall_mem_cons]
      exact ⟨hseen, fun p hp hmem => hnew p hp (List.mem_cons_of_mem id hmem)⟩

/-- Only what can be reached from the stack is looked at. -/
theorem reaches_of_mem_visits {a : Arena} {seen stack : List StateId} {q : StateId}
    (hq : q ∈ a.visits seen stack) : ∃ p ∈ stack, a.Reaches p q := by
  fun_induction visits a seen stack with
  | case1 seen => cases hq
  | case2 seen id stack hseen ih =>
      obtain ⟨p, hp, hreach⟩ := ih hq
      exact ⟨p, List.mem_cons_of_mem id hp, hreach⟩
  | case3 seen id stack hseen ih =>
      rcases List.mem_cons.mp hq with rfl | hq
      · exact ⟨q, List.mem_cons_self, .refl a q⟩
      · obtain ⟨p, hp, hreach⟩ := ih hq
        rcases List.mem_append.mp hp with hp | hp
        · rw [List.mem_reverse] at hp
          obtain ⟨e, he, rfl⟩ := List.mem_map.mp hp
          cases source_of_mem_edgesOf he
          exact ⟨e.source, List.mem_cons_self, (HasEdge.reaches he).trans hreach⟩
        · exact ⟨p, List.mem_cons_of_mem id hp, hreach⟩

/-- Whether an id counts as seen or as found makes no difference. -/
theorem mem_or_mem_cons {seen l : List StateId} {id p : StateId} :
    p ∈ seen ∨ p ∈ id :: l ↔ p ∈ id :: seen ∨ p ∈ l := by
  rw [List.mem_cons, List.mem_cons, or_assoc]
  exact or_left_comm

/-- What is seen or on the stack is seen or looked at. -/
theorem mem_visits_of_mem {a : Arena} {seen stack : List StateId} {p : StateId}
    (hp : p ∈ seen ∨ p ∈ stack) : p ∈ seen ∨ p ∈ a.visits seen stack := by
  fun_induction visits a seen stack with
  | case1 seen => exact hp
  | case2 seen id stack hseen ih => exact ih (seen_of_closed hseen hp)
  | case3 seen id stack hseen ih => exact mem_or_mem_cons.mpr (ih (seen_of_new _ hp))

/-- If what follows a seen id is seen or on the stack, then in the end what follows a seen id or one
that was looked at is seen or was looked at. -/
theorem target_mem_visits {a : Arena} {seen stack : List StateId}
    (h : ∀ e, a.HasEdge e → e.source ∈ seen → e.target ∈ seen ∨ e.target ∈ stack) :
    ∀ e, a.HasEdge e → e.source ∈ seen ∨ e.source ∈ a.visits seen stack →
      e.target ∈ seen ∨ e.target ∈ a.visits seen stack := by
  fun_induction visits a seen stack with
  | case1 seen => exact fun e he hsource => h e he (hsource.resolve_right List.not_mem_nil)
  | case2 seen id stack hseen ih =>
      apply ih
      intro e he hsource
      exact seen_of_closed hseen (h e he hsource)
  | case3 seen id stack hseen ih =>
      intro e he hsource
      refine mem_or_mem_cons.mpr (ih ?_ e he (mem_or_mem_cons.mp hsource))
      intro e he hsource
      -- The targets of the id that is seen now come on the stack.
      rcases List.mem_cons.mp hsource with hid | hsource
      · refine .inr (List.mem_append_left _ (List.mem_reverse.mpr ?_))
        exact List.mem_map.mpr ⟨e, hid ▸ he, rfl⟩
      · exact seen_of_new _ (h e he hsource)

/-- From a start, the ids that are looked at are those that can be reached. -/
theorem mem_visits_iff {a : Arena} {start q : StateId} :
    q ∈ a.visits [] [start] ↔ a.Reaches start q := by
  constructor
  · intro hq
    obtain ⟨p, hp, hreach⟩ := reaches_of_mem_visits hq
    rwa [List.mem_singleton.mp hp] at hreach
  · rintro ⟨w, hpath⟩
    have hstart : start ∈ a.visits [] [start] :=
      (mem_visits_of_mem (.inr List.mem_cons_self)).resolve_left List.not_mem_nil
    refine hpath.mem_of_closed (fun e he hsource => ?_) hstart
    have hseen : ∀ e, a.HasEdge e → e.source ∈ ([] : List StateId) →
        e.target ∈ ([] : List StateId) ∨ e.target ∈ [start] := by simp
    exact (target_mem_visits hseen e he (.inr hsource)).resolve_left List.not_mem_nil

end Arena

namespace Walk

/-! ### The edges that are reported -/

/-- A walk that does not go on finds no more edges. -/
theorem flatMap_visits_of_expand?_none {a : Arena} {seen stack : List StateId}
    (h : expand? a seen stack = none) : (a.visits seen stack).flatMap a.edgesOf = [] := by
  induction stack generalizing seen with
  | nil => rw [Arena.visits, List.flatMap_nil]
  | cons id stack ih =>
      rw [expand?] at h
      split at h
      · rename_i hseen
        rw [Arena.visits_of_mem hseen, ih h]
      · rename_i hseen
        split at h
        · rename_i hedges
          rw [Arena.visits_of_not_mem hseen, hedges, List.flatMap_cons, hedges]
          exact ih h
        · cases h

/-- The first edge that is found and those found with it are the edges of the first id that has
any, and the walk goes on behind that id. -/
theorem flatMap_visits_of_expand?_some {a : Arena} {seen stack : List StateId} {e : Edge}
    {w : Walk} (h : expand? a seen stack = some (e, w)) :
    (a.visits seen stack).flatMap a.edgesOf =
      e :: (w.pending ++ (w.arena.visits w.seen w.stack).flatMap w.arena.edgesOf) := by
  induction stack generalizing seen with
  | nil => cases h
  | cons id stack ih =>
      rw [expand?] at h
      split at h
      · rename_i hseen
        rw [Arena.visits_of_mem hseen, ih h]
      · rename_i hseen
        split at h
        · rename_i hedges
          rw [Arena.visits_of_not_mem hseen, hedges, List.flatMap_cons, hedges]
          exact ih h
        · rename_i hedges
          cases h
          rw [Arena.visits_of_not_mem hseen, hedges, List.flatMap_cons, hedges]
          rfl

/-- A walk reports the edges that it has found, and then those of the ids that it looks at. -/
theorem toList_eq (w : Walk) :
    w.toList = w.pending ++ (w.arena.visits w.seen w.stack).flatMap w.arena.edgesOf := by
  fun_induction toList w with
  | case1 w hnext =>
      rw [next?] at hnext
      split at hnext
      · cases hnext
      · rename_i hpending
        rw [hpending, flatMap_visits_of_expand?_none hnext]
        rfl
  | case2 w e rest hnext ih =>
      rw [ih]
      rw [next?] at hnext
      split at hnext
      · rename_i hpending
        cases hnext
        rw [hpending]
        rfl
      · rename_i hpending
        rw [hpending, flatMap_visits_of_expand?_some hnext]
        rfl

end Walk

/-- A walk from a start reports the edges of the ids that can be reached. -/
theorem Arena.toList_walk (a : Arena) (start : StateId) :
    (a.walk start).toList = (a.visits [] [start]).flatMap a.edgesOf :=
  Walk.toList_eq _

/-- A walk shows the edges that leave from what can be reached, and no others. -/
theorem Arena.mem_walk_iff {a : Arena} {start : StateId} {e : Edge} :
    e ∈ (a.walk start).toList ↔ a.HasEdge e ∧ a.Reaches start e.source := by
  rw [toList_walk, List.mem_flatMap]
  constructor
  · rintro ⟨id, hid, he⟩
    cases source_of_mem_edgesOf he
    exact ⟨he, mem_visits_iff.mp hid⟩
  · rintro ⟨he, hreach⟩
    exact ⟨e.source, mem_visits_iff.mpr hreach, he⟩

end PatternNfa
