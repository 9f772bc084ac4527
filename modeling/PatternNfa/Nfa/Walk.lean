import PatternNfa.Edge
import PatternNfa.Nfa
import PatternNfa.Nfa.Unseen

/-!
# `PatternNfa.Nfa.Walk`: the edges of an automaton, one after another

A walk reports every edge that can be reached from a state, depth first. It keeps a stack of states
to look at, the states it has seen, and the edges of the last state that are still to be reported.
A state is looked at when it comes off the stack for the first time. All its edges are reported in
their order, and their targets go onto the stack, so that the last target is looked at first. A
state that does not exist has no edges.

The walk is lazy: `next?` gives one edge and the walk that goes on after it, and the old walk can
still be used. `toList` is all that a walk has left. It ends because every edge is either one of
the few that wait or belongs to a state that is seen from then on (`next?_lt`).
-/

set_option autoImplicit false

namespace PatternNfa

/-- A depth-first walk that is under way. -/
structure Walk where
  arena : Arena
  /-- The states to look at, the next one first. -/
  stack : List StateId
  /-- The states that were looked at. -/
  seen : List StateId := []
  /-- Edges that were found and are not reported yet. -/
  pending : List Edge := []
deriving DecidableEq, Repr, Inhabited

namespace Walk

/-- Looks at the states of a stack until one has edges. The answer is its first edge and the walk
after it. -/
def expand? (a : Arena) (seen : List StateId) : List StateId → Option (Edge × Walk)
  | [] => none
  | id :: stack =>
      if id ∈ seen then expand? a seen stack
      else
        -- The state counts as seen even if it has no edges, or does not exist.
        match a.edgesOf id with
        | [] => expand? a (id :: seen) stack
        | e :: pending =>
            some (e,
              { arena := a
                stack := ((e :: pending).map Edge.target).reverse ++ stack
                seen := id :: seen
                pending })

/-- The next edge and the walk after it, if an edge is left. -/
def next? (w : Walk) : Option (Edge × Walk) :=
  match w.pending with
  | e :: pending => some (e, { w with pending })
  | [] => expand? w.arena w.seen w.stack

/-! ### All the edges -/

/-- A state with edges is seen after they were found. -/
theorem expand?_unseen_lt {a : Arena} {seen stack : List StateId} {e : Edge} {w : Walk}
    (h : expand? a seen stack = some (e, w)) : w.arena.unseen w.seen < a.unseen seen := by
  induction stack generalizing seen with
  | nil => simp [expand?] at h
  | cons id stack ih =>
      rw [expand?] at h
      split at h
      · exact ih h
      · rename_i hseen
        split at h
        · exact Nat.lt_of_lt_of_le (ih h) (Arena.unseen_cons_le a id seen)
        · rename_i hedges
          have hid : id < a.size := by
            apply Nat.lt_of_not_le
            intro hle
            rw [Arena.edgesOf_eq_nil hle] at hedges
            exact List.cons_ne_nil _ _ hedges.symm
          simp only [Option.some.injEq, Prod.mk.injEq] at h
          rw [← h.2]
          exact Arena.unseen_cons_lt hid hseen

/-- After an edge fewer states are unseen, or as many and fewer edges wait. -/
theorem next?_lt {w w' : Walk} {e : Edge} (h : w.next? = some (e, w')) :
    Prod.Lex (· < ·) (· < ·) (w'.arena.unseen w'.seen, w'.pending.length)
      (w.arena.unseen w.seen, w.pending.length) := by
  rw [next?] at h
  split at h
  · rename_i hpending
    simp only [Option.some.injEq, Prod.mk.injEq] at h
    rw [← h.2, hpending]
    exact Prod.Lex.right _ (by simp)
  · exact Prod.Lex.left _ _ (expand?_unseen_lt h)

/-- All the edges that are left. -/
def toList (w : Walk) : List Edge :=
  match _h : w.next? with
  | none => []
  | some (e, rest) => e :: toList rest
termination_by (w.arena.unseen w.seen, w.pending.length)
decreasing_by exact next?_lt _h

/-- The first `n` of the edges that are left, and the walk after them. -/
def take (w : Walk) : Nat → List Edge × Walk
  | 0 => ([], w)
  | n + 1 =>
      match w.next? with
      | none => ([], w)
      | some (e, rest) =>
          let (more, rest) := take rest n
          (e :: more, rest)

end Walk

/-- The walk from a state, which need not exist. -/
def Arena.walk (a : Arena) (start : StateId) : Walk := { arena := a, stack := [start] }

/-- The walk from the state with the id, which need not exist. -/
def Nfa.edgesFrom (nfa : Nfa) (start : StateId) : Walk := nfa.arena.walk start

/-- The walk from the start of the automaton. -/
def Nfa.edges (nfa : Nfa) : Walk := nfa.edgesFrom nfa.start

end PatternNfa
