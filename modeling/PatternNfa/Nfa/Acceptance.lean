import PatternNfa.Nfa
import PatternNfa.Nfa.Unseen

/-!
# `PatternNfa.Nfa.Acceptance`: which inputs an automaton accepts

An automaton reads an input with a set of states at once. The set always holds with a state all
those that can be reached from it without reading (`Arena.closureOf`). A symbol leads from the set
to the targets of its states, and the input is accepted if the set holds the accepting state in the
end. An empty set stays empty, so the run ends there.

Ids without a state take part as states without transitions. The search for a closure ends since
every id that leads to more is seen once.
-/

set_option autoImplicit false

namespace PatternNfa

namespace Arena

/-- The targets that the state with the id reaches without reading. -/
def epsilonOf (a : Arena) (id : StateId) : List StateId :=
  match a.get? id with
  | none => []
  | some s => s.epsilon

/-- The targets that the state with the id reaches by reading a symbol. -/
def targetsOf (a : Arena) (c : Char) (id : StateId) : List StateId :=
  match a.get? id with
  | none => []
  | some s => s.targets c

/-- Nothing leads on from where there is no state. -/
theorem epsilonOf_eq_nil {a : Arena} {id : StateId} (h : a.size ≤ id) : a.epsilonOf id = [] := by
  rw [epsilonOf, get?, List.getElem?_eq_none h]

/-- Adds to the closed ids all that are reached from the stack without reading. -/
def close (a : Arena) (closed : List StateId) : List StateId → List StateId
  | [] => closed
  | id :: stack =>
      if id ∈ closed then close a closed stack
      else close a (id :: closed) (a.epsilonOf id ++ stack)
termination_by stack => (a.unseen closed, stack.length)
decreasing_by
  -- A closed id only leaves the stack.
  · exact Prod.Lex.right _ (Nat.lt_succ_self _)
  -- An id without a state puts nothing on the stack.
  · rename_i hclosed
    exact unseen_push_lt hclosed epsilonOf_eq_nil stack

/-- The ids that are reached from the given ones without reading, each of them once. -/
def closureOf (a : Arena) (ids : List StateId) : List StateId := a.close [] ids

end Arena

namespace Nfa

/-- The rest of the input is accepted from one of the current states. -/
def acceptsFrom (nfa : Nfa) (current : List StateId) : List Char → Bool
  | [] => current.contains nfa.accept
  | c :: cs =>
      let next := nfa.arena.closureOf (current.flatMap (nfa.arena.targetsOf c))
      if next.isEmpty then false else acceptsFrom nfa next cs

/-- The input is accepted. -/
def accepts (nfa : Nfa) (input : String) : Bool :=
  nfa.acceptsFrom (nfa.arena.closureOf [nfa.start]) input.toList

end Nfa

end PatternNfa
