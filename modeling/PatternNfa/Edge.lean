import PatternNfa.Arena

/-!
# `PatternNfa.Edge`: transitions one by one

An edge is a single transition: a source, a label and one target. The edges of a state come in a
fixed order, first those that read a symbol, symbol by symbol, and then those that read nothing.
-/

set_option autoImplicit false

namespace PatternNfa

/-- What a transition reads: a symbol or nothing. -/
inductive Label where
  | symbol (c : Char)
  | epsilon
deriving DecidableEq, Repr, Inhabited

/-- The label as a listing shows it. Nothing is shown as a small epsilon. -/
def Label.text : Label → String
  | symbol c => c.toString
  | epsilon => "ε"

/-- One transition. -/
structure Edge where
  source : StateId
  label : Label
  target : StateId
deriving DecidableEq, Repr, Inhabited

/-- The edge as a line of a listing. -/
def Edge.text (e : Edge) : String := s!"{e.source} -- {e.label.text} --> {e.target}"

/-- The edges of a state with the id `source`. -/
def State.edges (s : State) (source : StateId) : List Edge :=
  s.transitions.flatMap (fun (c, targets) =>
    targets.map fun target => { source, label := .symbol c, target }) ++
  s.epsilon.map fun target => { source, label := .epsilon, target }

/-- The edges of the state with the id, none if it does not exist. -/
def Arena.edgesOf (a : Arena) (id : StateId) : List Edge :=
  match a.get? id with
  | none => []
  | some s => s.edges id

/-- Where there is no state, there are no edges. -/
theorem Arena.edgesOf_eq_nil {a : Arena} {id : StateId} (h : a.size ≤ id) :
    a.edgesOf id = [] := by
  rw [Arena.edgesOf, Arena.get?, List.getElem?_eq_none h]

end PatternNfa
