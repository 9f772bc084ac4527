/-!
# `PatternNfa.Arena`: states, fragments and the ways to join them

An automaton is built inside an arena, a growing list of states in which a state's place is its
id. Ids are bare numbers: nothing stops a transition from naming a state that does not exist, and
such a target is stored as it is. A source has to exist, though, since the transition is kept with
it.

A fragment is a part of the automaton under construction, given by the state in which it starts
and the one in which it stops. The four constructions build a fragment for a symbol, or from one
or two fragments that are already there. Each first makes its fresh states and then adds its
epsilon transitions one after another. `Arena.link` adds them and stops at the first one that
leaves from a state that does not exist. What was done until then stays done.

`link_missing_eq_none_iff` says when no construction stops early, and the `size` lemmas that
states are never lost.
-/

set_option autoImplicit false

namespace PatternNfa

/-- A state is named by its place in the arena. -/
abbrev StateId := Nat

/-- A node of the automaton. The symbols are kept in the order in which they first got a
transition, the targets of a symbol and of epsilon in the order in which they were added. -/
structure State where
  transitions : List (Char × List StateId) := []
  epsilon : List StateId := []
deriving DecidableEq, Repr, Inhabited

namespace State

/-- Adds a target to those of a symbol, which gets its place at the end if it has none yet. -/
def insertTarget (c : Char) (target : StateId) :
    List (Char × List StateId) → List (Char × List StateId)
  | [] => [(c, [target])]
  | (d, targets) :: rest =>
      if d = c then (d, targets ++ [target]) :: rest
      else (d, targets) :: insertTarget c target rest

/-- Adds a transition that reads a symbol. -/
def addTransition (s : State) (c : Char) (target : StateId) : State :=
  { s with transitions := insertTarget c target s.transitions }

/-- Adds a transition that reads nothing. -/
def addEpsilon (s : State) (target : StateId) : State :=
  { s with epsilon := s.epsilon ++ [target] }

/-- The targets of a symbol. -/
def targets (s : State) (c : Char) : List StateId :=
  s.transitions.flatMap fun (d, targets) => if d = c then targets else []

/-- The state has no transitions. -/
def isTerminal (s : State) : Bool := s.transitions.isEmpty && s.epsilon.isEmpty

end State

/-- The states of an automaton under construction, each at the place that is its id. -/
structure Arena where
  states : List State := []
deriving DecidableEq, Repr, Inhabited

/-- A part of an automaton, between the state where it starts and the one where it stops. -/
structure Fragment where
  start : StateId
  stop : StateId
deriving DecidableEq, Repr, Inhabited

/-- What a construction leaves. -/
structure Built where
  /-- The arena, with everything that the construction got to do. -/
  arena : Arena
  /-- The fragment that the construction is for. -/
  fragment : Fragment
  /-- The state that should have got a transition but does not exist, if the construction stopped
  there. -/
  missing : Option StateId := none
deriving DecidableEq, Repr, Inhabited

namespace Arena

/-! ### States -/

/-- The number of states, which is the id of the next one. -/
def size (a : Arena) : Nat := a.states.length

/-- The state with the id, if it exists. -/
def get? (a : Arena) (id : StateId) : Option State := a.states[id]?

/-- Appends `n` states without transitions. -/
def grow (a : Arena) (n : Nat) : Arena := { states := a.states ++ List.replicate n {} }

/-- Adds a transition that reads a symbol, if the source exists. -/
def addTransition (a : Arena) (source : StateId) (c : Char) (target : StateId) : Arena :=
  { states := a.states.modify source (·.addTransition c target) }

/-- Adds a transition that reads nothing, if the source exists. -/
def addEpsilon (a : Arena) (source target : StateId) : Arena :=
  { states := a.states.modify source (·.addEpsilon target) }

/-- Growing adds as many states as it is asked for. -/
@[simp]
theorem size_grow (a : Arena) (n : Nat) : (a.grow n).size = a.size + n := by
  simp [size, grow]

/-- A transition is added to a state that is there already. -/
@[simp]
theorem size_addTransition (a : Arena) (source : StateId) (c : Char) (target : StateId) :
    (a.addTransition source c target).size = a.size := by
  simp [size, addTransition]

/-- An empty transition is added to a state that is there already. -/
@[simp]
theorem size_addEpsilon (a : Arena) (source target : StateId) :
    (a.addEpsilon source target).size = a.size := by
  simp [size, addEpsilon]

/-- Adds epsilon transitions, given by source and target, until one of them has a source that does
not exist. The second part of the answer is that source. -/
def link (a : Arena) : List (StateId × StateId) → Arena × Option StateId
  | [] => (a, none)
  | (source, target) :: rest =>
      if source < a.size then link (a.addEpsilon source target) rest else (a, some source)

/-- Links change states and make none. -/
@[simp]
theorem size_link (links : List (StateId × StateId)) (a : Arena) :
    (a.link links).1.size = a.size := by
  induction links generalizing a with
  | nil => rfl
  | cons l rest ih =>
      rw [link]
      split
      · rw [ih, size_addEpsilon]
      · rfl

/-- Every link is made if it leaves from a state that exists. -/
theorem link_missing_eq_none_iff (links : List (StateId × StateId)) (a : Arena) :
    (a.link links).2 = none ↔ ∀ l ∈ links, l.1 < a.size := by
  induction links generalizing a with
  | nil => simp [link]
  | cons l rest ih =>
      rw [link]
      split
      · rename_i hl
        rw [ih, size_addEpsilon, List.forall_mem_cons]
        exact ⟨fun h => ⟨hl, h⟩, fun h => h.2⟩
      · rename_i hl
        rw [List.forall_mem_cons]
        exact ⟨fun h => absurd h (Option.some_ne_none _), fun h => absurd h.1 hl⟩

/-! ### Constructions -/

/-- A construction that consists of epsilon transitions only. -/
def build (a : Arena) (links : List (StateId × StateId)) (fragment : Fragment) : Built :=
  let linked := a.link links
  { arena := linked.1, fragment, missing := linked.2 }

/-- Reads the symbol on the way from a fresh state to another. -/
def literal (a : Arena) (c : Char) : Built :=
  { arena := (a.grow 2).addTransition a.size c (a.size + 1)
    fragment := { start := a.size, stop := a.size + 1 } }

/-- Goes through the first fragment and then through the second. -/
def concatenate (a : Arena) (left right : Fragment) : Built :=
  a.build [(left.stop, right.start)] { start := left.start, stop := right.stop }

/-- Goes through one of the fragments, between two fresh states. -/
def union (a : Arena) (left right : Fragment) : Built :=
  let fragment : Fragment := { start := a.size, stop := a.size + 1 }
  (a.grow 2).build
    [(fragment.start, left.start), (fragment.start, right.start),
      (left.stop, fragment.stop), (right.stop, fragment.stop)]
    fragment

/-- Goes through the fragment any number of times, between two fresh states. -/
def closure (a : Arena) (inner : Fragment) : Built :=
  let fragment : Fragment := { start := a.size, stop := a.size + 1 }
  (a.grow 2).build
    [(fragment.start, inner.start), (fragment.start, fragment.stop),
      (inner.stop, inner.start), (inner.stop, fragment.stop)]
    fragment

/-- The source of the only transition is fresh, so a literal never stops early. -/
theorem literal_missing (a : Arena) (c : Char) : (a.literal c).missing = none := rfl

/-- A concatenation succeeds if the stop of its left operand exists. -/
theorem concatenate_missing_eq_none_iff (a : Arena) (left right : Fragment) :
    (a.concatenate left right).missing = none ↔ left.stop < a.size := by
  simp [concatenate, build, link_missing_eq_none_iff]

/-- A union succeeds if the stops of its operands exist once its own states do. -/
theorem union_missing_eq_none_iff (a : Arena) (left right : Fragment) :
    (a.union left right).missing = none ↔
      left.stop < a.size + 2 ∧ right.stop < a.size + 2 := by
  simp [union, build, link_missing_eq_none_iff]

/-- A closure succeeds if the stop of what it repeats exists once its own states do. -/
theorem closure_missing_eq_none_iff (a : Arena) (inner : Fragment) :
    (a.closure inner).missing = none ↔ inner.stop < a.size + 2 := by
  simp [closure, build, link_missing_eq_none_iff]

end Arena

end PatternNfa
