import PatternNfa.Proofs.Path

/-!
# `PatternNfa.Proofs.Acceptance`: acceptance is a path

`accepts_iff_path` says that an automaton accepts an input exactly if a path from its start to its
accepting state reads it. It holds of any arena, also of one whose targets do not all exist.
`accepts_iff_leads` says the same with the edges of the path at hand.

The search for a closure has one invariant, `Pushed`: what follows a closed id without reading is
closed too or still on the stack. At its end the stack is empty, so the closed ids are closed under
edges that read nothing. Such a set needs to be looked at only where a symbol is read
(`Path.split_of_closed`), which is what the run through the input does.
-/

set_option autoImplicit false

namespace PatternNfa

namespace Arena

/-! ### The closure -/

/-- No edge that reads nothing leaves the ids. -/
def EpsilonClosed (a : Arena) (ids : List StateId) : Prop :=
  ∀ p ∈ ids, ∀ q, a.HasEdge ⟨p, .epsilon, q⟩ → q ∈ ids

/-- What follows a closed id without reading is closed or on the stack. -/
def Pushed (a : Arena) (closed stack : List StateId) : Prop :=
  ∀ p ∈ closed, ∀ q, a.HasEdge ⟨p, .epsilon, q⟩ → q ∈ closed ∨ q ∈ stack

/-- An id that is closed already can leave the stack. -/
theorem seen_of_closed {closed stack : List StateId} {id p : StateId} (hid : id ∈ closed)
    (hp : p ∈ closed ∨ p ∈ id :: stack) : p ∈ closed ∨ p ∈ stack := by
  rcases hp with hp | hp
  · exact Or.inl hp
  · rcases List.mem_cons.mp hp with rfl | hp
    · exact Or.inl hid
    · exact Or.inr hp

/-- An id that is closed now can leave the stack, and others can come on it. -/
theorem seen_of_new {closed stack : List StateId} {id p : StateId} (new : List StateId)
    (hp : p ∈ closed ∨ p ∈ id :: stack) : p ∈ id :: closed ∨ p ∈ new ++ stack := by
  rcases hp with hp | hp
  · exact Or.inl (List.mem_cons_of_mem id hp)
  · rcases List.mem_cons.mp hp with rfl | hp
    · exact Or.inl List.mem_cons_self
    · exact Or.inr (List.mem_append_right new hp)

/-- What is closed or on the stack is found. -/
theorem mem_close_of_mem {a : Arena} {closed stack : List StateId} {p : StateId}
    (hp : p ∈ closed ∨ p ∈ stack) : p ∈ a.close closed stack := by
  fun_induction close a closed stack with
  | case1 closed => exact hp.resolve_right (by simp)
  | case2 closed id stack hid ih => exact ih (seen_of_closed hid hp)
  | case3 closed id stack hid ih => exact ih (seen_of_new (a.epsilonOf id) hp)

/-- What is found is closed already, or follows the stack without reading. -/
theorem path_of_mem_close {a : Arena} {closed stack : List StateId} {q : StateId}
    (hq : q ∈ a.close closed stack) : q ∈ closed ∨ ∃ p ∈ stack, a.Path p [] q := by
  fun_induction close a closed stack with
  | case1 closed => exact Or.inl hq
  | case2 closed id stack hid ih =>
      rcases ih hq with h | ⟨p, hp, hpath⟩
      · exact Or.inl h
      · exact Or.inr ⟨p, List.mem_cons_of_mem id hp, hpath⟩
  | case3 closed id stack hid ih =>
      -- What is found after the id is closed is the id, was closed before, or follows one of the
      -- ids on the stack, of which the new ones follow the id.
      rcases ih hq with h | ⟨p, hp, hpath⟩
      · rcases List.mem_cons.mp h with rfl | h
        · exact Or.inr ⟨q, List.mem_cons_self, .refl q⟩
        · exact Or.inl h
      · cases List.mem_append.mp hp with
        | inl hp => exact Or.inr ⟨id, List.mem_cons_self, .epsilon (hasEdge_epsilon.mpr hp) hpath⟩
        | inr hp => exact Or.inr ⟨p, List.mem_cons_of_mem id hp, hpath⟩

/-- Once the search is over, no empty transition leaves what it found. -/
theorem epsilonClosed_close {a : Arena} {closed stack : List StateId}
    (h : a.Pushed closed stack) : a.EpsilonClosed (a.close closed stack) := by
  fun_induction close a closed stack with
  | case1 closed => exact fun p hp q he => (h p hp q he).resolve_right (by simp)
  | case2 closed id stack hid ih =>
      apply ih
      intro p hp q he
      exact seen_of_closed hid (h p hp q he)
  | case3 closed id stack hid ih =>
      apply ih
      intro p hp q he
      -- The targets of the id that is closed now come on the stack.
      rcases List.mem_cons.mp hp with rfl | hp
      · exact Or.inr (List.mem_append_left _ (hasEdge_epsilon.mp he))
      · exact seen_of_new (a.epsilonOf id) (h p hp q he)

/-- What is reached without reading is closed under empty transitions. -/
theorem epsilonClosed_closureOf (a : Arena) (ids : List StateId) :
    a.EpsilonClosed (a.closureOf ids) :=
  epsilonClosed_close fun _ hp => absurd hp List.not_mem_nil

/-- A state is reached from itself without reading. -/
theorem mem_closureOf {a : Arena} {ids : List StateId} {p : StateId} (hp : p ∈ ids) :
    p ∈ a.closureOf ids :=
  mem_close_of_mem (Or.inr hp)

/-- What is reached without reading has an empty path to it. -/
theorem path_of_mem_closureOf {a : Arena} {ids : List StateId} {q : StateId}
    (hq : q ∈ a.closureOf ids) : ∃ p ∈ ids, a.Path p [] q :=
  (path_of_mem_close hq).resolve_left (by simp)

/-! ### Reading -/

/-- A path from a set that is closed under edges that read nothing either stays in it and reads
nothing, or leaves it with the first symbol. -/
theorem Path.split_of_closed {a : Arena} {ids : List StateId} (hclosed : a.EpsilonClosed ids)
    {p r : StateId} {w : List Char} (h : a.Path p w r) (hp : p ∈ ids) :
    (w = [] ∧ r ∈ ids) ∨ ∃ c v q q', w = c :: v ∧ q ∈ ids ∧ a.HasEdge ⟨q, .symbol c, q'⟩ ∧
      a.Path q' v r := by
  -- The path stays in the set as long as it reads nothing.
  induction h with
  | refl p => exact Or.inl ⟨rfl, hp⟩
  | @step p q r l w he hrest ih =>
      cases l with
      | epsilon => exact ih (hclosed p hp q he)
      | symbol c => exact Or.inr ⟨c, w, p, q, rfl, hp, he, hrest⟩

end Arena

namespace Nfa

/-- A run through an input accepts if a path from one of the current states reads it. -/
theorem acceptsFrom_iff_path (nfa : Nfa) (input : List Char) {current : List StateId}
    (hclosed : nfa.arena.EpsilonClosed current) :
    nfa.acceptsFrom current input = true ↔
      ∃ p ∈ current, nfa.arena.Path p input nfa.accept := by
  induction input generalizing current with
  | nil =>
      rw [acceptsFrom, List.contains_iff_mem]
      constructor
      · exact fun h => ⟨nfa.accept, h, .refl _⟩
      · rintro ⟨p, hp, hpath⟩
        rcases hpath.split_of_closed hclosed hp with ⟨-, h⟩ | ⟨_, _, _, _, hw, -⟩
        · exact h
        · cases hw
  | cons c cs ih =>
      let moved := current.flatMap (nfa.arena.targetsOf c)
      -- The empty set ends the run early, but going on would not find a path either.
      have hstep : nfa.acceptsFrom current (c :: cs) = true ↔
          ∃ p ∈ nfa.arena.closureOf moved, nfa.arena.Path p cs nfa.accept := by
        rw [acceptsFrom]
        by_cases hempty : (nfa.arena.closureOf moved).isEmpty = true
        · rw [if_pos hempty, List.isEmpty_iff.mp hempty]
          simp
        · rw [if_neg hempty]
          exact ih (nfa.arena.epsilonClosed_closureOf moved)
      rw [hstep]
      constructor
      · rintro ⟨q, hq, hpath⟩
        obtain ⟨q', hq', hempty⟩ := Arena.path_of_mem_closureOf hq
        obtain ⟨p, hp, hmem⟩ := List.mem_flatMap.mp hq'
        exact ⟨p, hp, .step (Arena.hasEdge_symbol.mpr hmem) (hempty.trans hpath)⟩
      · rintro ⟨p, hp, hpath⟩
        rcases hpath.split_of_closed hclosed hp with ⟨hw, -⟩ | ⟨d, v, q, q', hw, hq, he, hrest⟩
        · cases hw
        · cases hw
          have hmoved : q' ∈ moved :=
            List.mem_flatMap.mpr ⟨q, hq, Arena.hasEdge_symbol.mp he⟩
          exact ⟨q', Arena.mem_closureOf hmoved, hrest⟩

/-- An automaton accepts what the paths from its start to its accepting state read. -/
theorem accepts_iff_path (nfa : Nfa) (input : String) :
    nfa.accepts input = true ↔ nfa.arena.Path nfa.start input.toList nfa.accept := by
  rw [accepts, acceptsFrom_iff_path nfa _ (nfa.arena.epsilonClosed_closureOf _)]
  constructor
  · rintro ⟨p, hp, hpath⟩
    obtain ⟨q, hq, hempty⟩ := Arena.path_of_mem_closureOf hp
    rw [List.mem_singleton.mp hq] at hempty
    exact hempty.trans hpath
  · exact fun hpath => ⟨nfa.start, Arena.mem_closureOf List.mem_cons_self, hpath⟩

/-- An input is accepted exactly if it is what the edges of some path read, where the path leads
from the start to the accepting state and each edge is a transition of a state that exists. Nothing
is asked of the ids: any of them can be without a state, also the accepting one. -/
theorem accepts_iff_leads (nfa : Nfa) (input : String) :
    nfa.accepts input = true ↔
      ∃ es, Arena.Leads nfa.start es nfa.accept ∧
        (∀ e ∈ es, ∃ s, nfa.arena.get? e.source = some s ∧ e ∈ s.edges e.source) ∧
        Arena.wordAlong es = input.toList := by
  have hedge : ∀ e : Edge, nfa.arena.HasEdge e ↔
      ∃ s, nfa.arena.get? e.source = some s ∧ e ∈ s.edges e.source := fun _ => Arena.hasEdge_iff
  rw [accepts_iff_path, Arena.path_iff_exists_leads]
  simp only [hedge]

/-- The accepting id has no state and is reached over a loop that reads nothing. -/
example :
    let arena : Arena := { states := [{ epsilon := [0, 7] }] }
    (arena.finish "" ⟨0, 7⟩).accepts "" = true := by cbv

end Nfa

end PatternNfa
