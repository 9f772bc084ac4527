import PatternNfa.Arena.Construction
import PatternNfa.Proofs.Acceptance
import PatternNfa.Proofs.Block

/-!
# `PatternNfa.Proofs.Growth`: what is in an arena stays there

Operations can be asked for with fragments of any ids, and can fail in the middle. Whatever they do,
they only add: states behind those that were there, and targets behind the epsilon targets of a
state. Symbols are only ever added to fresh states. `Arena.Grows` says that nothing but this
happened between two arenas.

`Operation.run_grows` says it of any operations in a row. Each construction is a growing followed by
links, and `link_grows` holds of links that stop early too, so no operation needs its fragments to
exist. An automaton that was cut out of the arena before accepts afterwards what it accepted, since
every path is still there.
-/

set_option autoImplicit false

namespace PatternNfa

/-- The second state has the transitions of the first one in their order, and perhaps more epsilon
targets behind those that it had. -/
structure State.Grows (s t : State) : Prop where
  transitions_eq : t.transitions = s.transitions
  epsilon_prefix : s.epsilon <+: t.epsilon

namespace State

/-- A state has grown by nothing. -/
theorem Grows.refl (s : State) : s.Grows s := ⟨rfl, List.prefix_rfl⟩

/-- What grows twice has grown. -/
theorem Grows.trans {s t u : State} (hst : s.Grows t) (htu : t.Grows u) : s.Grows u where
  transitions_eq := htu.transitions_eq.trans hst.transitions_eq
  epsilon_prefix := hst.epsilon_prefix.trans htu.epsilon_prefix

/-- Another empty transition comes behind those that are there. -/
theorem grows_addEpsilon (s : State) (target : StateId) : s.Grows (s.addEpsilon target) where
  transitions_eq := rfl
  epsilon_prefix := List.prefix_append s.epsilon [target]

end State

namespace Arena

/-- The second arena has a state for each state of the first one, with the same id, and perhaps more
states and transitions. -/
structure Grows (a b : Arena) : Prop where
  size_le : a.size ≤ b.size
  get?_grows : ∀ id s, a.get? id = some s → ∃ t, b.get? id = some t ∧ s.Grows t

variable {a b c : Arena}

/-- An arena has grown by nothing. -/
theorem Grows.refl (a : Arena) : a.Grows a where
  size_le := Nat.le_refl _
  get?_grows _ s hs := ⟨s, hs, .refl s⟩

/-- What grows twice has grown. -/
theorem Grows.trans (hab : a.Grows b) (hbc : b.Grows c) : a.Grows c where
  size_le := Nat.le_trans hab.size_le hbc.size_le
  get?_grows id s hs := by
    obtain ⟨t, ht, hst⟩ := hab.get?_grows id s hs
    obtain ⟨u, hu, htu⟩ := hbc.get?_grows id t ht
    exact ⟨u, hu, hst.trans htu⟩

/-- An arena with more states behind the others has grown. -/
theorem Extends.grows (h : a.Extends b) : a.Grows b where
  size_le := h.size_le
  get?_grows id s hs := ⟨s, by rw [h.get?_eq id (lt_size_of_get? hs), hs], .refl s⟩

/-! ### Constructions -/

/-- New states come behind those that are there. -/
theorem grow_grows (a : Arena) (n : Nat) : a.Grows (a.grow n) where
  size_le := by
    rw [size_grow]
    exact Nat.le_add_right _ _
  get?_grows _ s hs := ⟨s, by rw [get?_grow_of_lt (lt_size_of_get? hs), hs], .refl s⟩

/-- A new empty transition only adds to one state. -/
theorem addEpsilon_grows (a : Arena) (source target : StateId) :
    a.Grows (a.addEpsilon source target) where
  size_le := Nat.le_of_eq (size_addEpsilon a source target).symm
  get?_grows id s hs := by
    rw [get?_addEpsilon, hs]
    split
    · exact ⟨_, rfl, s.grows_addEpsilon target⟩
    · exact ⟨s, rfl, .refl s⟩

/-- Links that stop early have only added what they got to. -/
theorem link_grows (links : List (StateId × StateId)) (a : Arena) : a.Grows (a.link links).1 := by
  induction links generalizing a with
  | nil => exact .refl a
  | cons l rest ih =>
      rw [link]
      split
      · exact (addEpsilon_grows a l.1 l.2).trans (ih _)
      · exact .refl a

/-- A literal changes nothing that is there. -/
theorem literal_grows (a : Arena) (c : Char) : a.Grows (a.literal c).arena :=
  (extends_literal a c).grows

/-- A concatenation adds a link. -/
theorem concatenate_grows (a : Arena) (left right : Fragment) :
    a.Grows (a.concatenate left right).arena :=
  link_grows _ a

/-- A union adds states and links. -/
theorem union_grows (a : Arena) (left right : Fragment) : a.Grows (a.union left right).arena :=
  (grow_grows a 2).trans (link_grows _ _)

/-- A closure adds states and links. -/
theorem closure_grows (a : Arena) (inner : Fragment) : a.Grows (a.closure inner).arena :=
  (grow_grows a 2).trans (link_grows _ _)

/-! ### Evaluations -/

/-- A token that is evaluated does one construction, if any. -/
theorem evaluateToken_grows {stack stack' : List Fragment} {t : Token}
    (h : a.evaluateToken stack t = .ok (stack', b)) : a.Grows b := by
  simp only [evaluateToken] at h
  split at h
  · cases h
    exact literal_grows a _
  · cases h
    exact concatenate_grows a _ _
  · cases h
    exact union_grows a _ _
  · cases h
    exact closure_grows a _
  all_goals cases h

/-- An evaluation that fails leaves what the tokens before the failure have added. -/
theorem evaluateFrom_grows (endOffset : Nat) (ts : List Token) (a : Arena)
    (stack : List Fragment) : a.Grows (evaluateFrom endOffset a stack ts).arena := by
  induction ts generalizing a stack with
  | nil => exact .refl a
  | cons t ts ih =>
      cases htoken : a.evaluateToken stack t with
      | error e =>
          simp only [evaluateFrom, htoken]
          exact .refl a
      | ok next =>
          simp only [evaluateFrom, htoken]
          exact (evaluateToken_grows htoken).trans (ih next.2 next.1)

/-! ### Acceptance -/

/-- An edge stays when the arena grows. -/
theorem Grows.hasEdge (h : a.Grows b) {e : Edge} (he : a.HasEdge e) : b.HasEdge e := by
  rcases e with ⟨p, l, q⟩
  obtain ⟨s, hs, hmem⟩ := hasEdge_iff.mp he
  obtain ⟨t, ht, hst⟩ := h.get?_grows p s hs
  refine hasEdge_iff.mpr ⟨t, ht, ?_⟩
  rw [mem_edges] at hmem ⊢
  cases l with
  | symbol c =>
      have htargets : t.targets c = s.targets c := by simp only [State.targets, hst.transitions_eq]
      refine ⟨hmem.1, ?_⟩
      show q ∈ t.targets c
      rw [htargets]
      exact hmem.2
  | epsilon => exact ⟨hmem.1, hst.epsilon_prefix.subset hmem.2⟩

/-- Whatever a fragment accepts it still accepts when the arena has grown. -/
theorem Grows.accepts (h : a.Grows b) {f : Fragment} {pattern pattern' input : String}
    (haccepts : (a.finish pattern f).accepts input = true) :
    (b.finish pattern' f).accepts input = true := by
  rw [Nfa.accepts_iff_path] at haccepts ⊢
  exact haccepts.mono fun _ he => h.hasEdge he

end Arena

/-! ### Operations in a row -/

namespace Operation

/-- No operation takes anything away, whatever its operands are. -/
theorem apply_grows (a : Arena) (operation : Operation) : a.Grows (operation.apply a).arena := by
  cases operation with
  | literal c => exact a.literal_grows c
  | concatenate left right => exact a.concatenate_grows left right
  | union left right => exact a.union_grows left right
  | closure inner => exact a.closure_grows inner
  | evaluate tokens endOffset => exact Arena.evaluateFrom_grows endOffset tokens a []

/-- Does operations one after another. One that fails does not keep the next one from being done. -/
def run (a : Arena) (operations : List Operation) : Arena :=
  operations.foldl (fun a operation => (operation.apply a).arena) a

/-- Operations of any kind, with any fragments and whether they succeed or not, add to an arena and
take nothing away: no state is lost or gets another id, its symbols and their targets stay as they
are, and its epsilon targets stay in front of those that it gets. So a fragment accepts afterwards
whatever it accepted before, be its states there or not. The arena is any, also one that other
operations have left. -/
theorem run_grows (a : Arena) (operations : List Operation) :
    a.Grows (run a operations) ∧
      ∀ (f : Fragment) (pattern pattern' input : String),
        (a.finish pattern f).accepts input = true →
          ((run a operations).finish pattern' f).accepts input = true := by
  have hgrows : a.Grows (run a operations) := by
    induction operations generalizing a with
    | nil => exact .refl a
    | cons operation rest ih => exact (apply_grows a operation).trans (ih _)
  exact ⟨hgrows, fun f pattern pattern' input h => hgrows.accepts h⟩

/-- A closure of a fragment without states makes its two states and links the first of them, and
then stops. -/
example : (Operation.closure ⟨7, 9⟩).apply {} =
    { arena := { states := [{ epsilon := [7, 1] }, {}] }
      records := []
      result := .error (.missingState 9) } := by rfl

end Operation

end PatternNfa
