import Mathlib.Algebra.GroupWithZero.Nat
import Mathlib.Data.List.Nodup
import PatternNfa.Proofs.Counting
import PatternNfa.Proofs.Structure
import PatternNfa.Proofs.Traversal

/-!
# `PatternNfa.Proofs.Size`: how large a compiled automaton is

Every token adds the same number of states and transitions wherever it is evaluated
(`Arena.size_build`, `Arena.edgeCount_build`). So the size of an automaton is told by how many
tokens of each kind there are. Those of the pattern are all there in postfix order, and the only
others are the concatenations that are spelt out. Their number follows, since there is one symbol
more than there are operators with two operands.

The transitions of a compiled automaton are different from one another, and all its states can be
reached from the start. So the walk from there reports all of them, each once
(`Nfa.Structured.edges_perm`). `compile_size` puts the numbers and the walk together.
-/

set_option autoImplicit false

namespace PatternNfa

/-! ### What a token adds -/

namespace Kind

/-- The number of states that evaluating a token of the kind adds. -/
def newStates : Kind → Nat
  | symbol _ | union | star => 2
  | _ => 0

/-- The number of transitions that evaluating a token of the kind adds. -/
def newEdges : Kind → Nat
  | symbol _ | concat => 1
  | union | star => 4
  | _ => 0

/-- Two states for each symbol, bar and star. -/
theorem sum_newStates (ks : List Kind) :
    (ks.map newStates).sum =
      2 * (ks.countP isSymbol + ks.countP (· == union) + ks.countP (· == star)) := by
  induction ks with
  | nil => rfl
  | cons k ks ih =>
      have hk : k.newStates =
          2 * (k.isSymbol.toNat + (k == union).toNat + (k == star).toNat) := by
        cases k <;> rfl
      rw [List.map_cons, List.sum_cons, ih, hk]
      simp only [countP_cons_eq_toNat_add]
      omega

/-- An operator with two operands adds one transition, and three more if it is a union. -/
theorem sum_newEdges (ks : List Kind) :
    (ks.map newEdges).sum =
      ks.countP isSymbol + ks.countP isBinary + 3 * ks.countP (· == union) +
        4 * ks.countP (· == star) := by
  induction ks with
  | nil => rfl
  | cons k ks ih =>
      have hk : k.newEdges = k.isSymbol.toNat + k.isBinary.toNat + 3 * (k == union).toNat +
          4 * (k == star).toNat := by
        cases k <;> rfl
      rw [List.map_cons, List.sum_cons, ih, hk]
      simp only [countP_cons_eq_toNat_add]
      omega

end Kind

namespace Expr

variable (f : Kind → Nat)

/-- A concatenation adds what its operands do, and what its own token does. -/
theorem sum_postorder_concat (l r : Expr) :
    ((concat l r).postorder.map f).sum =
      (l.postorder.map f).sum + (r.postorder.map f).sum + f .concat := by
  rw [postorder, List.map_append, List.map_append, List.sum_append, List.sum_append,
    List.map_singleton, List.sum_singleton]

/-- A union adds what its operands do, and what its own token does. -/
theorem sum_postorder_union (l r : Expr) :
    ((union l r).postorder.map f).sum =
      (l.postorder.map f).sum + (r.postorder.map f).sum + f .union := by
  rw [postorder, List.map_append, List.map_append, List.sum_append, List.sum_append,
    List.map_singleton, List.sum_singleton]

/-- A star adds what its operand does, and what its own token does. -/
theorem sum_postorder_star (e : Expr) :
    ((star e).postorder.map f).sum = (e.postorder.map f).sum + f .star := by
  rw [postorder, List.map_append, List.sum_append, List.map_singleton, List.sum_singleton]

end Expr

namespace State

/-- The number of transitions of a state. -/
def degree (s : State) : Nat :=
  (s.transitions.map fun entry => entry.2.length).sum + s.epsilon.length

/-- A state has as many edges as transitions. -/
theorem length_edges (s : State) (id : StateId) : (s.edges id).length = s.degree := by
  simp [edges, degree, List.length_flatMap]

/-- An empty transition is one more. -/
theorem degree_addEpsilon (s : State) (target : StateId) :
    (s.addEpsilon target).degree = s.degree + 1 := by
  rw [degree, addEpsilon, List.length_append]
  rfl

/-- A transition with a symbol is one more. -/
theorem degree_addTransition (s : State) (c : Char) (target : StateId) :
    (s.addTransition c target).degree = s.degree + 1 := by
  have hinsert : ∀ transitions : List (Char × List StateId),
      ((insertTarget c target transitions).map fun entry => entry.2.length).sum =
        (transitions.map fun entry => entry.2.length).sum + 1 := by
    intro transitions
    induction transitions with
    | nil => rfl
    | cons entry rest ih =>
        obtain ⟨d, targets⟩ := entry
        rw [insertTarget, List.map_cons, List.sum_cons]
        split
        · simp only [List.map_cons, List.sum_cons, List.length_append, List.length_singleton]
          omega
        · rw [List.map_cons, List.sum_cons, ih, Nat.add_assoc]
  rw [degree, addTransition, hinsert, degree, Nat.add_right_comm]

end State

/-- A sum grows by as much as one of its terms. -/
theorem sum_map_modify {α : Type} {f : α → α} {g : α → Nat} {n : Nat}
    (h : ∀ x, g (f x) = g x + n) {l : List α} {i : Nat} (hi : i < l.length) :
    ((l.modify i f).map g).sum = (l.map g).sum + n := by
  induction l generalizing i with
  | nil => exact absurd hi (Nat.not_lt_zero i)
  | cons x l ih =>
      cases i with
      | zero =>
          rw [List.modify_zero_cons, List.map_cons, List.map_cons, List.sum_cons, List.sum_cons, h,
            Nat.add_right_comm]
      | succ i =>
          rw [List.modify_succ_cons, List.map_cons, List.map_cons, List.sum_cons, List.sum_cons,
            ih (Nat.lt_of_succ_lt_succ hi), Nat.add_assoc]

namespace Arena

/-- All transitions of the arena, state by state. -/
def allEdges (a : Arena) : List Edge := (List.range a.size).flatMap a.edgesOf

/-- The number of transitions of the arena. -/
def edgeCount (a : Arena) : Nat := (a.states.map State.degree).sum

/-- An arena has as many edges as its states have together. -/
theorem length_allEdges (a : Arena) : a.allEdges.length = a.edgeCount := by
  have hdegrees : (List.range a.size).map (fun id => (a.edgesOf id).length) =
      a.states.map State.degree := by
    apply List.ext_getElem
    · simp [size]
    · intro id hid _
      have hlt : id < a.states.length := by simpa [size] using hid
      simp [edgesOf, get?, List.getElem?_eq_getElem hlt, State.length_edges]
  rw [allEdges, List.length_flatMap, hdegrees, edgeCount]

section

variable {a : Arena}

/-- Growing adds no transitions. -/
theorem edgeCount_grow (n : Nat) : (a.grow n).edgeCount = a.edgeCount := by
  simp [edgeCount, grow, State.degree]

/-- Every link adds one transition. -/
theorem edgeCount_link {links : List (StateId × StateId)} (h : ∀ l ∈ links, l.1 < a.size) :
    (a.link links).1.edgeCount = a.edgeCount + links.length := by
  induction links generalizing a with
  | nil => rfl
  | cons l rest ih =>
      rw [List.forall_mem_cons] at h
      have hadd : (a.addEpsilon l.1 l.2).edgeCount = a.edgeCount + 1 :=
        sum_map_modify (fun s => s.degree_addEpsilon l.2) h.1
      rw [link, if_pos h.1, ih (by rw [size_addEpsilon]; exact h.2), hadd, List.length_cons]
      omega

/-- A literal has one transition. -/
theorem edgeCount_literal (c : Char) : (a.literal c).arena.edgeCount = a.edgeCount + 1 := by
  have hlt : a.size < (a.grow 2).size := by
    rw [size_grow]
    omega
  have hadd : (a.literal c).arena.edgeCount = (a.grow 2).edgeCount + 1 :=
    sum_map_modify (fun s => s.degree_addTransition c (a.size + 1)) hlt
  rw [hadd, edgeCount_grow]

/-- A concatenation adds one transition. -/
theorem edgeCount_concatenate {left right : Fragment} (h : left.stop < a.size) :
    (a.concatenate left right).arena.edgeCount = a.edgeCount + 1 := by
  have hsource : ∀ l ∈ [(left.stop, right.start)], l.1 < a.size := by simpa using h
  exact edgeCount_link hsource

/-- A union adds four transitions. -/
theorem edgeCount_union {left right : Fragment} (hl : left.stop < a.size)
    (hr : right.stop < a.size) :
    (a.union left right).arena.edgeCount = a.edgeCount + 4 := by
  rw [← edgeCount_grow (a := a) 2]
  exact edgeCount_link (union_sources_lt hl hr)

/-- A closure adds four transitions. -/
theorem edgeCount_closure {inner : Fragment} (h : inner.stop < a.size) :
    (a.closure inner).arena.edgeCount = a.edgeCount + 4 := by
  rw [← edgeCount_grow (a := a) 2]
  exact edgeCount_link (closure_sources_lt h)

end

/-- Building an expression adds the states of its tokens. -/
theorem size_build (a : Arena) (e : Expr) :
    (e.build a).arena.size = a.size + (e.postorder.map Kind.newStates).sum := by
  induction e generalizing a with
  | symbol c => exact size_literal a c
  | concat left right ihl ihr =>
      have hnew : Kind.newStates .concat = 0 := rfl
      rw [Expr.build, size_concatenate, ihr, ihl, Expr.sum_postorder_concat, hnew]
      omega
  | union left right ihl ihr =>
      have hnew : Kind.newStates .union = 2 := rfl
      rw [Expr.build, size_union, ihr, ihl, Expr.sum_postorder_union, hnew]
      omega
  | star inner ih =>
      have hnew : Kind.newStates .star = 2 := rfl
      rw [Expr.build, size_closure, ih, Expr.sum_postorder_star, hnew]
      omega

/-- Building an expression adds the transitions of its tokens. -/
theorem edgeCount_build (a : Arena) (e : Expr) :
    (e.build a).arena.edgeCount = a.edgeCount + (e.postorder.map Kind.newEdges).sum := by
  induction e generalizing a with
  | symbol c => exact edgeCount_literal c
  | concat left right ihl ihr =>
      have hl := (build_block a left).2.of_extends (build_block (left.build a).arena right).1
      have hnew : Kind.newEdges .concat = 1 := rfl
      rw [Expr.build, edgeCount_concatenate hl.stop_lt, ihr, ihl, Expr.sum_postorder_concat, hnew]
      omega
  | union left right ihl ihr =>
      obtain ⟨hextends, hr⟩ := build_block (left.build a).arena right
      have hl := (build_block a left).2.of_extends hextends
      have hnew : Kind.newEdges .union = 4 := rfl
      rw [Expr.build, edgeCount_union hl.stop_lt hr.stop_lt, ihr, ihl, Expr.sum_postorder_union,
        hnew]
      omega
  | star inner ih =>
      have hnew : Kind.newEdges .star = 4 := rfl
      rw [Expr.build, edgeCount_closure (build_block a inner).2.stop_lt, ih,
        Expr.sum_postorder_star, hnew]
      omega

end Arena

/-! ### The walk -/

namespace Nfa.Structured

variable {nfa : Nfa}

/-- The walk looks at every state once. -/
theorem visits_perm (h : nfa.Structured) :
    (nfa.arena.visits [] [nfa.start]).Perm (List.range nfa.arena.size) := by
  rw [List.perm_ext_iff_of_nodup (Arena.visits_nodup _ _ _).1 List.nodup_range]
  intro id
  rw [Arena.mem_visits_iff]
  constructor
  · rintro ⟨w, hpath⟩
    refine hpath.mem_of_closed (fun e he _ => ?_) (List.mem_range.mpr h.start_lt)
    exact List.mem_range.mpr (h.target_lt e he)
  · exact fun hid => (h.reaches id (List.mem_range.mp hid)).1

/-- The walk reports all transitions that there are. -/
theorem edges_perm (h : nfa.Structured) : nfa.edges.toList.Perm nfa.arena.allEdges := by
  rw [Nfa.edges, Nfa.edgesFrom, Arena.toList_walk]
  exact h.visits_perm.flatMap_right _

/-- No state has the same transition twice. -/
theorem nodup_edgesOf (h : nfa.Structured) (id : StateId) : (nfa.arena.edgesOf id).Nodup := by
  rw [Arena.edgesOf]
  cases hs : nfa.arena.get? id with
  | none => exact List.nodup_nil
  | some s =>
      by_cases hid : id = nfa.accept
      · have hterminal := (h.isTerminal_iff id s hs).mpr hid
        rw [State.isTerminal, Bool.and_eq_true, List.isEmpty_iff, List.isEmpty_iff] at hterminal
        simp [State.edges, hterminal.1, hterminal.2]
      · rcases h.shaped id s hs hid with ⟨c, t, -, htransitions, hepsilon⟩ | ⟨hnone, -, hnodup⟩
        · simp [State.edges, htransitions, hepsilon]
        · show (s.edges id).Nodup
          rw [State.edges, hnone, List.flatMap_nil, List.nil_append]
          exact hnodup.map fun t u heq => congrArg Edge.target heq

/-- No two edges of a compiled automaton are the same. -/
theorem nodup_allEdges (h : nfa.Structured) : nfa.arena.allEdges.Nodup := by
  rw [Arena.allEdges, List.nodup_flatMap]
  refine ⟨fun id _ => h.nodup_edgesOf id, List.nodup_range.imp ?_⟩
  -- Transitions of two states have two sources.
  intro p q hpq e hp hq
  exact hpq ((Arena.source_of_mem_edgesOf hp).symm.trans (Arena.source_of_mem_edgesOf hq))

/-- A walk through a compiled automaton shows no edge twice. -/
theorem nodup_edges (h : nfa.Structured) : nfa.edges.toList.Nodup :=
  h.edges_perm.nodup_iff.mpr h.nodup_allEdges

end Nfa.Structured

/-! ### Compiled automata -/

/-- The numbers of states and transitions of what compiles are told by the symbols, bars and stars
of the pattern, whatever its parentheses and concatenations. The walk from the start reports all
transitions of the automaton, and none of them twice. -/
theorem compile_size {flags : Flags} {pattern : String} {nfa : Nfa}
    (h : Nfa.compile flags pattern = .ok nfa) :
    let symbols := pattern.toList.countP Text.isAlphanumeric
    let bars := pattern.toList.count '|'
    let stars := pattern.toList.count '*'
    0 < symbols ∧ nfa.arena.size = 2 * (symbols + bars + stars) ∧
      nfa.edges.toList.length = 2 * symbols - 1 + 3 * bars + 4 * stars ∧
      nfa.edges.toList.Nodup ∧ nfa.edges.toList.Perm nfa.arena.allEdges := by
  obtain ⟨out, e, hparse, hout, rfl⟩ := Nfa.exists_postorder_of_compile h
  have hstructured : (e.automaton pattern).Structured := .of_compile h
  have hperm := hstructured.edges_perm
  have hsymbols : e.postorder.countP Kind.isSymbol = pattern.toList.countP Text.isAlphanumeric :=
    hout ▸ countP_of_parse hparse (fun _ => Kind.isSymbol_of_isParen) rfl
      fun _ => Token.isSymbol_eq
  have hbars : e.postorder.countP (· == .union) = pattern.toList.count '|' :=
    hout ▸ countP_of_parse hparse (fun _ => Kind.beq_of_isParen rfl) rfl
      fun _ ht => Token.kind_beq ht rfl
  have hstars : e.postorder.countP (· == .star) = pattern.toList.count '*' :=
    hout ▸ countP_of_parse hparse (fun _ => Kind.beq_of_isParen rfl) rfl
      fun _ ht => Token.kind_beq ht rfl
  -- The operators with two operands are one less than the symbols.
  have hbinaries : 0 + e.postorder.countP Kind.isSymbol =
      1 + e.postorder.countP Kind.isBinary := Expr.length_of_read e.read_postorder_self
  have hsize := Arena.size_build {} e
  have hedges := Arena.edgeCount_build {} e
  rw [Kind.sum_newStates, hsymbols, hbars, hstars] at hsize
  rw [Kind.sum_newEdges, hsymbols, hbars, hstars] at hedges
  rw [hsymbols] at hbinaries
  refine ⟨by omega, hsize.trans (Nat.zero_add _), ?_, ?_, hperm⟩
  · rw [hperm.length_eq, Arena.length_allEdges]
    show (e.build {}).arena.edgeCount = _
    have hnone : ({} : Arena).edgeCount = 0 := rfl
    omega
  · exact hstructured.nodup_edges

/-- Two symbols and a star: six states, and seven edges. -/
theorem compile_size_of_star :
    ∃ nfa, Nfa.compile {} "ab*" = .ok nfa ∧ nfa.arena.size = 6 ∧
      nfa.edges.toList.length = 7 ∧ nfa.edges.toList.Nodup ∧
      nfa.edges.toList.Perm nfa.arena.allEdges := by
  let states : List State :=
    [{ transitions := [('a', [1])] }, { epsilon := [4] }, { transitions := [('b', [3])] },
      { epsilon := [2, 5] }, { epsilon := [2, 5] }, {}]
  have hcompile : Nfa.compile {} "ab*" =
      .ok { pattern := "ab*", arena := { states }, start := 0, accept := 5 } := by decide
  obtain ⟨-, hsize, hlength, hnodup, hperm⟩ := compile_size hcompile
  exact ⟨_, hcompile, hsize.trans (by decide), hlength.trans (by decide), hnodup, hperm⟩

end PatternNfa
