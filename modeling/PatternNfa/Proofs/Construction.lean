import PatternNfa.Proofs.Path

/-!
# `PatternNfa.Proofs.Construction`: the states that a construction leaves

What each construction does to a single state follows from two facts. Growing appends states
without transitions, and linking appends targets to the epsilon transitions of each source, in the
order of the links (`get?_link`). The edges follow (`hasEdge_link`): those that were there, and one
for each link. A literal is the only construction that adds an edge with a symbol.

Each construction has a lemma for its edges (`hasEdge_union` and the like), one for the states that
it leaves as they were (`get?_union_of_ne`), and some for the states that it makes or links.
-/

set_option autoImplicit false

namespace PatternNfa

namespace Arena

/-- There is no state behind the last one. -/
theorem get?_eq_none {a : Arena} {id : StateId} (h : a.size ≤ id) : a.get? id = none :=
  List.getElem?_eq_none h

/-- Growing leaves the states that are there as they are. -/
theorem get?_grow_of_lt {a : Arena} {id : StateId} (h : id < a.size) (n : Nat) :
    (a.grow n).get? id = a.get? id :=
  List.getElem?_append_left h

/-- The states that an arena grows by have no transitions. -/
theorem get?_grow_of_le {a : Arena} {id n : Nat} (h : a.size ≤ id)
    (hn : id < a.size + n) : (a.grow n).get? id = some {} := by
  have hlt : id - a.size < n := by omega
  show (a.states ++ List.replicate n ({} : State))[id]? = _
  rw [List.getElem?_append_right h]
  exact List.getElem?_replicate_of_lt hlt

/-- A new transition changes the state that it leaves from and no other. -/
theorem get?_addTransition (a : Arena) (source : StateId) (c : Char) (target id : StateId) :
    (a.addTransition source c target).get? id =
      if source = id then (a.get? id).map (·.addTransition c target) else a.get? id := by
  show (a.states.modify source _)[id]? = _
  split
  · rename_i h
    rw [h, List.getElem?_modify_eq]
    rfl
  · rename_i h
    exact List.getElem?_modify_ne _ _ h

/-- A new empty transition changes the state that it leaves from and no other. -/
theorem get?_addEpsilon (a : Arena) (source target id : StateId) :
    (a.addEpsilon source target).get? id =
      if source = id then (a.get? id).map (·.addEpsilon target) else a.get? id := by
  show (a.states.modify source _)[id]? = _
  split
  · rename_i h
    rw [h, List.getElem?_modify_eq]
    rfl
  · rename_i h
    exact List.getElem?_modify_ne _ _ h

/-! ### Links -/

/-- The targets that links add to a state, in their order. -/
def linkTargets (links : List (StateId × StateId)) (id : StateId) : List StateId :=
  (links.filter fun link => link.1 = id).map Prod.snd

/-- Linking appends to each state the targets of its own links. -/
theorem get?_link {links : List (StateId × StateId)} {a : Arena}
    (h : ∀ link ∈ links, link.1 < a.size) (id : StateId) :
    (a.link links).1.get? id =
      (a.get? id).map fun s => { s with epsilon := s.epsilon ++ linkTargets links id } := by
  -- The first link changes the arena for the others, but not its size.
  induction links generalizing a with
  | nil =>
      rw [link]
      cases hs : a.get? id <;> simp [linkTargets]
  | cons link rest ih =>
      rw [List.forall_mem_cons] at h
      rw [Arena.link, if_pos h.1, ih (by rw [size_addEpsilon]; exact h.2), get?_addEpsilon]
      by_cases hid : link.1 = id
      · rw [if_pos hid]
        cases hs : a.get? id <;> simp [State.addEpsilon, linkTargets, hid]
      · rw [if_neg hid]
        cases hs : a.get? id <;> simp [linkTargets, hid]

/-- The targets that a state is given are those of the links that leave from it. -/
theorem mem_linkTargets {links : List (StateId × StateId)} {p q : StateId} :
    q ∈ linkTargets links p ↔ (p, q) ∈ links := by
  simp [linkTargets]

/-- A state that no link leaves from stays as it is. -/
theorem get?_link_of_ne {links : List (StateId × StateId)} {a : Arena} {id : StateId}
    (h : ∀ link ∈ links, link.1 < a.size) (hid : ∀ link ∈ links, link.1 ≠ id) :
    (a.link links).1.get? id = a.get? id := by
  have hnil : linkTargets links id = [] := by
    rw [linkTargets, List.filter_eq_nil_iff.mpr (by simpa using hid), List.map_nil]
  rw [get?_link h, hnil]
  cases a.get? id <;> simp

/-- The edges that links add. -/
def linkEdges (links : List (StateId × StateId)) : List Edge :=
  links.map fun link => ⟨link.1, .epsilon, link.2⟩

/-- Linking adds an edge for each link and keeps the others. -/
theorem hasEdge_link {links : List (StateId × StateId)} {a : Arena}
    (h : ∀ link ∈ links, link.1 < a.size) {e : Edge} :
    (a.link links).1.HasEdge e ↔ a.HasEdge e ∨ e ∈ linkEdges links := by
  rcases e with ⟨p, l, q⟩
  rw [hasEdge_iff, hasEdge_iff, get?_link h]
  cases hs : a.get? p with
  | none =>
      have hnew : (⟨p, l, q⟩ : Edge) ∉ linkEdges links := by
        intro hmem
        obtain ⟨link, hlink, heq⟩ := List.mem_map.mp hmem
        cases heq
        rw [Arena.get?, List.getElem?_eq_none_iff] at hs
        exact absurd (h _ hlink) (Nat.not_lt_of_le hs)
      simp [hnew]
  | some s =>
      cases l with
      | symbol c => simp [mem_edges, State.targets, linkEdges]
      | epsilon => simp [mem_edges, mem_linkTargets, linkEdges]

/-! ### Constructions -/

/-- A literal has two states of its own. -/
@[simp]
theorem size_literal (a : Arena) (c : Char) : (a.literal c).arena.size = a.size + 2 := by
  show ((a.grow 2).addTransition a.size c (a.size + 1)).size = _
  rw [size_addTransition, size_grow]

/-- A concatenation has no states of its own. -/
@[simp]
theorem size_concatenate (a : Arena) (left right : Fragment) :
    (a.concatenate left right).arena.size = a.size :=
  size_link _ a

/-- A union has two states of its own. -/
@[simp]
theorem size_union (a : Arena) (left right : Fragment) :
    (a.union left right).arena.size = a.size + 2 := by
  show ((a.grow 2).link _).1.size = _
  rw [size_link, size_grow]

/-- A closure has two states of its own. -/
@[simp]
theorem size_closure (a : Arena) (inner : Fragment) :
    (a.closure inner).arena.size = a.size + 2 := by
  show ((a.grow 2).link _).1.size = _
  rw [size_link, size_grow]

/-- The links of a union leave from states that exist once its fresh ones do. -/
theorem union_sources_lt {a : Arena} {left right : Fragment} (hl : left.stop < a.size)
    (hr : right.stop < a.size) :
    ∀ link ∈ [(a.size, left.start), (a.size, right.start), (left.stop, a.size + 1),
      (right.stop, a.size + 1)], link.1 < (a.grow 2).size := by
  rw [size_grow]
  simp [Nat.lt_add_right 2 hl, Nat.lt_add_right 2 hr]

/-- The links of a closure leave from states that exist once its fresh ones do. -/
theorem closure_sources_lt {a : Arena} {inner : Fragment} (h : inner.stop < a.size) :
    ∀ link ∈ [(a.size, inner.start), (a.size, a.size + 1), (inner.stop, inner.start),
      (inner.stop, a.size + 1)], link.1 < (a.grow 2).size := by
  rw [size_grow]
  simp [Nat.lt_add_right 2 h]

/-- Growing adds no edges. -/
theorem hasEdge_grow {a : Arena} {n : Nat} {e : Edge} : (a.grow n).HasEdge e ↔ a.HasEdge e := by
  rcases e with ⟨p, l, q⟩
  rw [hasEdge_iff, hasEdge_iff]
  rcases Nat.lt_or_ge p a.size with hp | hp
  · rw [get?_grow_of_lt hp]
  · rw [get?_eq_none hp]
    constructor
    · rintro ⟨s, hs, hmem⟩
      have hlt : p < a.size + n := by
        rw [← size_grow]
        exact List.getElem?_eq_some_iff.mp hs |>.1
      rw [get?_grow_of_le hp hlt, Option.some.injEq] at hs
      subst hs
      simp [State.edges] at hmem
    · rintro ⟨s, hs, -⟩
      cases hs

/-- The first fresh state of a literal reads its symbol and leads to the second one. -/
theorem get?_literal_start (a : Arena) (c : Char) :
    (a.literal c).arena.get? a.size = some { transitions := [(c, [a.size + 1])] } := by
  show ((a.grow 2).addTransition a.size c (a.size + 1)).get? a.size = _
  rw [get?_addTransition, if_pos rfl,
    get?_grow_of_le (Nat.le_refl _) (Nat.lt_add_of_pos_right Nat.two_pos)]
  rfl

/-- The second fresh state of a literal has no transitions. -/
theorem get?_literal_stop (a : Arena) (c : Char) :
    (a.literal c).arena.get? (a.size + 1) = some {} := by
  show ((a.grow 2).addTransition a.size c (a.size + 1)).get? (a.size + 1) = _
  rw [get?_addTransition, if_neg (Nat.ne_of_lt (Nat.lt_succ_self _)),
    get?_grow_of_le (Nat.le_succ _) (Nat.lt_succ_self _)]

/-- A literal leaves the states before it as they are. -/
theorem get?_literal_of_lt {a : Arena} {id : StateId} (h : id < a.size) (c : Char) :
    (a.literal c).arena.get? id = a.get? id := by
  show ((a.grow 2).addTransition a.size c (a.size + 1)).get? id = _
  rw [get?_addTransition, if_neg (Nat.ne_of_gt h), get?_grow_of_lt h]

/-- A literal adds the edge that reads its symbol. -/
theorem hasEdge_literal {a : Arena} {c : Char} {e : Edge} :
    (a.literal c).arena.HasEdge e ↔ a.HasEdge e ∨ e = ⟨a.size, .symbol c, a.size + 1⟩ := by
  rcases e with ⟨p, l, q⟩
  rw [hasEdge_iff, hasEdge_iff]
  -- An id is old, one of the two fresh ones, or has no state.
  by_cases hlt : p < a.size
  · rw [get?_literal_of_lt hlt]
    have hne : p ≠ a.size := Nat.ne_of_lt hlt
    simp [hne]
  · rw [get?_eq_none (Nat.le_of_not_lt hlt)]
    by_cases hstart : p = a.size
    · subst hstart
      rw [get?_literal_start]
      cases l <;> simp [mem_edges, State.targets, eq_comm, and_comm]
    · have hnone : ∀ s, (a.literal c).arena.get? p = some s → (⟨p, l, q⟩ : Edge) ∉ s.edges p := by
        intro s hs
        by_cases hstop : p = a.size + 1
        · subst hstop
          rw [get?_literal_stop, Option.some.injEq] at hs
          subst hs
          simp [State.edges]
        · rw [get?_eq_none] at hs
          · cases hs
          · have hlt : a.size < p := Nat.lt_of_le_of_ne (Nat.le_of_not_lt hlt) (Ne.symm hstart)
            rw [size_literal]
            exact Nat.lt_of_le_of_ne hlt (Ne.symm hstop)
      have hold : ¬ ∃ s : State, none = some s ∧ (⟨p, l, q⟩ : Edge) ∈ s.edges p := by
        rintro ⟨s, hs, -⟩
        cases hs
      have hfresh : (⟨p, l, q⟩ : Edge) ≠ ⟨a.size, .symbol c, a.size + 1⟩ := fun heq =>
        hstart (congrArg Edge.source heq)
      refine iff_of_false ?_ (not_or.mpr ⟨hold, hfresh⟩)
      rintro ⟨s, hs, hmem⟩
      exact hnone s hs hmem

/-- A concatenation changes no state but the stop of its left operand. -/
theorem get?_concatenate_of_ne {a : Arena} {left right : Fragment} {id : StateId}
    (h : left.stop < a.size) (hid : id ≠ left.stop) :
    (a.concatenate left right).arena.get? id = a.get? id :=
  get?_link_of_ne (by simpa using h) (by simpa using hid.symm)

/-- A union changes no state but the stops of its operands. -/
theorem get?_union_of_ne {a : Arena} {left right : Fragment} {id : StateId}
    (hl : left.stop < a.size) (hr : right.stop < a.size) (hid : id < a.size)
    (hleft : id ≠ left.stop) (hright : id ≠ right.stop) :
    (a.union left right).arena.get? id = a.get? id := by
  show ((a.grow 2).link [(a.size, left.start), (a.size, right.start), (left.stop, a.size + 1),
    (right.stop, a.size + 1)]).1.get? id = _
  have hne : a.size ≠ id ∧ left.stop ≠ id ∧ right.stop ≠ id :=
    ⟨Nat.ne_of_gt hid, hleft.symm, hright.symm⟩
  rw [get?_link_of_ne (union_sources_lt hl hr) (by simpa using hne), get?_grow_of_lt hid]

/-- A closure changes no state but the stop of what it repeats. -/
theorem get?_closure_of_ne {a : Arena} {inner : Fragment} {id : StateId}
    (h : inner.stop < a.size) (hid : id < a.size) (hinner : id ≠ inner.stop) :
    (a.closure inner).arena.get? id = a.get? id := by
  show ((a.grow 2).link [(a.size, inner.start), (a.size, a.size + 1), (inner.stop, inner.start),
    (inner.stop, a.size + 1)]).1.get? id = _
  have hne : a.size ≠ id ∧ inner.stop ≠ id := ⟨Nat.ne_of_gt hid, hinner.symm⟩
  rw [get?_link_of_ne (closure_sources_lt h) (by simpa using hne), get?_grow_of_lt hid]

/-- A concatenation adds an edge from the stop of one operand to the start of the other. -/
theorem hasEdge_concatenate {a : Arena} {left right : Fragment} (h : left.stop < a.size)
    {e : Edge} :
    (a.concatenate left right).arena.HasEdge e ↔
      a.HasEdge e ∨ e = ⟨left.stop, .epsilon, right.start⟩ := by
  show (a.link [(left.stop, right.start)]).1.HasEdge e ↔ _
  rw [hasEdge_link (by simpa using h), linkEdges, List.map_singleton, List.mem_singleton]

/-- A union adds edges from its start into both operands, and from both of them to its stop. -/
theorem hasEdge_union {a : Arena} {left right : Fragment} (hl : left.stop < a.size)
    (hr : right.stop < a.size) {e : Edge} :
    (a.union left right).arena.HasEdge e ↔
      a.HasEdge e ∨ e = ⟨a.size, .epsilon, left.start⟩ ∨ e = ⟨a.size, .epsilon, right.start⟩ ∨
        e = ⟨left.stop, .epsilon, a.size + 1⟩ ∨ e = ⟨right.stop, .epsilon, a.size + 1⟩ := by
  show ((a.grow 2).link [(a.size, left.start), (a.size, right.start), (left.stop, a.size + 1),
    (right.stop, a.size + 1)]).1.HasEdge e ↔ _
  rw [hasEdge_link (union_sources_lt hl hr), hasEdge_grow]
  simp [linkEdges]

/-- A closure adds the edges into what it repeats and past it, and from its end back and out. -/
theorem hasEdge_closure {a : Arena} {inner : Fragment} (h : inner.stop < a.size) {e : Edge} :
    (a.closure inner).arena.HasEdge e ↔
      a.HasEdge e ∨ e = ⟨a.size, .epsilon, inner.start⟩ ∨ e = ⟨a.size, .epsilon, a.size + 1⟩ ∨
        e = ⟨inner.stop, .epsilon, inner.start⟩ ∨ e = ⟨inner.stop, .epsilon, a.size + 1⟩ := by
  show ((a.grow 2).link [(a.size, inner.start), (a.size, a.size + 1), (inner.stop, inner.start),
    (inner.stop, a.size + 1)]).1.HasEdge e ↔ _
  rw [hasEdge_link (closure_sources_lt h), hasEdge_grow]
  simp [linkEdges]

/-- An id with a state is one of the arena. -/
theorem lt_size_of_get? {a : Arena} {id : StateId} {s : State} (h : a.get? id = some s) :
    id < a.size :=
  (List.getElem?_eq_some_iff.mp h).1

/-! ### States that a construction links -/

/-- The stop that a concatenation links leads on and nowhere else, if it led nowhere before. -/
theorem get?_concatenate_stop {a : Arena} {left right : Fragment}
    (h : a.get? left.stop = some {}) :
    (a.concatenate left right).arena.get? left.stop = some { epsilon := [right.start] } := by
  show (a.link [(left.stop, right.start)]).1.get? left.stop = _
  rw [get?_link (by simpa using lt_size_of_get? h), h]
  simp [linkTargets]

section Union

variable {a : Arena} {left right : Fragment}

/-- What a union links, in the arena that has its two fresh states already. -/
theorem get?_union (hl : left.stop < a.size) (hr : right.stop < a.size) (id : StateId) :
    (a.union left right).arena.get? id = ((a.grow 2).get? id).map fun s =>
      { s with epsilon := s.epsilon ++ linkTargets [(a.size, left.start), (a.size, right.start),
        (left.stop, a.size + 1), (right.stop, a.size + 1)] id } :=
  get?_link (union_sources_lt hl hr) id

/-- The start of a union leads to the starts of its operands, the left one first. -/
theorem get?_union_start (hl : left.stop < a.size) (hr : right.stop < a.size) :
    (a.union left right).arena.get? a.size = some { epsilon := [left.start, right.start] } := by
  have hne : left.stop ≠ a.size ∧ right.stop ≠ a.size := ⟨Nat.ne_of_lt hl, Nat.ne_of_lt hr⟩
  rw [get?_union hl hr, get?_grow_of_le (Nat.le_refl _) (Nat.lt_add_of_pos_right Nat.two_pos)]
  simp [linkTargets, hne]

/-- The stop of a union has no transitions. -/
theorem get?_union_stop (hl : left.stop < a.size) (hr : right.stop < a.size) :
    (a.union left right).arena.get? (a.size + 1) = some {} := by
  have hne : left.stop ≠ a.size + 1 ∧ right.stop ≠ a.size + 1 :=
    ⟨Nat.ne_of_lt (Nat.lt_succ_of_lt hl), Nat.ne_of_lt (Nat.lt_succ_of_lt hr)⟩
  rw [get?_union hl hr, get?_grow_of_le (Nat.le_succ _) (Nat.lt_succ_self _)]
  simp [linkTargets, hne]

/-- The stop of the left operand leads to the stop of the union, if it led nowhere before. -/
theorem get?_union_left (hl : a.get? left.stop = some {}) (hr : right.stop < a.size)
    (hne : left.stop ≠ right.stop) :
    (a.union left right).arena.get? left.stop = some { epsilon := [a.size + 1] } := by
  have hlt := lt_size_of_get? hl
  have hstart : a.size ≠ left.stop := Nat.ne_of_gt hlt
  rw [get?_union hlt hr, get?_grow_of_lt hlt, hl]
  simp [linkTargets, hstart, hne.symm]

/-- The stop of the right operand leads to the stop of the union, if it led nowhere before. -/
theorem get?_union_right (hl : left.stop < a.size) (hr : a.get? right.stop = some {})
    (hne : left.stop ≠ right.stop) :
    (a.union left right).arena.get? right.stop = some { epsilon := [a.size + 1] } := by
  have hlt := lt_size_of_get? hr
  have hstart : a.size ≠ right.stop := Nat.ne_of_gt hlt
  rw [get?_union hl hlt, get?_grow_of_lt hlt, hr]
  simp [linkTargets, hstart, hne]

end Union

section Closure

variable {a : Arena} {inner : Fragment}

/-- What a closure links, in the arena that has its two fresh states already. -/
theorem get?_closure (h : inner.stop < a.size) (id : StateId) :
    (a.closure inner).arena.get? id = ((a.grow 2).get? id).map fun s =>
      { s with epsilon := s.epsilon ++ linkTargets [(a.size, inner.start), (a.size, a.size + 1),
        (inner.stop, inner.start), (inner.stop, a.size + 1)] id } :=
  get?_link (closure_sources_lt h) id

/-- The start of a closure leads into what it repeats, and else past it. -/
theorem get?_closure_start (h : inner.stop < a.size) :
    (a.closure inner).arena.get? a.size = some { epsilon := [inner.start, a.size + 1] } := by
  have hne : inner.stop ≠ a.size := Nat.ne_of_lt h
  rw [get?_closure h, get?_grow_of_le (Nat.le_refl _) (Nat.lt_add_of_pos_right Nat.two_pos)]
  simp [linkTargets, hne]

/-- The stop of a closure has no transitions. -/
theorem get?_closure_stop (h : inner.stop < a.size) :
    (a.closure inner).arena.get? (a.size + 1) = some {} := by
  have hne : inner.stop ≠ a.size + 1 := Nat.ne_of_lt (Nat.lt_succ_of_lt h)
  rw [get?_closure h, get?_grow_of_le (Nat.le_succ _) (Nat.lt_succ_self _)]
  simp [linkTargets, hne]

/-- The stop of what a closure repeats leads back, and else out, if it led nowhere before. -/
theorem get?_closure_inner (h : a.get? inner.stop = some {}) :
    (a.closure inner).arena.get? inner.stop = some { epsilon := [inner.start, a.size + 1] } := by
  have hlt := lt_size_of_get? h
  have hstart : a.size ≠ inner.stop := Nat.ne_of_gt hlt
  rw [get?_closure hlt, get?_grow_of_lt hlt, h]
  simp [linkTargets, hstart]

end Closure

end Arena

end PatternNfa
