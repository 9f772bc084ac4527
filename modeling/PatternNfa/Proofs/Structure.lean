import PatternNfa.Proofs.Compile

/-!
# `PatternNfa.Proofs.Structure`: what a compiled automaton looks like

Building keeps more than the edges of a fragment in its block. The stop is a state without
transitions until a construction links it, so that every state is linked once, by one construction.
Each then has the few transitions that this construction gives it (`Shaped`). And no state is left
aside: from the start of a fragment every state of its block is reached, and from every state of
the block its stop (`Spans`).

The block of a compiled automaton is its whole arena. `compile_structured` puts the three
invariants together: the one state without transitions is the accepting one, no edge enters the
start, and every state lies on a way from the one to the other.
-/

set_option autoImplicit false

namespace PatternNfa

namespace State

/-- The state reads one alphanumeric symbol, has one target for it, and has no other transition. -/
def ReadsSymbol (s : State) : Prop :=
  ∃ c t, Text.isAlphanumeric c = true ∧ s.transitions = [(c, [t])] ∧ s.epsilon = []

/-- The state reads nothing and has one target or two different ones. -/
def Branches (s : State) : Prop :=
  s.transitions = [] ∧ (s.epsilon.length = 1 ∨ s.epsilon.length = 2) ∧ s.epsilon.Nodup

/-- A state with one empty transition has one target. -/
theorem branches_one (t : StateId) : Branches { epsilon := [t] } :=
  ⟨rfl, .inl rfl, List.nodup_singleton t⟩

/-- A state with two empty transitions to different states has two targets. -/
theorem branches_two {t u : StateId} (h : t ≠ u) : Branches { epsilon := [t, u] } :=
  ⟨rfl, .inr rfl, by simpa using h⟩

end State

namespace Arena

/-! ### Shapes -/

/-- The stop of the block has no transitions, and the other states have those that a construction
gives once. -/
structure Shaped (a : Arena) (lo hi : Nat) (f : Fragment) : Prop where
  stop_eq : a.get? f.stop = some {}
  other : ∀ id, Inside lo hi id → id ≠ f.stop →
    ∃ s, a.get? id = some s ∧ (s.ReadsSymbol ∨ s.Branches)

namespace Shaped

variable {a b : Arena} {lo mid hi : Nat} {f left right : Fragment}

/-- States behind a block do not change the shapes in it. -/
theorem of_extends (hblock : a.Block lo hi f) (hab : a.Extends b) (h : a.Shaped lo hi f) :
    b.Shaped lo hi f where
  stop_eq := by rw [hab.get?_eq _ hblock.stop_lt, h.stop_eq]
  other id hid hne := by
    rw [hab.get?_eq id (Nat.lt_of_lt_of_le hid.2 hblock.hi_le)]
    exact h.other id hid hne

/-- The start of a literal reads its symbol. -/
theorem literal (a : Arena) {c : Char} (hc : Text.isAlphanumeric c = true) :
    (a.literal c).arena.Shaped a.size (a.size + 2) (a.literal c).fragment where
  stop_eq := get?_literal_stop a c
  other id hid hne := by
    have hstart : id = a.size := by
      have hne : id ≠ a.size + 1 := hne
      unfold Inside at hid
      omega
    rw [hstart]
    exact ⟨_, get?_literal_start a c, .inl ⟨c, a.size + 1, hc, rfl, rfl⟩⟩

/-- The stop of the left part gets its one target, and all other states stay as they were. -/
theorem concatenate (hbl : a.Block lo mid left) (hbr : a.Block mid hi right)
    (hl : a.Shaped lo mid left) (hr : a.Shaped mid hi right) :
    (a.concatenate left right).arena.Shaped lo hi (a.concatenate left right).fragment where
  stop_eq := by
    rw [← hr.stop_eq]
    exact get?_concatenate_of_ne hbl.stop_lt (hbl.stop_inside.ne hbr.stop_inside).symm
  other id hid hne := by
    by_cases hid' : id = left.stop
    · rw [hid']
      exact ⟨_, get?_concatenate_stop hl.stop_eq, .inr (State.branches_one _)⟩
    · rw [get?_concatenate_of_ne hbl.stop_lt hid']
      cases hid.split mid with
      | inl hin => exact hl.other id hin hid'
      | inr hin => exact hr.other id hin hne

/-- The fresh start gets two targets, which differ since the parts have no state in common, and the
stops of both parts get one. -/
theorem union (hbl : a.Block lo mid left) (hbr : a.Block mid a.size right)
    (hl : a.Shaped lo mid left) (hr : a.Shaped mid a.size right) :
    (a.union left right).arena.Shaped lo (a.size + 2) (a.union left right).fragment where
  stop_eq := get?_union_stop hbl.stop_lt hbr.stop_lt
  other id hid hne := by
    have hstops := hbl.stop_inside.ne hbr.stop_inside
    -- A fresh start, a stop that gets its link now, or a state that stays as it was.
    by_cases hstart : id = a.size
    · rw [hstart]
      exact ⟨_, get?_union_start hbl.stop_lt hbr.stop_lt,
        .inr (State.branches_two (hbl.start_inside.ne hbr.start_inside))⟩
    · by_cases hleft : id = left.stop
      · rw [hleft]
        exact ⟨_, get?_union_left hl.stop_eq hbr.stop_lt hstops, .inr (State.branches_one _)⟩
      · by_cases hright : id = right.stop
        · rw [hright]
          exact ⟨_, get?_union_right hbl.stop_lt hr.stop_eq hstops, .inr (State.branches_one _)⟩
        · have hold : Inside lo a.size id := hid.of_ne hstart hne
          rw [get?_union_of_ne hbl.stop_lt hbr.stop_lt hold.2 hleft hright]
          cases hold.split mid with
          | inl hin => exact hl.other id hin hleft
          | inr hin => exact hr.other id hin hright

/-- The fresh start and the stop of the part get the same two targets, of which only one is
fresh. -/
theorem closure (hblock : a.Block lo a.size f) (h : a.Shaped lo a.size f) :
    (a.closure f).arena.Shaped lo (a.size + 2) (a.closure f).fragment where
  stop_eq := get?_closure_stop hblock.stop_lt
  other id hid hne := by
    have htargets : f.start ≠ a.size + 1 := hblock.start_inside.old.2.2
    by_cases hstart : id = a.size
    · rw [hstart]
      exact ⟨_, get?_closure_start hblock.stop_lt, .inr (State.branches_two htargets)⟩
    · by_cases hinner : id = f.stop
      · rw [hinner]
        exact ⟨_, get?_closure_inner h.stop_eq, .inr (State.branches_two htargets)⟩
      · have hold : Inside lo a.size id := hid.of_ne hstart hne
        rw [get?_closure_of_ne hblock.stop_lt hold.2 hinner]
        exact h.other id hold hinner

end Shaped

/-- The states that building an expression makes are shaped, if its symbols are alphanumeric. -/
theorem build_shaped (a : Arena) (e : Expr)
    (hsymbols : ∀ c, Kind.symbol c ∈ e.postorder → Text.isAlphanumeric c = true) :
    (e.build a).arena.Shaped a.size (e.build a).arena.size (e.build a).fragment := by
  refine build_induction (P := fun e a lo hi f =>
    (∀ c, Kind.symbol c ∈ e.postorder → Text.isAlphanumeric c = true) → a.Shaped lo hi f)
    ?_ ?_ ?_ ?_ ?_ a e hsymbols
  · intro e a b lo hi f hblock hab h hsymbols
    exact .of_extends hblock hab (h hsymbols)
  · intro a c hsymbols
    exact .literal a (hsymbols c (by simp [Expr.postorder]))
  · intro l r a lo mid left right hbl hbr hl hr hsymbols
    refine .concatenate hbl hbr (hl fun c hc => ?_) (hr fun c hc => ?_)
    · exact hsymbols c (by simp [Expr.postorder, hc])
    · exact hsymbols c (by simp [Expr.postorder, hc])
  · intro l r a lo mid left right hbl hbr hl hr hsymbols
    refine .union hbl hbr (hl fun c hc => ?_) (hr fun c hc => ?_)
    · exact hsymbols c (by simp [Expr.postorder, hc])
    · exact hsymbols c (by simp [Expr.postorder, hc])
  · intro e a lo inner hblock h hsymbols
    exact .closure hblock (h fun c hc => hsymbols c (by simp [Expr.postorder, hc]))

/-! ### Ways -/

/-- Every state of the block lies on a way from the start to the stop. -/
structure Spans (a : Arena) (lo hi : Nat) (f : Fragment) : Prop where
  from_start : ∀ id, Inside lo hi id → a.Reaches f.start id
  to_stop : ∀ id, Inside lo hi id → a.Reaches id f.stop

namespace Spans

variable {a b : Arena} {lo mid hi : Nat} {f left right : Fragment}

/-- Ways stay when edges are added. -/
theorem mono (h : a.Spans lo hi f) (hab : ∀ e, a.HasEdge e → b.HasEdge e) : b.Spans lo hi f where
  from_start id hid := (h.from_start id hid).mono hab
  to_stop id hid := (h.to_stop id hid).mono hab

/-- Ways stay when states are added behind them. -/
theorem of_extends (h : a.Spans lo hi f) (hab : a.Extends b) : b.Spans lo hi f :=
  h.mono fun _ he => (hab.hasEdge_iff he.source_lt).mpr he

/-- The way through a literal is its symbol. -/
theorem literal (a : Arena) (c : Char) :
    (a.literal c).arena.Spans a.size (a.size + 2) (a.literal c).fragment := by
  have hedge : (a.literal c).arena.HasEdge ⟨a.size, .symbol c, a.size + 1⟩ :=
    hasEdge_literal.mpr (.inr rfl)
  have hcases : ∀ id, Inside a.size (a.size + 2) id → id = a.size ∨ id = a.size + 1 := by
    intro id hid
    unfold Inside at hid
    omega
  constructor
  · intro id hid
    rcases hcases id hid with rfl | rfl
    · exact .refl _ _
    · exact hedge.reaches
  · intro id hid
    rcases hcases id hid with rfl | rfl
    · exact hedge.reaches
    · exact .refl _ _

/-- The parts are joined one after the other, so a way through the left one goes on through the
right one. -/
theorem concatenate (hbl : a.Block lo mid left) (hbr : a.Block mid hi right)
    (hl : a.Spans lo mid left) (hr : a.Spans mid hi right) :
    (a.concatenate left right).arena.Spans lo hi (a.concatenate left right).fragment := by
  have hmono : ∀ e, a.HasEdge e → (a.concatenate left right).arena.HasEdge e :=
    fun e he => (hasEdge_concatenate hbl.stop_lt).mpr (.inl he)
  have hl := hl.mono hmono
  have hr := hr.mono hmono
  have hlink : (a.concatenate left right).arena.Reaches left.stop right.start :=
    ((hasEdge_concatenate hbl.stop_lt).mpr (.inr rfl)).reaches
  have hright := hlink.trans (hr.to_stop _ hbr.start_inside)
  have hleft := (hl.to_stop _ hbl.start_inside).trans hlink
  constructor
  · intro id hid
    cases hid.split mid with
    | inl hin => exact hl.from_start id hin
    | inr hin => exact hleft.trans (hr.from_start id hin)
  · intro id hid
    cases hid.split mid with
    | inl hin => exact (hl.to_stop id hin).trans hright
    | inr hin => exact hr.to_stop id hin

/-- Two fresh ids around a part of the arena: whatever lies on a way through the part lies on a way
from one to the other. -/
theorem around {n : Nat} (hstop : a.Reaches n (n + 1))
    (hold : ∀ id, Inside lo n id → a.Reaches n id ∧ a.Reaches id (n + 1)) :
    a.Spans lo (n + 2) ⟨n, n + 1⟩ := by
  have hcases : ∀ id, Inside lo (n + 2) id → Inside lo n id ∨ id = n ∨ id = n + 1 := by
    intro id hid
    unfold Inside at hid ⊢
    omega
  constructor
  · intro id hid
    rcases hcases id hid with hid | rfl | rfl
    · exact (hold id hid).1
    · exact .refl _ _
    · exact hstop
  · intro id hid
    rcases hcases id hid with hid | rfl | rfl
    · exact (hold id hid).2
    · exact hstop
    · exact .refl _ _

/-- A way through either part is a way around the other. -/
theorem union (hbl : a.Block lo mid left) (hbr : a.Block mid a.size right)
    (hl : a.Spans lo mid left) (hr : a.Spans mid a.size right) :
    (a.union left right).arena.Spans lo (a.size + 2) (a.union left right).fragment := by
  have hedge := fun e => hasEdge_union hbl.stop_lt hbr.stop_lt (e := e)
  have hmono : ∀ e, a.HasEdge e → (a.union left right).arena.HasEdge e :=
    fun e he => (hedge e).mpr (.inl he)
  have hl := hl.mono hmono
  have hr := hr.mono hmono
  have henterl := ((hedge ⟨a.size, .epsilon, left.start⟩).mpr (.inr (.inl rfl))).reaches
  have henterr := ((hedge ⟨a.size, .epsilon, right.start⟩).mpr (.inr (.inr (.inl rfl)))).reaches
  have hleavel := ((hedge ⟨left.stop, .epsilon, a.size + 1⟩).mpr
    (.inr (.inr (.inr (.inl rfl))))).reaches
  have hleaver := ((hedge ⟨right.stop, .epsilon, a.size + 1⟩).mpr
    (.inr (.inr (.inr (.inr rfl))))).reaches
  refine around (henterl.trans ((hl.to_stop _ hbl.start_inside).trans hleavel)) ?_
  intro id hid
  cases hid.split mid with
  | inl hin => exact ⟨henterl.trans (hl.from_start id hin), (hl.to_stop id hin).trans hleavel⟩
  | inr hin => exact ⟨henterr.trans (hr.from_start id hin), (hr.to_stop id hin).trans hleaver⟩

/-- A way through the part need not turn back. -/
theorem closure (hblock : a.Block lo a.size f) (h : a.Spans lo a.size f) :
    (a.closure f).arena.Spans lo (a.size + 2) (a.closure f).fragment := by
  have hedge := fun e => hasEdge_closure hblock.stop_lt (e := e)
  have h := h.mono fun e he => (hedge e).mpr (.inl he)
  have henter := ((hedge ⟨a.size, .epsilon, f.start⟩).mpr (.inr (.inl rfl))).reaches
  have hskip := ((hedge ⟨a.size, .epsilon, a.size + 1⟩).mpr (.inr (.inr (.inl rfl)))).reaches
  have hleave := ((hedge ⟨f.stop, .epsilon, a.size + 1⟩).mpr
    (.inr (.inr (.inr (.inr rfl))))).reaches
  refine around hskip fun id hid => ?_
  exact ⟨henter.trans (h.from_start id hid), (h.to_stop id hid).trans hleave⟩

end Spans

/-- Every state that building an expression makes lies on a way from the start to the stop. -/
theorem build_spans (a : Arena) (e : Expr) :
    (e.build a).arena.Spans a.size (e.build a).arena.size (e.build a).fragment :=
  build_induction (P := fun _ a lo hi f => a.Spans lo hi f) (fun _ hab h => h.of_extends hab)
    Spans.literal Spans.concatenate Spans.union Spans.closure a e

end Arena

/-! ### Compiled automata -/

namespace Nfa

/-- What a compiled automaton looks like. -/
structure Structured (nfa : Nfa) : Prop where
  /-- Every transition leads to a state that exists. -/
  target_lt : ∀ e, nfa.arena.HasEdge e → e.target < nfa.arena.size
  start_ne_accept : nfa.start ≠ nfa.accept
  /-- No transition leads to the start. -/
  start_not_entered : ∀ e, nfa.arena.HasEdge e → e.target ≠ nfa.start
  accept_lt : nfa.accept < nfa.arena.size
  /-- The accepting state is the one state without transitions. -/
  isTerminal_iff : ∀ id s, nfa.arena.get? id = some s → (s.isTerminal = true ↔ id = nfa.accept)
  /-- Every state lies on a way from the start to the accepting state. -/
  reaches : ∀ id, id < nfa.arena.size →
    nfa.arena.Reaches nfa.start id ∧ nfa.arena.Reaches id nfa.accept
  /-- A state that does not accept reads one symbol to one target, or reads nothing and has one
  target or two different ones. -/
  shaped : ∀ id s, nfa.arena.get? id = some s → id ≠ nfa.accept → s.ReadsSymbol ∨ s.Branches

/-- Something leads on from the start, so it exists. -/
theorem Structured.start_lt {nfa : Nfa} (h : nfa.Structured) : nfa.start < nfa.arena.size := by
  obtain ⟨w, hpath⟩ := (h.reaches nfa.accept h.accept_lt).1
  -- A path that ends elsewhere begins with an edge.
  generalize hq : nfa.accept = q at hpath
  cases hpath with
  | refl => exact absurd hq.symm h.start_ne_accept
  | step he _ => exact he.source_lt

/-- A state has one transition that reads a symbol, or all its transitions read nothing. -/
theorem Structured.edgesOf_cases {nfa : Nfa} (h : nfa.Structured) (id : StateId) :
    (∃ c t, Text.isAlphanumeric c = true ∧ nfa.arena.edgesOf id = [⟨id, .symbol c, t⟩]) ∨
      ∀ e ∈ nfa.arena.edgesOf id, e.label = .epsilon := by
  rw [Arena.edgesOf]
  cases hs : nfa.arena.get? id with
  | none => exact .inr fun e he => absurd he List.not_mem_nil
  | some s =>
      by_cases hid : id = nfa.accept
      · have hterminal := (h.isTerminal_iff id s hs).mpr hid
        rw [State.isTerminal, Bool.and_eq_true, List.isEmpty_iff, List.isEmpty_iff] at hterminal
        exact .inr fun e he => by simp [State.edges, hterminal.1, hterminal.2] at he
      · rcases h.shaped id s hs hid with ⟨c, t, hc, htransitions, hepsilon⟩ | ⟨hnone, -, -⟩
        · exact .inl ⟨c, t, hc, by simp [State.edges, htransitions, hepsilon]⟩
        · refine .inr fun e he => ?_
          have he : e ∈ s.edges id := he
          rw [State.edges, hnone, List.flatMap_nil, List.nil_append] at he
          obtain ⟨t, -, rfl⟩ := List.mem_map.mp he
          rfl

/-- A state with a transition that reads a symbol has no other. -/
theorem Structured.edgesOf_eq {nfa : Nfa} (h : nfa.Structured) {id t : StateId} {c : Char}
    (he : nfa.arena.HasEdge ⟨id, .symbol c, t⟩) :
    Text.isAlphanumeric c = true ∧ nfa.arena.edgesOf id = [⟨id, .symbol c, t⟩] := by
  rw [Arena.HasEdge] at he
  rcases h.edgesOf_cases id with ⟨d, u, hd, hedges⟩ | hepsilon
  · rw [hedges, List.mem_singleton] at he
    cases he
    exact ⟨hd, hedges⟩
  · cases hepsilon _ he

end Nfa

/-- Both kinds of states have a transition. -/
theorem State.isTerminal_eq_false {s : State} (h : s.ReadsSymbol ∨ s.Branches) :
    s.isTerminal = false := by
  rcases h with ⟨c, t, -, htransitions, -⟩ | ⟨-, hlength, -⟩
  · rw [isTerminal, htransitions]
    rfl
  · rw [isTerminal, Bool.and_eq_false_iff]
    refine .inr ?_
    cases hepsilon : s.epsilon with
    | nil => simp [hepsilon] at hlength
    | cons t targets => rfl

/-- The automaton of an expression with alphanumeric symbols has a block, a shape and a span that
are all of it. -/
theorem Expr.automaton_structured {e : Expr} (pattern : String)
    (hsymbols : ∀ c, Kind.symbol c ∈ e.postorder → Text.isAlphanumeric c = true) :
    (e.automaton pattern).Structured := by
  -- The arena was empty before, so the block begins at the first state and every id is inside.
  obtain ⟨-, hblock⟩ := Arena.build_block {} e
  have hshaped := Arena.build_shaped {} e hsymbols
  have hspans := Arena.build_spans {} e
  have hinside : ∀ id, id < (e.build {}).arena.size →
      Inside ({} : Arena).size (e.build {}).arena.size id := fun id hid => ⟨Nat.zero_le id, hid⟩
  have hshape : ∀ id s, (e.build {}).arena.get? id = some s → id ≠ (e.build {}).fragment.stop →
      s.ReadsSymbol ∨ s.Branches := by
    intro id s hs hne
    obtain ⟨s', hs', h⟩ := hshaped.other id (hinside id (Arena.lt_size_of_get? hs)) hne
    cases hs.symm.trans hs'
    exact h
  exact
    { target_lt := fun e he => (hblock.closed e he (hinside _ he.source_lt)).2
      start_ne_accept := hblock.start_ne_stop
      start_not_entered := fun e he => hblock.not_entered e he (hinside _ he.source_lt)
      accept_lt := hblock.stop_lt
      isTerminal_iff := by
        intro id s hs
        constructor
        · intro hterminal
          by_contra hne
          rw [State.isTerminal_eq_false (hshape id s hs hne)] at hterminal
          exact Bool.false_ne_true hterminal
        · rintro rfl
          cases hs.symm.trans hshaped.stop_eq
          rfl
      reaches := fun id hid =>
        ⟨hspans.from_start id (hinside id hid), hspans.to_stop id (hinside id hid)⟩
      shaped := hshape }

/-- The symbols of what a pattern is parsed to are alphanumeric. -/
theorem Expr.isAlphanumeric_of_parse {flags : Flags} {pattern : String} {out : List Token}
    {e : Expr} (hparse : (parse flags pattern).result = .ok out)
    (hout : out.map Token.kind = e.postorder) :
    ∀ c, Kind.symbol c ∈ e.postorder → Text.isAlphanumeric c = true := by
  intro c hc
  rw [← hout] at hc
  obtain ⟨t, ht, hkind⟩ := List.mem_map.mp hc
  have hspelt := spelt_of_parse hparse t ht
  rw [Token.Spelt, hkind] at hspelt
  exact Kind.isAlphanumeric_of_ofChar? hspelt

/-- A compiled automaton is that of an expression, with the symbols of the pattern. -/
theorem Nfa.Structured.of_compile {flags : Flags} {pattern : String} {nfa : Nfa}
    (h : compile flags pattern = .ok nfa) : nfa.Structured := by
  obtain ⟨out, e, hparse, hout, rfl⟩ := exists_postorder_of_compile h
  exact e.automaton_structured pattern (Expr.isAlphanumeric_of_parse hparse hout)

/-- Whatever compiles, with any options, compiles to an automaton of this structure. -/
theorem compile_structured {flags : Flags} {pattern : String} {nfa : Nfa}
    (h : Nfa.compile flags pattern = .ok nfa) : nfa.Structured :=
  .of_compile h

/-- The states of a star and of its symbol, two each. -/
theorem compile_structured_of_star :
    ∃ nfa, Nfa.compile {} "a*" = .ok nfa ∧ nfa.arena.size = 4 ∧ nfa.Structured := by
  let states : List State :=
    [{ transitions := [('a', [1])] }, { epsilon := [0, 3] }, { epsilon := [0, 3] }, {}]
  have h : Nfa.compile {} "a*" =
      .ok { pattern := "a*", arena := { states }, start := 2, accept := 3 } := by decide
  exact ⟨_, h, rfl, compile_structured h⟩

end PatternNfa
