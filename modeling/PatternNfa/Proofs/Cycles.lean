import PatternNfa.Proofs.Counting
import PatternNfa.Proofs.Structure

/-!
# `PatternNfa.Proofs.Cycles`: only closures go round

A closure links the stop of its part back to the part's start. No other construction links an id to
one that it can be reached from, although the ids themselves tell nothing: a union starts at a
larger id than its parts do. So the automaton of a pattern without stars has no cycle, and with a
star there is one. `compile_cyclic_iff_star` says so, together with what it means for the inputs:
without stars they have no more characters than the pattern has symbols, and with a star they can be
as long as one likes.

For the cycles, `Block.not_onCycle` is the one step. A cycle through a block stays in the block,
since an edge that leaves it cannot be made good. So a cycle in the new arena is a cycle in the old
one, or goes through a fresh state. A fresh start is not entered, and a fresh stop is not left. The
lengths are told by the language of the tree, which has a nonempty word for every expression
(`Expr.exists_ne_nil_mem_language`), and a star repeats it.
-/

set_option autoImplicit false

namespace PatternNfa

open Computability

namespace Expr

/-! ### Stars -/

/-- A concatenation has a star exactly if one of its operands has. -/
theorem star_mem_postorder_concat {l r : Expr} :
    Kind.star ∈ (concat l r).postorder ↔ Kind.star ∈ l.postorder ∨ Kind.star ∈ r.postorder := by
  simp [postorder]

/-- A union has a star exactly if one of its operands has. -/
theorem star_mem_postorder_union {l r : Expr} :
    Kind.star ∈ (union l r).postorder ↔ Kind.star ∈ l.postorder ∨ Kind.star ∈ r.postorder := by
  simp [postorder]

/-- A star has one. -/
theorem star_mem_postorder_star (e : Expr) : Kind.star ∈ (star e).postorder :=
  List.mem_append_right _ (List.mem_singleton_self _)

/-! ### Lengths of words -/

/-- Without a star every symbol is read once at most. -/
theorem length_le_of_mem_language {e : Expr} (h : Kind.star ∉ e.postorder) {w : List Char}
    (hw : w ∈ e.language) : w.length ≤ e.postorder.countP Kind.isSymbol := by
  induction e generalizing w with
  | symbol c =>
      have hw : w = [c] := hw
      rw [hw]
      rfl
  | concat l r ihl ihr =>
      obtain ⟨u, hu, v, hv, rfl⟩ := Language.mem_mul.mp hw
      rw [star_mem_postorder_concat, not_or] at h
      have hul := ihl h.1 hu
      have hvr := ihr h.2 hv
      rw [postorder, List.countP_append, List.countP_append, List.length_append]
      omega
  | union l r ihl ihr =>
      rw [star_mem_postorder_union, not_or] at h
      rw [postorder, List.countP_append, List.countP_append]
      rcases (Language.mem_add _ _ _).mp hw with hw | hw
      · have hwl := ihl h.1 hw
        omega
      · have hwr := ihr h.2 hw
        omega
  | star e => exact absurd (star_mem_postorder_star e) h

/-- Every expression stands for some word that is not empty. -/
theorem exists_ne_nil_mem_language (e : Expr) : ∃ w ∈ e.language, w ≠ [] := by
  induction e with
  | symbol c => exact ⟨[c], rfl, List.cons_ne_nil c []⟩
  | concat l r ihl ihr =>
      obtain ⟨u, hu, hne⟩ := ihl
      obtain ⟨v, hv, -⟩ := ihr
      exact ⟨u ++ v, Language.append_mem_mul hu hv, List.append_ne_nil_of_left_ne_nil hne v⟩
  | union l r ihl _ =>
      obtain ⟨w, hw, hne⟩ := ihl
      exact ⟨w, .inl hw, hne⟩
  | star e ih =>
      obtain ⟨w, hw, hne⟩ := ih
      have hle : e.language ≤ e.language∗ := le_kstar
      exact ⟨w, hle hw, hne⟩

/-- A star makes words as long as one likes. -/
theorem exists_lt_length_of_star {e : Expr} (h : Kind.star ∈ e.postorder) (n : Nat) :
    ∃ w ∈ e.language, n < w.length := by
  induction e with
  | symbol c => simp [postorder] at h
  | concat l r ihl ihr =>
      -- The other operand has some word at least.
      rcases star_mem_postorder_concat.mp h with h | h
      · obtain ⟨u, hu, hlt⟩ := ihl h
        obtain ⟨v, hv, -⟩ := r.exists_ne_nil_mem_language
        refine ⟨u ++ v, Language.append_mem_mul hu hv, ?_⟩
        rw [List.length_append]
        exact Nat.lt_add_right _ hlt
      · obtain ⟨u, hu, -⟩ := l.exists_ne_nil_mem_language
        obtain ⟨v, hv, hlt⟩ := ihr h
        refine ⟨u ++ v, Language.append_mem_mul hu hv, ?_⟩
        rw [List.length_append]
        exact Nat.lt_add_left _ hlt
  | union l r ihl ihr =>
      rcases star_mem_postorder_union.mp h with h | h
      · obtain ⟨w, hw, hlt⟩ := ihl h
        exact ⟨w, .inl hw, hlt⟩
      · obtain ⟨w, hw, hlt⟩ := ihr h
        exact ⟨w, .inr hw, hlt⟩
  | star e _ =>
      obtain ⟨w, hw, hne⟩ := e.exists_ne_nil_mem_language
      have hwords : ∀ v ∈ List.replicate (n + 1) w, v ∈ e.language := by
        intro v hv
        rwa [List.eq_of_mem_replicate hv]
      refine ⟨(List.replicate (n + 1) w).flatten, Language.join_mem_kstar hwords, ?_⟩
      rw [List.length_flatten, List.map_replicate, List.sum_replicate_nat]
      exact Nat.lt_of_lt_of_le (Nat.lt_succ_self n)
        (Nat.le_mul_of_pos_right _ (List.length_pos_iff.mpr hne))

end Expr

/-! ### Ways back -/

namespace Arena

/-- An edge leaves from the id, and a way leads back to it. -/
def OnCycle (a : Arena) (p : StateId) : Prop := ∃ l q, a.HasEdge ⟨p, l, q⟩ ∧ a.Reaches q p

/-- No id can be reached from where its edges lead to. -/
def Acyclic (a : Arena) : Prop := ∀ p, ¬ a.OnCycle p

variable {a b : Arena} {lo mid hi : Nat} {f left right : Fragment} {p q : StateId} {w : List Char}

/-- A cycle stays one when edges are added. -/
theorem OnCycle.mono (h : a.OnCycle p) (hab : ∀ e, a.HasEdge e → b.HasEdge e) : b.OnCycle p := by
  obtain ⟨l, q, he, hreach⟩ := h
  exact ⟨l, q, hab _ he, hreach.mono hab⟩

/-- Every edge on a path to `q` is an edge of the first arena, if the others lead to where `q` is
not reached from. -/
theorem Path.of_agree_to {S : StateId → Prop} (hclosed : ∀ e, a.HasEdge e → S e.source → S e.target)
    (hedge : ∀ e, b.HasEdge e → S e.source → a.HasEdge e ∨ ¬ b.Reaches e.target q)
    (h : b.Path p w q) (hp : S p) : a.Path p w q := by
  induction h with
  | refl p => exact .refl p
  | step he hrest ih =>
      rcases hedge _ he hp with hold | hnew
      · exact .step hold (ih hedge (hclosed _ hold hp))
      · exact absurd ⟨_, hrest⟩ hnew

/-- An id without edges is on no cycle. -/
theorem not_onCycle_of_no_edge (h : ∀ e, e.source = p → ¬ a.HasEdge e) : ¬ a.OnCycle p := by
  rintro ⟨l, q, he, -⟩
  exact h _ rfl he

/-- Nothing else is reached from an id without edges. -/
theorem not_reaches_of_no_edge (h : ∀ e, e.source = p → ¬ a.HasEdge e) (hpq : q ≠ p) :
    ¬ a.Reaches p q := by
  rintro ⟨w, hw⟩
  exact hpq (hw.eq_of_no_edge h).2

namespace Block

/-- No edge leaves from the stop of a block. -/
theorem stop_no_edge (h : a.Block lo hi f) : ∀ e, e.source = f.stop → ¬ a.HasEdge e :=
  fun e hsource he => h.stop_final e he hsource

/-- The start of a block is not entered, so no way leads back to it. -/
theorem start_not_onCycle (h : a.Block lo hi f) : ¬ a.OnCycle f.start := by
  rintro ⟨l, q, he, w, hw⟩
  -- Behind the start the way stays in the block and never comes to the start.
  have hinside : Inside lo hi f.start ∧ f.start ≠ f.start :=
    hw.mem_of_closed (S := fun p => Inside lo hi p ∧ p ≠ f.start)
      (fun e he hs => ⟨h.closed e he hs.1, h.not_entered e he hs.1⟩)
      ⟨h.closed _ he h.start_inside, h.not_entered _ he h.start_inside⟩
  exact hinside.2 rfl

/-- An id of a block is on no cycle if it was on none, and if no way leads back from where the new
edges of the block lead to. -/
theorem not_onCycle (h : a.Block lo hi f) (hp : Inside lo hi p) (hold : ¬ a.OnCycle p)
    (hedge : ∀ e, b.HasEdge e → Inside lo hi e.source → a.HasEdge e ∨ ¬ b.Reaches e.target p) :
    ¬ b.OnCycle p := by
  rintro ⟨l, q, he, w, hw⟩
  rcases hedge _ he hp with he' | hnew
  · exact hold ⟨l, q, he', w, hw.of_agree_to h.closed hedge (h.closed _ he' hp)⟩
  · exact hnew ⟨w, hw⟩

end Block

/-- No state of the block is on a cycle. -/
def AcyclicIn (a : Arena) (lo hi : Nat) : Prop := ∀ p, Inside lo hi p → ¬ a.OnCycle p

namespace AcyclicIn

/-- States behind a block make no cycles in it. -/
theorem of_extends (hblock : a.Block lo hi f) (hab : a.Extends b) (h : a.AcyclicIn lo hi) :
    b.AcyclicIn lo hi := by
  intro p hp
  refine hblock.not_onCycle hp (h p hp) fun e he hs => .inl ?_
  exact (hab.hasEdge_iff (Nat.lt_of_lt_of_le hs.2 hblock.hi_le)).mp he

/-- Two fresh ids around a part of the arena, of which one starts a block and the other stops it. -/
theorem around {n : Nat} (hblock : a.Block lo (n + 2) ⟨n, n + 1⟩)
    (hold : ∀ p, Inside lo n p → ¬ a.OnCycle p) : a.AcyclicIn lo (n + 2) := by
  intro p hp
  by_cases hstart : p = n
  · rw [hstart]
    exact hblock.start_not_onCycle
  · by_cases hstop : p = n + 1
    · rw [hstop]
      exact not_onCycle_of_no_edge hblock.stop_no_edge
    · exact hold p (hp.of_ne hstart hstop)

/-- A literal has no cycle. -/
theorem literal (a : Arena) (c : Char) : (a.literal c).arena.AcyclicIn a.size (a.size + 2) := by
  refine around (Block.literal a c) fun p hp => ?_
  exact absurd hp.1 (Nat.not_le_of_lt hp.2)

/-- The link leads into the right part, which is not left again. -/
theorem concatenate (hbl : a.Block lo mid left) (hbr : a.Block mid hi right)
    (hl : a.AcyclicIn lo mid) (hr : a.AcyclicIn mid hi) :
    (a.concatenate left right).arena.AcyclicIn lo hi := by
  have hright : ∀ e, (a.concatenate left right).arena.HasEdge e → Inside mid hi e.source →
      a.HasEdge e := by
    intro e he hs
    rcases (hasEdge_concatenate hbl.stop_lt).mp he with he | rfl
    · exact he
    · exact absurd rfl (hbl.stop_inside.ne hs)
  intro p hp
  cases hp.split mid with
  | inl hin =>
      refine hbl.not_onCycle hin (hl p hin) fun e he _ => ?_
      rcases (hasEdge_concatenate hbl.stop_lt).mp he with he | rfl
      · exact .inl he
      · refine .inr fun ⟨w, hw⟩ => ?_
        have hp' : Inside mid hi p :=
          hw.mem_of_closed (fun e he hs => hbr.closed e (hright e he hs) hs) hbr.start_inside
        exact hin.ne hp' rfl
  | inr hin => exact hbr.not_onCycle hin (hr p hin) fun e he hs => .inl (hright e he hs)

/-- The links from the parts lead to the fresh stop, and from there nowhere. -/
theorem union (hbl : a.Block lo mid left) (hbr : a.Block mid a.size right)
    (hl : a.AcyclicIn lo mid) (hr : a.AcyclicIn mid a.size) :
    (a.union left right).arena.AcyclicIn lo (a.size + 2) := by
  have hblock := hbl.union hbr
  refine around hblock fun p hp => ?_
  have hleave : ¬ (a.union left right).arena.Reaches (a.size + 1) p :=
    not_reaches_of_no_edge hblock.stop_no_edge hp.old.2.2
  have hedge : ∀ e, (a.union left right).arena.HasEdge e → Inside lo a.size e.source →
      a.HasEdge e ∨ ¬ (a.union left right).arena.Reaches e.target p := by
    intro e he hs
    rcases (hasEdge_union hbl.stop_lt hbr.stop_lt).mp he with he | rfl | rfl | rfl | rfl
    · exact .inl he
    · exact absurd rfl hs.old.2.1
    · exact absurd rfl hs.old.2.1
    · exact .inr hleave
    · exact .inr hleave
  cases hp.split mid with
  | inl hin =>
      exact hbl.not_onCycle hin (hl p hin) fun e he hs =>
        hedge e he (hs.mono (Nat.le_refl _) (Nat.le_of_lt hbr.lt))
  | inr hin =>
      exact hbr.not_onCycle hin (hr p hin) fun e he hs =>
        hedge e he (hs.mono (Nat.le_of_lt hbl.lt) (Nat.le_refl _))

end AcyclicIn

/-- Without a star, building makes no cycle. -/
theorem build_acyclicIn (a : Arena) (e : Expr) (h : Kind.star ∉ e.postorder) :
    (e.build a).arena.AcyclicIn a.size (e.build a).arena.size := by
  refine build_induction (P := fun e a lo hi _ => Kind.star ∉ e.postorder → a.AcyclicIn lo hi)
    ?_ ?_ ?_ ?_ ?_ a e h
  · exact fun hblock hab h hstar => (h hstar).of_extends hblock hab
  · exact fun a c _ => .literal a c
  · intro l r a lo mid left right hbl hbr hl hr hstar
    rw [Expr.star_mem_postorder_concat, not_or] at hstar
    exact .concatenate hbl hbr (hl hstar.1) (hr hstar.2)
  · intro l r a lo mid left right hbl hbr hl hr hstar
    rw [Expr.star_mem_postorder_union, not_or] at hstar
    exact .union hbl hbr (hl hstar.1) (hr hstar.2)
  · exact fun {e} _ _ _ _ _ hstar => absurd (Expr.star_mem_postorder_star e) hstar

/-- A closure leads back from the stop of its part to the start, from where the stop is reached. -/
theorem closure_onCycle (hblock : a.Block lo a.size f) (h : a.Spans lo a.size f) :
    (a.closure f).arena.OnCycle f.stop := by
  have hmono : ∀ e, a.HasEdge e → (a.closure f).arena.HasEdge e :=
    fun e he => (hasEdge_closure hblock.stop_lt).mpr (.inl he)
  have hback : (a.closure f).arena.HasEdge ⟨f.stop, .epsilon, f.start⟩ :=
    (hasEdge_closure hblock.stop_lt).mpr (.inr (.inr (.inr (.inl rfl))))
  exact ⟨.epsilon, f.start, hback, (h.to_stop _ hblock.start_inside).mono hmono⟩

/-- With a star, building makes a cycle, which lasts while edges are added. -/
theorem build_onCycle (a : Arena) (e : Expr) (h : Kind.star ∈ e.postorder) :
    ∃ p, (e.build a).arena.OnCycle p := by
  -- A closure needs the way through its part, so the induction carries the span of each block.
  have hbuilt := build_induction (P := fun e a lo hi f =>
    a.Spans lo hi f ∧ (Kind.star ∈ e.postorder → ∃ p, a.OnCycle p)) ?_ ?_ ?_ ?_ ?_ a e
  · exact hbuilt.2 h
  · intro e a b lo hi f _ hab h
    refine ⟨h.1.of_extends hab, fun hstar => (h.2 hstar).imp fun p hp => ?_⟩
    exact hp.mono fun e he => (hab.hasEdge_iff he.source_lt).mpr he
  · intro a c
    exact ⟨.literal a c, fun hstar => by simp [Expr.postorder] at hstar⟩
  · intro l r a lo mid left right hbl hbr hl hr
    refine ⟨.concatenate hbl hbr hl.1 hr.1, fun hstar => ?_⟩
    have hold := (Expr.star_mem_postorder_concat.mp hstar).elim hl.2 hr.2
    exact hold.imp fun p hp => hp.mono fun e he => (hasEdge_concatenate hbl.stop_lt).mpr (.inl he)
  · intro l r a lo mid left right hbl hbr hl hr
    refine ⟨.union hbl hbr hl.1 hr.1, fun hstar => ?_⟩
    have hold := (Expr.star_mem_postorder_union.mp hstar).elim hl.2 hr.2
    exact hold.imp fun p hp =>
      hp.mono fun e he => (hasEdge_union hbl.stop_lt hbr.stop_lt).mpr (.inl he)
  · intro e a lo inner hblock h
    exact ⟨.closure hblock h.1, fun _ => ⟨_, closure_onCycle hblock h.1⟩⟩

end Arena

/-! ### Compiled automata -/

/-- The tree of a pattern has a star exactly if the pattern has one. -/
theorem Expr.star_mem_postorder_iff {flags : Flags} {pattern : String} {out : List Token}
    {e : Expr} (hparse : (parse flags pattern).result = .ok out)
    (hout : out.map Token.kind = e.postorder) :
    Kind.star ∈ e.postorder ↔ '*' ∈ pattern.toList := by
  have hcount : e.postorder.count .star = pattern.toList.count '*' :=
    hout ▸ countP_of_parse hparse (fun _ => Kind.beq_of_isParen rfl) rfl
      fun _ ht => Token.kind_beq ht rfl
  rw [← List.count_pos_iff, hcount, List.count_pos_iff]

/-- What compiles has a cycle exactly if the pattern has a star, and then it accepts inputs of any
length. Otherwise an input has no more characters than the pattern has symbols. -/
theorem compile_cyclic_iff_star {flags : Flags} {pattern : String} {nfa : Nfa}
    (h : Nfa.compile flags pattern = .ok nfa) :
    ('*' ∉ pattern.toList →
      nfa.arena.Acyclic ∧ ∀ input, nfa.accepts input = true →
        input.length ≤ pattern.toList.countP Text.isAlphanumeric) ∧
    ('*' ∈ pattern.toList →
      (∃ p, nfa.arena.OnCycle p) ∧
        ∀ n, ∃ input, nfa.accepts input = true ∧ n < input.length) := by
  obtain ⟨out, e, hparse, hout, rfl⟩ := Nfa.exists_postorder_of_compile h
  rw [← Expr.star_mem_postorder_iff hparse hout]
  refine ⟨fun hstar => ⟨fun p hp => ?_, fun input hinput => ?_⟩,
    fun hstar => ⟨Arena.build_onCycle {} e hstar, fun n => ?_⟩⟩
  · -- The block of the tree is the whole arena.
    obtain ⟨l, q, he, hreach⟩ := hp
    have hinside : Inside 0 (e.build {}).arena.size p := ⟨Nat.zero_le p, he.source_lt⟩
    exact Arena.build_acyclicIn {} e hstar p hinside ⟨l, q, he, hreach⟩
  · have hsymbols : e.postorder.countP Kind.isSymbol = pattern.toList.countP Text.isAlphanumeric :=
      hout ▸ countP_of_parse hparse (fun _ => Kind.isSymbol_of_isParen) rfl
        fun _ => Token.isSymbol_eq
    rw [← hsymbols, ← String.length_toList]
    exact Expr.length_le_of_mem_language hstar ((e.automaton_accepts pattern input).mp hinput)
  · obtain ⟨w, hw, hlt⟩ := Expr.exists_lt_length_of_star hstar n
    refine ⟨String.ofList w, (e.automaton_accepts pattern _).mpr ?_, ?_⟩
    · rwa [String.toList_ofList]
    · rwa [String.length_ofList]

/-- A bar makes no cycle and a star does. -/
theorem compile_cyclic_iff_star_of_bar :
    (∃ nfa, Nfa.compile {} "a|b" = .ok nfa ∧ nfa.arena.Acyclic ∧
      ∀ input, nfa.accepts input = true → input.length ≤ 2) ∧
    ∃ nfa, Nfa.compile {} "a*" = .ok nfa ∧ (∃ p, nfa.arena.OnCycle p) ∧
      ∀ n, ∃ input, nfa.accepts input = true ∧ n < input.length := by
  let states : List State :=
    [{ transitions := [('a', [1])] }, { epsilon := [5] }, { transitions := [('b', [3])] },
      { epsilon := [5] }, { epsilon := [0, 2] }, {}]
  have hbar : Nfa.compile {} "a|b" =
      .ok { pattern := "a|b", arena := { states }, start := 4, accept := 5 } := by decide
  let states' : List State :=
    [{ transitions := [('a', [1])] }, { epsilon := [0, 3] }, { epsilon := [0, 3] }, {}]
  have hstar : Nfa.compile {} "a*" =
      .ok { pattern := "a*", arena := { states := states' }, start := 2, accept := 3 } := by decide
  obtain ⟨hacyclic, hlength⟩ := (compile_cyclic_iff_star hbar).1 (by decide)
  obtain ⟨hcycle, hlong⟩ := (compile_cyclic_iff_star hstar).2 (by decide)
  exact ⟨⟨_, hbar, hacyclic, hlength⟩, _, hstar, hcycle, hlong⟩

end PatternNfa
