import PatternNfa.Proofs.Agreement
import PatternNfa.Proofs.Relocation
import PatternNfa.Proofs.WellFormed

/-!
# `PatternNfa.Proofs.Composition`: the automaton of a pattern made of patterns

A pattern between parentheses compiles to the automaton that it compiles to by itself, and patterns
put together to the automata put together: side by side, with the ids of the second one moved, and
linked where the operator says so (`Nfa.followedBy`, `Nfa.either`, `Nfa.repeated`). Neither what is
around an operand in the text nor what is in the arena already makes a difference.

The text is no obstacle, since the grammar derives what compiles, and derives the composed text from
the derivations of its parts. The arena is none since an expression is built behind other states as
it is in the empty arena (`Arena.build_eq_behind`). So the automaton of an operator's tree is given
by the automata of its operands (`Expr.automaton_concat` and the like).
-/

set_option autoImplicit false

namespace PatternNfa

/-! ### Constructions whose sources exist -/

namespace Arena

variable {a : Arena}

/-- Links are epsilon transitions that are added one after another, if their sources exist. -/
theorem link_of_lt {links : List (StateId × StateId)} (h : ∀ l ∈ links, l.1 < a.size) :
    (a.link links).1 = links.foldl (fun a l => a.addEpsilon l.1 l.2) a := by
  induction links generalizing a with
  | nil => rfl
  | cons l rest ih =>
      rw [List.forall_mem_cons] at h
      rw [link, if_pos h.1, ih (by rw [size_addEpsilon]; exact h.2), List.foldl_cons]

/-- The first state behind an arena takes a transition as a state of its own. -/
theorem addEpsilon_extend_size (s : State) (target : StateId) (new : List State) :
    (a.extend (s :: new)).addEpsilon a.size target = a.extend (s.addEpsilon target :: new) :=
  congrArg Arena.mk (modify_append_length_add a.states 0 _ (s :: new))

/-- A concatenation is a single link. -/
theorem concatenate_arena {left right : Fragment} (h : left.stop < a.size) :
    (a.concatenate left right).arena = a.addEpsilon left.stop right.start :=
  link_of_lt (by simpa using h)

/-- A union is two links, and two states behind the others. -/
theorem union_arena {left right : Fragment} (hl : left.stop < a.size) (hr : right.stop < a.size) :
    (a.union left right).arena =
      ((a.addEpsilon left.stop (a.size + 1)).addEpsilon right.stop (a.size + 1)).extend
        [{ epsilon := [left.start, right.start] }, {}] := by
  refine (link_of_lt (union_sources_lt hl hr)).trans ?_
  show ((((a.extend [{}, {}]).addEpsilon a.size left.start).addEpsilon a.size
    right.start).addEpsilon left.stop (a.size + 1)).addEpsilon right.stop (a.size + 1) = _
  rw [addEpsilon_extend_size, addEpsilon_extend_size, addEpsilon_extend _ hl,
    addEpsilon_extend _ (by rwa [size_addEpsilon])]
  rfl

/-- A closure is two links, and two states behind the others. -/
theorem closure_arena {inner : Fragment} (h : inner.stop < a.size) :
    (a.closure inner).arena =
      ((a.addEpsilon inner.stop inner.start).addEpsilon inner.stop (a.size + 1)).extend
        [{ epsilon := [inner.start, a.size + 1] }, {}] := by
  refine (link_of_lt (closure_sources_lt h)).trans ?_
  show ((((a.extend [{}, {}]).addEpsilon a.size inner.start).addEpsilon a.size
    (a.size + 1)).addEpsilon inner.stop inner.start).addEpsilon inner.stop (a.size + 1) = _
  rw [addEpsilon_extend_size, addEpsilon_extend_size, addEpsilon_extend _ h,
    addEpsilon_extend _ (by rwa [size_addEpsilon])]
  rfl

end Arena

/-! ### Composed automata -/

namespace Nfa

/-- The second automaton behind the first, which stops where the second one starts. -/
def followedBy (P Q : Nfa) (pattern : String) : Nfa where
  pattern := pattern
  arena := (P.arena.append Q.arena).addEpsilon P.accept (Q.start + P.arena.size)
  start := P.start
  accept := Q.accept + P.arena.size

/-- The automata one behind the other, between two new states. -/
def either (P Q : Nfa) (pattern : String) : Nfa :=
  let n := P.arena.size
  let m := Q.arena.size
  { pattern
    arena :=
      (((P.arena.append Q.arena).addEpsilon P.accept (n + m + 1)).addEpsilon (Q.accept + n)
        (n + m + 1)).extend [{ epsilon := [P.start, Q.start + n] }, {}]
    start := n + m
    accept := n + m + 1 }

/-- The automaton between two new states, with a way around it and a way back. -/
def repeated (P : Nfa) (pattern : String) : Nfa :=
  let n := P.arena.size
  { pattern
    arena :=
      ((P.arena.addEpsilon P.accept P.start).addEpsilon P.accept (n + 1)).extend
        [{ epsilon := [P.start, n + 1] }, {}]
    start := n
    accept := n + 1 }

/-- Three automata that follow one another are the same states, whichever two are put together
first. -/
theorem followedBy_assoc {P : Nfa} (hP : P.accept < P.arena.size) (Q R : Nfa)
    (s t s' t' : String) :
    SameStates (P.followedBy (Q.followedBy R s) t) ((P.followedBy Q s').followedBy R t') := by
  have hsize : (P.followedBy Q s').arena.size = P.arena.size + Q.arena.size := by
    rw [followedBy, Arena.size_addEpsilon, Arena.size_append]
  have hlt : P.accept < (P.arena.append Q.arena).size := by
    rw [Arena.size_append]
    exact Nat.lt_add_right _ hP
  refine ⟨rfl, ?_, ?_⟩
  · show R.accept + (P.followedBy Q s').arena.size = R.accept + Q.arena.size + P.arena.size
    rw [hsize, Nat.add_comm P.arena.size, Nat.add_assoc]
  · -- Both arenas are the three in a row, with the same two links added in either order.
    have hne : P.accept ≠ Q.accept + P.arena.size :=
      Nat.ne_of_lt (Nat.lt_of_lt_of_le hP (Nat.le_add_left _ _))
    show ((P.followedBy Q s').arena.append R.arena).addEpsilon (Q.accept + P.arena.size)
        (R.start + (P.followedBy Q s').arena.size) =
      (P.arena.append ((Q.arena.append R.arena).addEpsilon Q.accept
        (R.start + Q.arena.size))).addEpsilon P.accept (Q.start + P.arena.size)
    rw [hsize, followedBy, ← Arena.addEpsilon_append _ _ hlt, Arena.append_assoc,
      Arena.addEpsilon_comm _ hne, ← Arena.append_addEpsilon, Nat.add_comm P.arena.size,
      Nat.add_assoc]

end Nfa

namespace Expr

/-- The accepting state of an automaton exists. -/
theorem accept_lt_size (e : Expr) (pattern : String) :
    (e.automaton pattern).accept < (e.automaton pattern).arena.size :=
  (Arena.build_block {} e).2.stop_lt

/-- The automaton of a concatenation is one automaton followed by the other. -/
theorem automaton_concat (l r : Expr) (p q pattern : String) :
    (concat l r).automaton pattern = (l.automaton p).followedBy (r.automaton q) pattern := by
  have hstop :
      (l.build {}).fragment.stop < ((l.build {}).arena.append (r.build {}).arena).size := by
    rw [Arena.size_append]
    exact Nat.lt_add_right _ (l.accept_lt_size p)
  rw [automaton, build, Arena.build_eq_behind (l.build {}).arena r]
  exact congrArg (fun a => Arena.finish a pattern _) (Arena.concatenate_arena hstop)

/-- The automaton of a union is one automaton beside the other. -/
theorem automaton_union (l r : Expr) (p q pattern : String) :
    (union l r).automaton pattern = (l.automaton p).either (r.automaton q) pattern := by
  have hl : (l.build {}).fragment.stop < ((l.build {}).arena.append (r.build {}).arena).size := by
    rw [Arena.size_append]
    exact Nat.lt_add_right _ (l.accept_lt_size p)
  have hr : (r.build {}).fragment.stop + (l.build {}).arena.size <
      ((l.build {}).arena.append (r.build {}).arena).size := by
    rw [Arena.size_append, Nat.add_comm, Nat.add_lt_add_iff_left]
    exact r.accept_lt_size q
  let right := (r.build {}).fragment.shift (l.build {}).arena.size
  have harena := @Arena.union_arena _ (l.build {}).fragment right hl hr
  rw [automaton, build, Arena.build_eq_behind (l.build {}).arena r]
  show Arena.finish (((l.build {}).arena.append (r.build {}).arena).union
      (l.build {}).fragment right).arena pattern
    { start := ((l.build {}).arena.append (r.build {}).arena).size
      stop := ((l.build {}).arena.append (r.build {}).arena).size + 1 } = _
  rw [harena, Arena.size_append]
  rfl

/-- The automaton of a star is the automaton of its operand, repeated. -/
theorem automaton_star (e : Expr) (p pattern : String) :
    (star e).automaton pattern = (e.automaton p).repeated pattern :=
  congrArg (fun a => Arena.finish a pattern _) (Arena.closure_arena (e.accept_lt_size p))

end Expr

/-! ### Composed patterns -/

/-- The pattern between parentheses. -/
def grouped (pattern : String) : String := "(" ++ pattern ++ ")"

section

variable {p q : String} {l r : Expr}

/-- A pattern between parentheses is a factor. -/
theorem Derives.grouped (h : Derives false .expr p.toList l) :
    Derives false .factor (grouped p).toList l := by
  have hgroup := Derives.ofAtom (.group h)
  rwa [show (PatternNfa.grouped p).toList = '(' :: p.toList ++ [')'] by simp [PatternNfa.grouped]]

/-- A pattern between parentheses has the automaton of the pattern. -/
theorem compile_grouped (h : Derives false .expr p.toList l) :
    Nfa.compile {} (grouped p) = .ok (l.automaton (grouped p)) :=
  Nfa.compile_of_derives (.ofTerm (.ofFactor h.grouped))

/-- Two groups next to each other are a concatenation. -/
theorem derives_grouped_append (hl : Derives false .expr p.toList l)
    (hr : Derives false .expr q.toList r) :
    Derives false .expr (grouped p ++ grouped q).toList (.concat l r) := by
  have hconcat := Derives.concat (.ofFactor hl.grouped) hr.grouped
  rw [juxtaposition, if_neg Bool.false_ne_true, List.append_nil, ← String.toList_append] at hconcat
  exact .ofTerm hconcat

/-- Two groups next to each other have one automaton followed by the other. -/
theorem compile_grouped_append (hl : Derives false .expr p.toList l)
    (hr : Derives false .expr q.toList r) :
    Nfa.compile {} (grouped p ++ grouped q) =
      .ok ((l.automaton p).followedBy (r.automaton q) (grouped p ++ grouped q)) := by
  rw [← Expr.automaton_concat]
  exact Nfa.compile_of_derives (derives_grouped_append hl hr)

/-- Two groups with a bar between them have one automaton beside the other. -/
theorem compile_grouped_bar (hl : Derives false .expr p.toList l)
    (hr : Derives false .expr q.toList r) :
    Nfa.compile {} (grouped p ++ "|" ++ grouped q) =
      .ok ((l.automaton p).either (r.automaton q) (grouped p ++ "|" ++ grouped q)) := by
  have hunion := Derives.union (.ofTerm (.ofFactor hl.grouped)) (.ofFactor hr.grouped)
  rw [← Expr.automaton_union]
  apply Nfa.compile_of_derives
  rwa [String.toList_append, String.toList_append, List.append_assoc]

/-- A group with a star has its automaton repeated. -/
theorem compile_grouped_star (h : Derives false .expr p.toList l) :
    Nfa.compile {} (grouped p ++ "*") =
      .ok ((l.automaton p).repeated (grouped p ++ "*")) := by
  have hstar := Derives.star h.grouped
  rw [← Expr.automaton_star]
  apply Nfa.compile_of_derives
  rw [String.toList_append]
  exact .ofTerm (.ofFactor hstar)

end

/-- Whatever compiles is derived by the grammar, and is the automaton of its tree. -/
theorem exists_derives_of_compile {pattern : String} {nfa : Nfa}
    (h : Nfa.compile {} pattern = .ok nfa) :
    ∃ e, Derives false .expr pattern.toList e ∧ nfa = e.automaton pattern := by
  obtain ⟨e, he⟩ := (wellFormed_of_compile rfl h).derives
  exact ⟨e, he, Except.ok.inj (h.symm.trans (Nfa.compile_of_derives he))⟩

/-- A pattern that is put together from patterns compiles to the automaton that is put together from
theirs. Parentheses around a pattern leave its automaton as it is, and it makes no difference how a
concatenation of three patterns is grouped. -/
theorem compile_composed {p q : String} {P Q : Nfa} (hp : Nfa.compile {} p = .ok P)
    (hq : Nfa.compile {} q = .ok Q) :
    (P.accept < P.arena.size ∧ Q.accept < Q.arena.size) ∧
      Nfa.compile {} (grouped p ++ grouped q) =
        .ok (P.followedBy Q (grouped p ++ grouped q)) ∧
      Nfa.compile {} (grouped p ++ "|" ++ grouped q) =
        .ok (P.either Q (grouped p ++ "|" ++ grouped q)) ∧
      Nfa.compile {} (grouped p ++ "*") = .ok (P.repeated (grouped p ++ "*")) ∧
      Nfa.compile {} (grouped p) = .ok { P with pattern := grouped p } ∧
      ∀ {r : String} {R : Nfa}, Nfa.compile {} r = .ok R →
        ∃ N N', Nfa.compile {} (grouped p ++ grouped (grouped q ++ grouped r)) = .ok N ∧
          Nfa.compile {} (grouped (grouped p ++ grouped q) ++ grouped r) = .ok N' ∧
          Nfa.SameStates N N' := by
  obtain ⟨l, hl, rfl⟩ := exists_derives_of_compile hp
  obtain ⟨r, hr, rfl⟩ := exists_derives_of_compile hq
  refine ⟨⟨l.accept_lt_size p, r.accept_lt_size q⟩, compile_grouped_append hl hr,
    compile_grouped_bar hl hr, compile_grouped_star hl, compile_grouped hl, ?_⟩
  intro s R hs
  obtain ⟨t, ht, rfl⟩ := exists_derives_of_compile hs
  have hright := compile_grouped_append hl (derives_grouped_append hr ht)
  have hleft := compile_grouped_append (derives_grouped_append hl hr) ht
  rw [Expr.automaton_concat r t q s] at hright
  rw [Expr.automaton_concat l r p q] at hleft
  exact ⟨_, _, hright, hleft, Nfa.followedBy_assoc (l.accept_lt_size p) _ _ _ _ _ _⟩

/-- A symbol and a star, and the two ways to group them with the symbol once more. -/
theorem compile_composed_of_star :
    ∃ P Q, Nfa.compile {} "a" = .ok P ∧ Nfa.compile {} "b*" = .ok Q ∧
      Nfa.compile {} (grouped "a" ++ grouped "b*") =
        .ok (P.followedBy Q (grouped "a" ++ grouped "b*")) ∧
      ∃ N N', Nfa.compile {} (grouped "a" ++ grouped (grouped "b*" ++ grouped "a")) = .ok N ∧
        Nfa.compile {} (grouped (grouped "a" ++ grouped "b*") ++ grouped "a") = .ok N' ∧
        Nfa.SameStates N N' := by
  have ha : Nfa.compile {} "a" = .ok
      { pattern := "a", arena := { states := [{ transitions := [('a', [1])] }, {}] },
        start := 0, accept := 1 } := by decide
  have hb : Nfa.compile {} "b*" = .ok
      { pattern := "b*",
        arena := { states := [{ transitions := [('b', [1])] }, { epsilon := [0, 3] },
          { epsilon := [0, 3] }, {}] },
        start := 2, accept := 3 } := by decide
  obtain ⟨-, hconcat, -, -, -, hregroup⟩ := compile_composed ha hb
  exact ⟨_, _, ha, hb, hconcat, hregroup ha⟩

end PatternNfa
