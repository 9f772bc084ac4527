import PatternNfa.Proofs.Evaluation

/-!
# `PatternNfa.Proofs.Relocation`: building behind other states

Every id that a construction writes is the id of a fresh state or one that it was given. So it does
not matter which states were there before. Built behind the states of another arena, an automaton is
the same, with all its ids moved by the number of those states (`Arena.append`).

The constructions are moved one by one (`concatenate_append` and the like), with fragments of any
ids, also where a construction stops early. `build_eq_behind` is the consequence for expressions:
an expression is built in any arena as it is built in the empty one. `evaluate_relocated` says the
same of tokens in postfix order, whether their evaluation succeeds or fails.

The last part is about the states in front, which appending leaves where they are.
-/

set_option autoImplicit false

namespace PatternNfa

/-! ### Modified lists -/

section

variable {α β : Type}

/-- What is changed in front stays in front. -/
theorem modify_append_of_lt {l : List α} {i : Nat} (h : i < l.length) (f : α → α) (m : List α) :
    (l ++ m).modify i f = l.modify i f ++ m := by
  induction l generalizing i with
  | nil => exact absurd h (Nat.not_lt_zero i)
  | cons x l ih =>
      cases i with
      | zero => rfl
      | succ i =>
          rw [List.cons_append, List.modify_succ_cons, List.modify_succ_cons,
            ih (Nat.lt_of_succ_lt_succ h), List.cons_append]

/-- What is changed behind stays behind. -/
theorem modify_append_length_add (l : List α) (i : Nat) (f : α → α) (m : List α) :
    (l ++ m).modify (l.length + i) f = l ++ m.modify i f :=
  List.modifyTailIdx_add _ i l m

/-- A modification and a map that pass each other by do so on lists. -/
theorem map_modify {f : α → α} {f' : β → β} {g : α → β} (h : ∀ x, g (f x) = f' (g x))
    (l : List α) (i : Nat) : (l.modify i f).map g = (l.map g).modify i f' := by
  induction l generalizing i with
  | nil => rw [List.modify_nil, List.map_nil, List.modify_nil]
  | cons x l ih =>
      cases i with
      | zero =>
          rw [List.modify_zero_cons, List.map_cons, List.map_cons, List.modify_zero_cons, h]
      | succ i =>
          rw [List.modify_succ_cons, List.map_cons, List.map_cons, List.modify_succ_cons, ih]

end

/-! ### Moved states -/

/-- The ids, moved by `n`. -/
def shiftIds (n : Nat) (ids : List StateId) : List StateId := ids.map (· + n)

/-- The state with all its targets moved by `n`. -/
def State.shift (n : Nat) (s : State) : State :=
  { transitions := s.transitions.map fun entry => (entry.1, shiftIds n entry.2)
    epsilon := shiftIds n s.epsilon }

/-- The fragment of the moved states. -/
def Fragment.shift (n : Nat) (f : Fragment) : Fragment :=
  { start := f.start + n, stop := f.stop + n }

/-- Ids that are moved twice are moved by both numbers. -/
theorem shiftIds_shiftIds (m n : Nat) (ids : List StateId) :
    shiftIds n (shiftIds m ids) = shiftIds (m + n) ids := by
  rw [shiftIds, shiftIds, List.map_map]
  exact List.map_congr_left fun id _ => Nat.add_assoc id m n

namespace State

/-- A state that is moved twice is moved by both numbers. -/
theorem shift_shift (m n : Nat) (s : State) : (s.shift m).shift n = s.shift (m + n) := by
  simp only [shift, shiftIds_shiftIds, List.map_map, Function.comp_def]

/-- A moved state takes the moved target. -/
theorem shift_addEpsilon (n : Nat) (s : State) (target : StateId) :
    (s.addEpsilon target).shift n = (s.shift n).addEpsilon (target + n) := by
  rw [shift, addEpsilon, shiftIds, List.map_append]
  rfl

/-- The target of a symbol is put in the same place among moved ones. -/
theorem map_insertTarget (n : Nat) (c : Char) (target : StateId)
    (transitions : List (Char × List StateId)) :
    (insertTarget c target transitions).map (fun entry => (entry.1, shiftIds n entry.2)) =
      insertTarget c (target + n)
        (transitions.map fun entry => (entry.1, shiftIds n entry.2)) := by
  induction transitions with
  | nil => rfl
  | cons entry rest ih =>
      obtain ⟨d, targets⟩ := entry
      rw [insertTarget, List.map_cons, insertTarget]
      split
      · have happend : shiftIds n (targets ++ [target]) = shiftIds n targets ++ [target + n] :=
          List.map_append
        rw [List.map_cons, happend]
      · rw [List.map_cons, ih]

/-- A moved state takes the moved target for the symbol. -/
theorem shift_addTransition (n : Nat) (s : State) (c : Char) (target : StateId) :
    (s.addTransition c target).shift n = (s.shift n).addTransition c (target + n) := by
  rw [shift, addTransition, map_insertTarget]
  rfl

end State

/-! ### One arena behind another -/

namespace Arena

/-- The states of the arena and new ones behind them. -/
def extend (a : Arena) (new : List State) : Arena := { states := a.states ++ new }

/-- The states of the first arena, and behind them those of the second, moved to their new
places. -/
def append (a b : Arena) : Arena := a.extend (b.states.map (State.shift a.size))

/-- What the construction leaves behind the states of an arena. -/
def behind (a : Arena) (built : Built) : Built :=
  { arena := a.append built.arena
    fragment := built.fragment.shift a.size
    missing := built.missing.map (· + a.size) }

variable (a b c : Arena)

/-- The states of both arenas are there. -/
@[simp]
theorem size_append : (a.append b).size = a.size + b.size := by
  simp [size, append, extend]

/-- An arena without states adds nothing. -/
theorem append_empty : a.append {} = a := by
  rw [append, extend, List.map_nil, List.append_nil]

/-- Three arenas can be put behind each other in either order. -/
theorem append_assoc : (a.append b).append c = a.append (b.append c) := by
  have hshift : c.states.map (State.shift (a.append b).size) =
      (c.states.map (State.shift b.size)).map (State.shift a.size) := by
    rw [List.map_map, size_append, Nat.add_comm]
    exact List.map_congr_left fun s _ => (State.shift_shift b.size a.size s).symm
  rw [append, hshift, append, append, append, extend, extend, extend, extend, List.map_append,
    List.append_assoc]

/-- The arena behind grows, and the one in front does not. -/
theorem append_grow (n : Nat) : (a.append b).grow n = a.append (b.grow n) := by
  have hfresh : (List.replicate n ({} : State)).map (State.shift a.size) = List.replicate n {} :=
    List.map_replicate
  rw [grow, append, append, extend, extend, grow, List.map_append, hfresh, List.append_assoc]

/-- A state behind others is changed as it would be without them. -/
theorem append_modify {f f' : State → State} (h : ∀ s, (f s).shift a.size = f' (s.shift a.size))
    (source : StateId) :
    ({ states := (a.append b).states.modify (source + a.size) f' } : Arena) =
      a.append { states := b.states.modify source f } := by
  have hmap : (b.states.modify source f).map (State.shift a.size) =
      (b.states.map (State.shift a.size)).modify source f' := map_modify h b.states source
  rw [append, append, extend, extend, hmap, Nat.add_comm source]
  exact congrArg Arena.mk (modify_append_length_add a.states source f' _)

/-- An empty transition between moved states is one of the arena behind. -/
theorem append_addEpsilon (source target : StateId) :
    (a.append b).addEpsilon (source + a.size) (target + a.size) =
      a.append (b.addEpsilon source target) :=
  append_modify a b (fun s => s.shift_addEpsilon a.size target) source

/-- A transition between moved states is one of the arena behind. -/
theorem append_addTransition (source : StateId) (d : Char) (target : StateId) :
    (a.append b).addTransition (source + a.size) d (target + a.size) =
      a.append (b.addTransition source d target) :=
  append_modify a b (fun s => s.shift_addTransition a.size d target) source

/-- Links between moved states stop early where the links between the states did. -/
theorem append_link (links : List (StateId × StateId)) :
    (a.append b).link (links.map fun l => (l.1 + a.size, l.2 + a.size)) =
      (a.append (b.link links).1, (b.link links).2.map (· + a.size)) := by
  induction links generalizing b with
  | nil => rfl
  | cons l rest ih =>
      have hlt : l.1 + a.size < (a.append b).size ↔ l.1 < b.size := by
        rw [size_append, Nat.add_comm l.1, Nat.add_lt_add_iff_left]
      rw [List.map_cons, link, link, append_addEpsilon, ih]
      simp only [hlt]
      split <;> rfl

/-! ### Constructions -/

/-- Links that are moved along with the states build the same behind them. -/
theorem append_build (links : List (StateId × StateId)) (fragment : Fragment) :
    (a.append b).build (links.map fun l => (l.1 + a.size, l.2 + a.size))
        (fragment.shift a.size) =
      a.behind (b.build links fragment) := by
  rw [build, append_link]
  rfl

/-- A literal is built behind an arena as it is without it. -/
theorem append_literal (d : Char) : (a.append b).literal d = a.behind (b.literal d) := by
  have hstop : a.size + b.size + 1 = b.size + 1 + a.size := by omega
  rw [literal, size_append, hstop, Nat.add_comm a.size b.size, append_grow, append_addTransition]
  rfl

/-- Moved operands are concatenated as they are at their old places. -/
theorem append_concatenate (left right : Fragment) :
    (a.append b).concatenate (left.shift a.size) (right.shift a.size) =
      a.behind (b.concatenate left right) :=
  append_build a b [(left.stop, right.start)] { start := left.start, stop := right.stop }

/-- Moved operands are united as they are at their old places. -/
theorem append_union (left right : Fragment) :
    (a.append b).union (left.shift a.size) (right.shift a.size) =
      a.behind (b.union left right) := by
  have hstop : a.size + b.size + 1 = b.size + 1 + a.size := by omega
  rw [union, size_append, hstop, Nat.add_comm a.size b.size, append_grow]
  exact append_build a (b.grow 2)
    [(b.size, left.start), (b.size, right.start), (left.stop, b.size + 1),
      (right.stop, b.size + 1)]
    { start := b.size, stop := b.size + 1 }

/-- A moved operand is repeated as it is at its old place. -/
theorem append_closure (inner : Fragment) :
    (a.append b).closure (inner.shift a.size) = a.behind (b.closure inner) := by
  have hstop : a.size + b.size + 1 = b.size + 1 + a.size := by omega
  rw [closure, size_append, hstop, Nat.add_comm a.size b.size, append_grow]
  exact append_build a (b.grow 2)
    [(b.size, inner.start), (b.size, b.size + 1), (inner.stop, inner.start),
      (inner.stop, b.size + 1)]
    { start := b.size, stop := b.size + 1 }

/-- Building behind the states of an arena is building, and then moving. -/
theorem append_buildExpr (e : Expr) : e.build (a.append b) = a.behind (e.build b) := by
  induction e generalizing b with
  | symbol d => exact append_literal a b d
  | concat left right ihl ihr =>
      rw [Expr.build, ihl, behind, ihr, behind]
      exact append_concatenate a _ _ _
  | union left right ihl ihr =>
      rw [Expr.build, ihl, behind, ihr, behind]
      exact append_union a _ _ _
  | star inner ih =>
      rw [Expr.build, ih, behind]
      exact append_closure a _ _

/-- An expression is built in an arena as it is built in the empty one. -/
theorem build_eq_behind (e : Expr) : e.build a = a.behind (e.build {}) := by
  have hbuild := append_buildExpr a {} e
  rwa [append_empty] at hbuild

/-! ### Evaluations -/

/-- What the evaluation leaves behind the states of an arena. -/
def Evaluation.behind (a : Arena) (e : Evaluation) : Evaluation :=
  { arena := a.append e.arena
    outcome :=
      { records := e.outcome.records
        result := e.outcome.result.map (Fragment.shift a.size) } }

/-- A token that is evaluated behind the states of an arena finds the operands that it would find
without them, and writes into their states. -/
theorem append_evaluateToken (stack : List Fragment) (t : Token) :
    (a.append b).evaluateToken (stack.map (Fragment.shift a.size)) t =
      (b.evaluateToken stack t).map fun next =>
        (next.1.map (Fragment.shift a.size), a.append next.2) := by
  rcases t with ⟨kind, offset⟩
  cases kind with
  | symbol c =>
      simp only [evaluateToken, append_literal]
      rfl
  | leftParen => cases stack <;> rfl
  | rightParen => cases stack <;> rfl
  | star =>
      cases stack with
      | nil => rfl
      | cons inner stack =>
          simp only [evaluateToken, List.map_cons, append_closure]
          rfl
  | union =>
      match stack with
      | [] => rfl
      | [_] => rfl
      | right :: left :: stack =>
          simp only [evaluateToken, List.map_cons, append_union]
          rfl
  | concat =>
      match stack with
      | [] => rfl
      | [_] => rfl
      | right :: left :: stack =>
          simp only [evaluateToken, List.map_cons, append_concatenate]
          rfl

/-- What is left of a moved stack is the moved fragment, or the same failure. -/
theorem single_shift (n endOffset : Nat) (stack : List Fragment) :
    single endOffset (stack.map (Fragment.shift n)) =
      (single endOffset stack).map (Fragment.shift n) := by
  match stack with
  | [] => rfl
  | [_] => rfl
  | right :: left :: below =>
      show Except.error (CompileError.excessOperands ((right :: left :: below).map _).length) = _
      rw [List.length_map]
      rfl

/-- Tokens in a row are evaluated behind the states of an arena as they are without them, up to the
token that fails. -/
theorem append_evaluateFrom (endOffset : Nat) (stack : List Fragment) (ts : List Token) :
    evaluateFrom endOffset (a.append b) (stack.map (Fragment.shift a.size)) ts =
      (evaluateFrom endOffset b stack ts).behind a := by
  induction ts generalizing b stack with
  | nil =>
      rw [evaluateFrom, evaluateFrom, single_shift]
      rfl
  | cons t ts ih =>
      rw [evaluateFrom, evaluateFrom, append_evaluateToken]
      cases b.evaluateToken stack t with
      | error e => rfl
      | ok next =>
          show (evaluateFrom endOffset (a.append next.2) (next.1.map (Fragment.shift a.size))
            ts).afterRecord _ = _
          rw [ih]
          rfl

/-- Tokens are evaluated in any arena as in the empty one. The states that were there are left as
they are, whatever they hold. Behind them are the states of the evaluation in the empty arena with
their targets moved, also if it fails. The fragment is moved with them, and an error is the same. -/
theorem evaluate_relocated (ts : List Token) (endOffset : Nat) :
    let fresh := evaluate {} ts endOffset
    let evaluation := a.evaluate ts endOffset
    evaluation.arena.states = a.states ++ fresh.arena.states.map (State.shift a.size) ∧
      evaluation.outcome.result = fresh.outcome.result.map (Fragment.shift a.size) ∧
      evaluation.outcome.records = fresh.outcome.records := by
  intro fresh evaluation
  have hbehind : evaluation = fresh.behind a := by
    have hrun := append_evaluateFrom a {} endOffset [] ts
    rwa [append_empty] at hrun
  rw [hbehind]
  exact ⟨rfl, rfl, rfl⟩

/-! ### The states in front -/

/-- A state in front takes a transition whatever comes behind it. -/
theorem addEpsilon_extend {source : StateId} (h : source < a.size) (target : StateId)
    (new : List State) :
    (a.extend new).addEpsilon source target = (a.addEpsilon source target).extend new :=
  congrArg Arena.mk (modify_append_of_lt h _ new)

/-- A state in front takes a transition whichever arena is behind it. -/
theorem addEpsilon_append {source : StateId} (h : source < a.size) (target : StateId) :
    (a.append b).addEpsilon source target = (a.addEpsilon source target).append b := by
  rw [append, append, size_addEpsilon]
  exact addEpsilon_extend a h target _

/-- Transitions from different states can be added in either order. -/
theorem addEpsilon_comm {source source' : StateId} (h : source ≠ source')
    (target target' : StateId) :
    (a.addEpsilon source target).addEpsilon source' target' =
      (a.addEpsilon source' target').addEpsilon source target :=
  congrArg Arena.mk (List.modify_modify_ne _ _ _ h)

end Arena

end PatternNfa
