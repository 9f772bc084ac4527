import PatternNfa.Proofs.Construction
import PatternNfa.Proofs.Evaluation

/-!
# `PatternNfa.Proofs.Block`: a fragment keeps to a block of the arena

The states of a fragment are consecutive. A fragment that is built at the end of an arena of size
`lo` has the ids from `lo` up to the new size, and the fragments on the stack of an evaluation have
blocks that follow one another. `Block` says what a block owes to the rest of the arena: its edges
stay in it, none of them enters the start, and none leaves the stop. So two fragments never meet
until a construction links them, and a link can be followed only once.

`build_block` is the invariant of building. It comes with the fact that building leaves all the
states that were there as they were (`Extends`). No construction stops early, since a block has its
stop in the arena (`build_missing`). Other invariants of building need not look at the arena between
two operands any more: `build_induction` asks for one fact about each construction.
-/

set_option autoImplicit false

namespace PatternNfa

/-- The id is at least `lo` and less than `hi`. -/
def Inside (lo hi id : Nat) : Prop := lo ≤ id ∧ id < hi

/-- A range is part of any that includes it. -/
theorem Inside.mono {lo hi lo' hi' id : Nat} (h : Inside lo hi id) (hlo : lo' ≤ lo)
    (hhi : hi ≤ hi') : Inside lo' hi' id :=
  ⟨Nat.le_trans hlo h.1, Nat.lt_of_lt_of_le h.2 hhi⟩

/-- Blocks that follow one another have no id in common. -/
theorem Inside.ne {lo mid hi p q : Nat} (hp : Inside lo mid p) (hq : Inside mid hi q) : p ≠ q := by
  unfold Inside at hp hq
  omega

/-- An id inside two blocks that follow one another is inside one of them. -/
theorem Inside.split {lo hi id : Nat} (h : Inside lo hi id) (mid : Nat) :
    Inside lo mid id ∨ Inside mid hi id := by
  unfold Inside at h ⊢
  omega

/-- An id that is inside a block of the whole arena is not one of the two fresh ids. -/
theorem Inside.old {lo n id : Nat} (h : Inside lo n id) :
    Inside lo (n + 2) id ∧ id ≠ n ∧ id ≠ n + 1 := by
  unfold Inside at h ⊢
  omega

/-- What is inside the block and is none of the two fresh ids was inside before. -/
theorem Inside.of_ne {lo n id : Nat} (h : Inside lo (n + 2) id) (hstart : id ≠ n)
    (hstop : id ≠ n + 1) : Inside lo n id := by
  unfold Inside at h ⊢
  omega

/-- The first of two fresh states lies in the range that ends behind them. -/
theorem Inside.fresh_start {lo n : Nat} (h : lo ≤ n) : Inside lo (n + 2) n := by
  unfold Inside
  omega

/-- The second of two fresh states lies in the range that ends behind them. -/
theorem Inside.fresh_stop {lo n : Nat} (h : lo ≤ n) : Inside lo (n + 2) (n + 1) := by
  unfold Inside
  omega

namespace Arena

/-- No edge leaves from an id that has no state yet. -/
theorem HasEdge.not_inside_fresh {a : Arena} {e : Edge} (h : a.HasEdge e) (n : Nat) :
    ¬ Inside a.size n e.source :=
  fun hin => Nat.not_lt_of_le hin.1 h.source_lt

/-- The second arena has the states of the first, as they are, and perhaps more. -/
structure Extends (a b : Arena) : Prop where
  size_le : a.size ≤ b.size
  get?_eq : ∀ id, id < a.size → b.get? id = a.get? id

/-- What is kept twice is kept. -/
theorem Extends.trans {a b c : Arena} (hab : a.Extends b) (hbc : b.Extends c) : a.Extends c where
  size_le := Nat.le_trans hab.size_le hbc.size_le
  get?_eq id hid := by
    rw [hbc.get?_eq id (Nat.lt_of_lt_of_le hid hab.size_le), hab.get?_eq id hid]

/-- A state that is as it was has the edges that it had. -/
theorem Extends.hasEdge_iff {a b : Arena} (h : a.Extends b) {e : Edge} (he : e.source < a.size) :
    b.HasEdge e ↔ a.HasEdge e := by
  rw [HasEdge, HasEdge, edgesOf, edgesOf, h.get?_eq _ he]

/-- The states from `lo` up to `hi` are a part of the arena that is entered at the fragment's start
from outside only, and left at its stop only. -/
structure Block (a : Arena) (lo hi : Nat) (f : Fragment) : Prop where
  hi_le : hi ≤ a.size
  start_inside : Inside lo hi f.start
  stop_inside : Inside lo hi f.stop
  start_ne_stop : f.start ≠ f.stop
  closed : ∀ e, a.HasEdge e → Inside lo hi e.source → Inside lo hi e.target
  not_entered : ∀ e, a.HasEdge e → Inside lo hi e.source → e.target ≠ f.start
  stop_final : ∀ e, a.HasEdge e → e.source ≠ f.stop

namespace Block

variable {a b : Arena} {lo mid hi : Nat} {f left right : Fragment}

/-- A block has states. -/
theorem lt (h : a.Block lo hi f) : lo < hi := Nat.lt_of_le_of_lt h.start_inside.1 h.start_inside.2

/-- The stop of a block is a state. -/
theorem stop_lt (h : a.Block lo hi f) : f.stop < a.size :=
  Nat.lt_of_lt_of_le h.stop_inside.2 h.hi_le

/-- An id before a block is not its stop. -/
theorem ne_stop_of_lt (h : a.Block lo hi f) {id : StateId} (hid : id < lo) : id ≠ f.stop :=
  Nat.ne_of_lt (Nat.lt_of_lt_of_le hid h.stop_inside.1)

/-- A block is still there when the arena gets more states. -/
theorem of_extends (h : a.Block lo hi f) (hab : a.Extends b) : b.Block lo hi f := by
  have hedge : ∀ e, b.HasEdge e → Inside lo hi e.source → a.HasEdge e := by
    intro e he hsource
    exact (hab.hasEdge_iff (Nat.lt_of_lt_of_le hsource.2 h.hi_le)).mp he
  exact
    { hi_le := Nat.le_trans h.hi_le hab.size_le
      start_inside := h.start_inside
      stop_inside := h.stop_inside
      start_ne_stop := h.start_ne_stop
      closed := fun e he hsource => h.closed e (hedge e he hsource) hsource
      not_entered := fun e he hsource => h.not_entered e (hedge e he hsource) hsource
      stop_final := fun e he hsource =>
        h.stop_final e (hedge e he (hsource ▸ h.stop_inside)) hsource }

/-- Together, blocks that follow one another are closed under edges. -/
theorem closed_append (hl : a.Block lo mid left) (hr : a.Block mid hi right) (e : Edge)
    (he : a.HasEdge e) (hsource : Inside lo hi e.source) : Inside lo hi e.target := by
  cases hsource.split mid with
  | inl hs => exact (hl.closed e he hs).mono (Nat.le_refl _) (Nat.le_of_lt hr.lt)
  | inr hs => exact (hr.closed e he hs).mono (Nat.le_of_lt hl.lt) (Nat.le_refl _)

/-- The two states of a literal are a block, since no edge was there before. -/
theorem literal (a : Arena) (c : Char) :
    (a.literal c).arena.Block a.size (a.size + 2) (a.literal c).fragment where
  hi_le := Nat.le_of_eq (size_literal a c).symm
  start_inside := ⟨Nat.le_refl _, Nat.lt_add_of_pos_right Nat.two_pos⟩
  stop_inside := ⟨Nat.le_succ _, Nat.lt_succ_self _⟩
  start_ne_stop := Nat.ne_of_lt (Nat.lt_succ_self _)
  closed e he hsource := by
    rcases hasEdge_literal.mp he with he | rfl
    · exact absurd hsource (he.not_inside_fresh _)
    · exact ⟨Nat.le_succ _, Nat.lt_succ_self _⟩
  not_entered e he hsource := by
    rcases hasEdge_literal.mp he with he | rfl
    · exact absurd hsource (he.not_inside_fresh _)
    · exact Nat.ne_of_gt (Nat.lt_succ_self _)
  stop_final e he := by
    rcases hasEdge_literal.mp he with he | rfl
    · exact Nat.ne_of_lt (Nat.lt_succ_of_lt he.source_lt)
    · exact Nat.ne_of_lt (Nat.lt_succ_self _)

/-- The link between two blocks that follow one another makes them one. It leaves from a stop and
enters a start, and neither of the two keeps its role. -/
theorem concatenate (hl : a.Block lo mid left) (hr : a.Block mid hi right) :
    (a.concatenate left right).arena.Block lo hi (a.concatenate left right).fragment where
  hi_le := by rw [size_concatenate]; exact hr.hi_le
  start_inside := hl.start_inside.mono (Nat.le_refl _) (Nat.le_of_lt hr.lt)
  stop_inside := hr.stop_inside.mono (Nat.le_of_lt hl.lt) (Nat.le_refl _)
  start_ne_stop := hl.start_inside.ne hr.stop_inside
  closed e he hsource := by
    rcases (hasEdge_concatenate hl.stop_lt).mp he with he | rfl
    · exact closed_append hl hr e he hsource
    · exact hr.start_inside.mono (Nat.le_of_lt hl.lt) (Nat.le_refl _)
  not_entered e he hsource := by
    rcases (hasEdge_concatenate hl.stop_lt).mp he with he | rfl
    · cases hsource.split mid with
      | inl hs => exact hl.not_entered e he hs
      | inr hs => exact (hl.start_inside.ne (hr.closed e he hs)).symm
    · exact (hl.start_inside.ne hr.start_inside).symm
  stop_final e he := by
    rcases (hasEdge_concatenate hl.stop_lt).mp he with he | rfl
    · exact hr.stop_final e he
    · exact hl.stop_inside.ne hr.stop_inside

/-- Two blocks at the end of the arena and the fresh states behind them are one block. -/
theorem union (hl : a.Block lo mid left) (hr : a.Block mid a.size right) :
    (a.union left right).arena.Block lo (a.size + 2) (a.union left right).fragment := by
  have hlo : lo ≤ a.size := Nat.le_trans (Nat.le_of_lt hl.lt) (Nat.le_of_lt hr.lt)
  -- The targets of the links are the two starts and the fresh stop. Sources are a fresh state or a
  -- stop, so the edges that were there are as before.
  have hleft := (hl.start_inside.mono (Nat.le_refl _) (Nat.le_of_lt hr.lt)).old
  have hright := (hr.start_inside.mono (Nat.le_of_lt hl.lt) (Nat.le_refl _)).old
  have hstop := Inside.fresh_stop hlo
  exact
    { hi_le := Nat.le_of_eq (size_union a left right).symm
      start_inside := .fresh_start hlo
      stop_inside := hstop
      start_ne_stop := Nat.ne_of_lt (Nat.lt_succ_self _)
      closed := by
        intro e he hsource
        rcases (hasEdge_union hl.stop_lt hr.stop_lt).mp he with he | rfl | rfl | rfl | rfl
        · exact (closed_append hl hr e he ⟨hsource.1, he.source_lt⟩).old.1
        · exact hleft.1
        · exact hright.1
        · exact hstop
        · exact hstop
      not_entered := by
        intro e he hsource
        rcases (hasEdge_union hl.stop_lt hr.stop_lt).mp he with he | rfl | rfl | rfl | rfl
        · exact (closed_append hl hr e he ⟨hsource.1, he.source_lt⟩).old.2.1
        · exact hleft.2.1
        · exact hright.2.1
        · exact Nat.ne_of_gt (Nat.lt_succ_self _)
        · exact Nat.ne_of_gt (Nat.lt_succ_self _)
      stop_final := by
        intro e he
        rcases (hasEdge_union hl.stop_lt hr.stop_lt).mp he with he | rfl | rfl | rfl | rfl
        · exact Nat.ne_of_lt (Nat.lt_succ_of_lt he.source_lt)
        · exact Nat.ne_of_lt (Nat.lt_succ_self _)
        · exact Nat.ne_of_lt (Nat.lt_succ_self _)
        · exact Nat.ne_of_lt (Nat.lt_succ_of_lt hl.stop_lt)
        · exact Nat.ne_of_lt (Nat.lt_succ_of_lt hr.stop_lt) }

/-- A block at the end of the arena and the fresh states behind it are one block. -/
theorem closure (h : a.Block lo a.size f) :
    (a.closure f).arena.Block lo (a.size + 2) (a.closure f).fragment := by
  have hlo : lo ≤ a.size := Nat.le_of_lt h.lt
  have hinner := h.start_inside.old
  have hstop := Inside.fresh_stop hlo
  exact
    { hi_le := Nat.le_of_eq (size_closure a f).symm
      start_inside := .fresh_start hlo
      stop_inside := hstop
      start_ne_stop := Nat.ne_of_lt (Nat.lt_succ_self _)
      closed := by
        intro e he hsource
        rcases (hasEdge_closure h.stop_lt).mp he with he | rfl | rfl | rfl | rfl
        · exact (h.closed e he ⟨hsource.1, he.source_lt⟩).old.1
        · exact hinner.1
        · exact hstop
        · exact hinner.1
        · exact hstop
      not_entered := by
        intro e he hsource
        rcases (hasEdge_closure h.stop_lt).mp he with he | rfl | rfl | rfl | rfl
        · exact (h.closed e he ⟨hsource.1, he.source_lt⟩).old.2.1
        · exact hinner.2.1
        · exact Nat.ne_of_gt (Nat.lt_succ_self _)
        · exact hinner.2.1
        · exact Nat.ne_of_gt (Nat.lt_succ_self _)
      stop_final := by
        intro e he
        rcases (hasEdge_closure h.stop_lt).mp he with he | rfl | rfl | rfl | rfl
        · exact Nat.ne_of_lt (Nat.lt_succ_of_lt he.source_lt)
        · exact Nat.ne_of_lt (Nat.lt_succ_self _)
        · exact Nat.ne_of_lt (Nat.lt_succ_self _)
        · exact Nat.ne_of_lt (Nat.lt_succ_of_lt h.stop_lt)
        · exact Nat.ne_of_lt (Nat.lt_succ_of_lt h.stop_lt) }

end Block

/-- What is left of the states that were there, once those behind them are linked. -/
theorem Extends.of_frame {a b c : Arena} (hab : a.Extends b) (hsize : b.size ≤ c.size)
    (hframe : ∀ id, id < a.size → c.get? id = b.get? id) : a.Extends c where
  size_le := Nat.le_trans hab.size_le hsize
  get?_eq id hid := by rw [hframe id hid, hab.get?_eq id hid]

/-- A literal leaves the states before it as they were. -/
theorem extends_literal (a : Arena) (c : Char) : a.Extends (a.literal c).arena where
  size_le := by
    rw [size_literal]
    exact Nat.le_add_right _ _
  get?_eq _ hid := get?_literal_of_lt hid c

/-- Building leaves the states that were there as they were, and its own states are a block. -/
theorem build_block (a : Arena) (e : Expr) :
    a.Extends (e.build a).arena ∧
      (e.build a).arena.Block a.size (e.build a).arena.size (e.build a).fragment := by
  induction e generalizing a with
  | symbol c =>
      rw [Expr.build, size_literal]
      exact ⟨extends_literal a c, .literal a c⟩
  | concat left right ihl ihr =>
      obtain ⟨hal, hl⟩ := ihl a
      obtain ⟨hlr, hr⟩ := ihr (left.build a).arena
      -- The right operand leaves the block of the left one alone. The link then writes into a state
      -- of that block, which is behind all that were there before.
      have hl := hl.of_extends hlr
      refine ⟨(hal.trans hlr).of_frame (Nat.le_of_eq (size_concatenate _ _ _).symm) ?_, ?_⟩
      · intro id hid
        exact get?_concatenate_of_ne hl.stop_lt (hl.ne_stop_of_lt hid)
      · rw [Expr.build, size_concatenate]
        exact hl.concatenate hr
  | union left right ihl ihr =>
      obtain ⟨hal, hl⟩ := ihl a
      obtain ⟨hlr, hr⟩ := ihr (left.build a).arena
      have hl := hl.of_extends hlr
      have har := hal.trans hlr
      refine ⟨har.of_frame ?_ ?_, ?_⟩
      · rw [Expr.build, size_union]
        exact Nat.le_add_right _ _
      · intro id hid
        exact get?_union_of_ne hl.stop_lt hr.stop_lt (Nat.lt_of_lt_of_le hid har.size_le)
          (hl.ne_stop_of_lt hid) (hr.ne_stop_of_lt (Nat.lt_of_lt_of_le hid hal.size_le))
      · rw [Expr.build, size_union]
        exact hl.union hr
  | star inner ih =>
      obtain ⟨hai, hi⟩ := ih a
      refine ⟨hai.of_frame ?_ ?_, ?_⟩
      · rw [Expr.build, size_closure]
        exact Nat.le_add_right _ _
      · intro id hid
        exact get?_closure_of_ne hi.stop_lt (Nat.lt_of_lt_of_le hid hai.size_le)
          (hi.ne_stop_of_lt hid)
      · rw [Expr.build, size_closure]
        exact hi.closure

/-- No construction stops early while an expression is built: the states that it links exist. -/
theorem build_missing (a : Arena) (e : Expr) : (e.build a).missing = none := by
  cases e with
  | symbol c => exact literal_missing a c
  | concat left right =>
      obtain ⟨-, hl⟩ := build_block a left
      obtain ⟨hlr, -⟩ := build_block (left.build a).arena right
      rw [Expr.build, concatenate_missing_eq_none_iff]
      exact (hl.of_extends hlr).stop_lt
  | union left right =>
      obtain ⟨-, hl⟩ := build_block a left
      obtain ⟨hlr, hr⟩ := build_block (left.build a).arena right
      rw [Expr.build, union_missing_eq_none_iff]
      exact ⟨Nat.lt_add_right 2 (hl.of_extends hlr).stop_lt, Nat.lt_add_right 2 hr.stop_lt⟩
  | star inner =>
      obtain ⟨-, hi⟩ := build_block a inner
      rw [Expr.build, closure_missing_eq_none_iff]
      exact Nat.lt_add_right 2 hi.stop_lt

/-- What holds of the block of an expression if it lasts while the arena grows and if each
construction makes it hold of a new block. The blocks of two operands follow one another, and the
right one ends the arena. -/
theorem build_induction {P : Expr → Arena → Nat → Nat → Fragment → Prop}
    (hextends : ∀ {e : Expr} {a b : Arena} {lo hi : Nat} {f : Fragment}, a.Block lo hi f →
      a.Extends b → P e a lo hi f → P e b lo hi f)
    (hsymbol : ∀ (a : Arena) (c : Char),
      P (.symbol c) (a.literal c).arena a.size (a.size + 2) (a.literal c).fragment)
    (hconcat : ∀ {l r : Expr} {a : Arena} {lo mid : Nat} {left right : Fragment},
      a.Block lo mid left → a.Block mid a.size right →
      P l a lo mid left → P r a mid a.size right →
      P (.concat l r) (a.concatenate left right).arena lo a.size
        (a.concatenate left right).fragment)
    (hunion : ∀ {l r : Expr} {a : Arena} {lo mid : Nat} {left right : Fragment},
      a.Block lo mid left → a.Block mid a.size right →
      P l a lo mid left → P r a mid a.size right →
      P (.union l r) (a.union left right).arena lo (a.size + 2) (a.union left right).fragment)
    (hstar : ∀ {e : Expr} {a : Arena} {lo : Nat} {inner : Fragment}, a.Block lo a.size inner →
      P e a lo a.size inner →
      P (.star e) (a.closure inner).arena lo (a.size + 2) (a.closure inner).fragment)
    (a : Arena) (e : Expr) : P e (e.build a).arena a.size (e.build a).arena.size
      (e.build a).fragment := by
  induction e generalizing a with
  | symbol c =>
      rw [Expr.build, size_literal]
      exact hsymbol a c
  | concat left right ihl ihr =>
      -- The right operand is built behind the left one, whose block it leaves as it is.
      obtain ⟨-, hl⟩ := build_block a left
      obtain ⟨hlr, hr⟩ := build_block (left.build a).arena right
      rw [Expr.build, size_concatenate]
      exact hconcat (hl.of_extends hlr) hr (hextends hl hlr (ihl a)) (ihr _)
  | union left right ihl ihr =>
      obtain ⟨-, hl⟩ := build_block a left
      obtain ⟨hlr, hr⟩ := build_block (left.build a).arena right
      rw [Expr.build, size_union]
      exact hunion (hl.of_extends hlr) hr (hextends hl hlr (ihl a)) (ihr _)
  | star inner ih =>
      rw [Expr.build, size_closure]
      exact hstar (build_block a inner).2 (ih a)

end Arena

end PatternNfa
