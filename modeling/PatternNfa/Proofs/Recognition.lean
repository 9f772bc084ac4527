import PatternNfa.Proofs.Block

/-!
# `PatternNfa.Proofs.Recognition`: a fragment reads the language of its expression

A fragment recognizes the words that are read on the ways from its start to its stop. Each
construction has one lemma that says what its fragment recognizes in terms of what its parts
recognized before, and `build_recognizes` is the induction over the expression.

The direction from a word to a path puts paths together. The other one takes a path apart, and
needs the blocks: a path that starts in the block of a part is a path of that part until it leaves
from the part's stop (`Block.decompose`). For a closure the rest of the path can come back to the
part, which is why `Block.decompose` follows the path to its end and does not stop at the first
exit.
-/

set_option autoImplicit false

namespace PatternNfa

open Computability

namespace Arena

variable {a b : Arena} {lo mid hi : Nat} {f left right : Fragment} {p q : StateId}
  {w : List Char} {L M : Language Char}

/-- The words of the language are the ones read between the start and the stop. -/
def Recognizes (a : Arena) (f : Fragment) (L : Language Char) : Prop :=
  ∀ w, a.Path f.start w f.stop ↔ w ∈ L

/-- A path from one id to another has a first edge. -/
theorem Path.exists_first (h : a.Path p w q) (hpq : p ≠ q) :
    ∃ l t v, w = Label.word l ++ v ∧ a.HasEdge ⟨p, l, t⟩ ∧ a.Path t v q := by
  cases h with
  | refl => exact absurd rfl hpq
  | step he h => exact ⟨_, _, _, rfl, he, h⟩

namespace Block

/-- A path from inside a block to an id outside reads its way to the stop, and then a word that
can follow. The edges that leave the block are new ones behind the stop. Each leads to an id from
where only words of `K` are read, or back to the start, in front of a word of `K`. -/
theorem decompose {K : Language Char} (h : a.Block lo hi f) (hq : ¬ Inside lo hi q)
    (hexit : ∀ e, b.HasEdge e → Inside lo hi e.source → a.HasEdge e ∨
      ∃ t, e = ⟨f.stop, .epsilon, t⟩ ∧ ((∀ v, b.Path t v q → v ∈ K) ∨
        t = f.start ∧ ∀ u v, a.Path f.start u f.stop → v ∈ K → u ++ v ∈ K))
    (hpath : b.Path p w q) (hp : Inside lo hi p) :
    ∃ u v, w = u ++ v ∧ a.Path p u f.stop ∧ v ∈ K := by
  induction hpath with
  | refl p => exact absurd hp hq
  | @step p t q l w he hpath ih =>
      rcases hexit _ he hp with hold | ⟨t, heq, hrest⟩
      -- An old edge stays inside, so what it reads comes before what is read to the stop.
      · obtain ⟨u, v, rfl, hu, hv⟩ := ih hq hexit (h.closed _ hold hp)
        exact ⟨l.word ++ u, v, (List.append_assoc _ _ _).symm, .step hold hu, hv⟩
      -- A new edge leaves from the stop, so nothing is left to be read up to there.
      · cases heq
        rcases hrest with hleft | ⟨rfl, hback⟩
        · exact ⟨[], w, rfl, .refl _, hleft w hpath⟩
        · obtain ⟨u, v, rfl, hu, hv⟩ := ih hq hexit h.start_inside
          exact ⟨[], u ++ v, rfl, .refl _, hback u v hu hv⟩

/-- When all new edges from a block lead to a final id outside, reading to that id is reading to
the stop. -/
theorem path_to_exit (h : a.Block lo hi f) (hab : ∀ e, a.HasEdge e → b.HasEdge e)
    (hq : ¬ Inside lo hi q) (hfinal : ∀ e, b.HasEdge e → e.source ≠ q)
    (hexit : b.HasEdge ⟨f.stop, .epsilon, q⟩)
    (hedge : ∀ e, b.HasEdge e → Inside lo hi e.source →
      a.HasEdge e ∨ e = ⟨f.stop, .epsilon, q⟩) :
    b.Path f.start w q ↔ a.Path f.start w f.stop := by
  constructor
  · intro hw
    have hsplit : ∃ u v, w = u ++ v ∧ a.Path f.start u f.stop ∧ v ∈ (1 : Language Char) := by
      refine h.decompose hq (fun e he hs => ?_) hw h.start_inside
      refine (hedge e he hs).imp_right fun heq => ⟨q, heq, .inl fun v hv => ?_⟩
      exact (hv.eq_of_no_edge fun e hsource he => hfinal e he hsource).1
    obtain ⟨u, v, rfl, hu, rfl⟩ := hsplit
    rw [List.append_nil]
    exact hu
  · intro hw
    have hpath := (hw.mono hab).trans (.of_epsilon hexit)
    rwa [List.append_nil] at hpath

/-- What a block recognizes depends on its own states only. -/
theorem recognizes_of_agree (h : a.Block lo hi f) (hab : ∀ e, a.HasEdge e → b.HasEdge e)
    (hba : ∀ e, b.HasEdge e → Inside lo hi e.source → a.HasEdge e) (hL : a.Recognizes f L) :
    b.Recognizes f L := by
  intro w
  refine Iff.trans ⟨fun hw => ?_, Path.mono hab⟩ (hL w)
  exact hw.of_agree (fun e he hs => h.closed e (hba e he hs) hs) (fun e hs he => hba e he hs)
    h.start_inside

/-- A block recognizes the same words when states are added behind it. -/
theorem recognizes_of_extends (h : a.Block lo hi f) (hab : a.Extends b)
    (hL : a.Recognizes f L) : b.Recognizes f L := by
  refine h.recognizes_of_agree (fun e he => (hab.hasEdge_iff he.source_lt).mpr he) ?_ hL
  intro e he hs
  exact (hab.hasEdge_iff (Nat.lt_of_lt_of_le hs.2 h.hi_le)).mp he

end Block

/-! ### One language for each construction -/

/-- A literal recognizes its symbol. -/
theorem literal_recognizes (a : Arena) (c : Char) :
    (a.literal c).arena.Recognizes (a.literal c).fragment {[c]} := by
  intro w
  have hstop := (Block.literal a c).stop_final
  have hedge : (a.literal c).arena.HasEdge ⟨a.size, .symbol c, a.size + 1⟩ :=
    hasEdge_literal.mpr (.inr rfl)
  constructor
  · intro hw
    obtain ⟨l, t, v, rfl, he, hv⟩ := hw.exists_first (Block.literal a c).start_ne_stop
    rcases hasEdge_literal.mp he with he | heq
    · exact absurd he.source_lt (Nat.lt_irrefl _)
    · cases heq
      obtain ⟨rfl, -⟩ := hv.eq_of_no_edge fun e hsource he => hstop e he hsource
      rfl
  · rintro rfl
    exact .step hedge (.refl _)

/-- A concatenation recognizes words of the left operand that are followed by words of the right
one. -/
theorem concatenate_recognizes (hl : a.Block lo mid left) (hr : a.Block mid hi right)
    (hL : a.Recognizes left L) (hM : a.Recognizes right M) :
    (a.concatenate left right).arena.Recognizes (a.concatenate left right).fragment (L * M) := by
  have hmono : ∀ e, a.HasEdge e → (a.concatenate left right).arena.HasEdge e :=
    fun e he => (hasEdge_concatenate hl.stop_lt).mpr (.inl he)
  have hlink : (a.concatenate left right).arena.HasEdge ⟨left.stop, .epsilon, right.start⟩ :=
    (hasEdge_concatenate hl.stop_lt).mpr (.inr rfl)
  -- The link leaves from the left block, so the right one is as it was.
  have hright : (a.concatenate left right).arena.Recognizes right M := by
    refine hr.recognizes_of_agree hmono ?_ hM
    intro e he hs
    rcases (hasEdge_concatenate hl.stop_lt).mp he with he | rfl
    · exact he
    · exact absurd rfl (hl.stop_inside.ne hs)
  have hout : ¬ Inside lo mid right.stop := fun hin => hin.ne hr.stop_inside rfl
  intro w
  rw [Language.mem_mul]
  constructor
  · intro hw
    have hsplit : ∃ u v, w = u ++ v ∧ a.Path left.start u left.stop ∧ v ∈ M := by
      refine hl.decompose hout (fun e he _ => ?_) hw hl.start_inside
      rcases (hasEdge_concatenate hl.stop_lt).mp he with he | rfl
      · exact .inl he
      · exact .inr ⟨_, rfl, .inl fun v hv => (hright v).mp hv⟩
    obtain ⟨u, v, rfl, hu, hv⟩ := hsplit
    exact ⟨u, (hL u).mp hu, v, hv, rfl⟩
  · rintro ⟨u, hu, v, hv, rfl⟩
    exact (((hL u).mpr hu).mono hmono).trans (.epsilon hlink ((hright v).mpr hv))

/-- A union recognizes the words of both operands. -/
theorem union_recognizes (hl : a.Block lo mid left) (hr : a.Block mid a.size right)
    (hL : a.Recognizes left L) (hM : a.Recognizes right M) :
    (a.union left right).arena.Recognizes (a.union left right).fragment (L + M) := by
  have hblock := hl.union hr
  have hedge := fun e => hasEdge_union hl.stop_lt hr.stop_lt (e := e)
  have hmono : ∀ e, a.HasEdge e → (a.union left right).arena.HasEdge e :=
    fun e he => (hedge e).mpr (.inl he)
  have hmid : mid ≤ a.size := Nat.le_of_lt hr.lt
  have hleft : ∀ w, (a.union left right).arena.Path left.start w (a.size + 1) ↔ w ∈ L := by
    intro w
    rw [← hL w]
    refine hl.path_to_exit hmono (fun hin => ?_) hblock.stop_final
      ((hedge _).mpr (.inr (.inr (.inr (.inl rfl))))) fun e he hs => ?_
    · exact Nat.not_lt_of_le (Nat.le_succ_of_le hmid) hin.2
    · rcases (hedge e).mp he with he | rfl | rfl | rfl | rfl
      · exact .inl he
      · exact absurd hs.2 (Nat.not_lt_of_le hmid)
      · exact absurd hs.2 (Nat.not_lt_of_le hmid)
      · exact .inr rfl
      · exact absurd rfl (hs.ne hr.stop_inside)
  have hright : ∀ w, (a.union left right).arena.Path right.start w (a.size + 1) ↔ w ∈ M := by
    intro w
    rw [← hM w]
    refine hr.path_to_exit hmono (fun hin => ?_) hblock.stop_final
      ((hedge _).mpr (.inr (.inr (.inr (.inr rfl))))) fun e he hs => ?_
    · exact Nat.not_lt_of_le (Nat.le_succ _) hin.2
    · rcases (hedge e).mp he with he | rfl | rfl | rfl | rfl
      · exact .inl he
      · exact absurd hs.2 (Nat.lt_irrefl _)
      · exact absurd hs.2 (Nat.lt_irrefl _)
      · exact absurd rfl (hl.stop_inside.ne hs)
      · exact .inr rfl
  intro w
  rw [Language.mem_add, ← hleft, ← hright]
  -- The edges from the fresh start lead to the two operands and nowhere else.
  constructor
  · intro hw
    obtain ⟨l, t, v, rfl, he, hv⟩ := hw.exists_first hblock.start_ne_stop
    rcases (hedge _).mp he with he | heq | heq | heq | heq
    · exact absurd he.source_lt (Nat.lt_irrefl _)
    · cases heq
      exact .inl hv
    · cases heq
      exact .inr hv
    · exact absurd (congrArg Edge.source heq) (Nat.ne_of_gt hl.stop_lt)
    · exact absurd (congrArg Edge.source heq) (Nat.ne_of_gt hr.stop_lt)
  · rintro (hw | hw)
    · exact .epsilon ((hedge _).mpr (.inr (.inl rfl))) hw
    · exact .epsilon ((hedge _).mpr (.inr (.inr (.inl rfl)))) hw

/-- A word of the closure is read from where the closure's stop can be reached and the inner
fragment can be entered. -/
theorem path_of_mem_kstar (hL : a.Recognizes f L) (hab : ∀ e, a.HasEdge e → b.HasEdge e)
    (hskip : b.HasEdge ⟨p, .epsilon, q⟩) (henter : b.HasEdge ⟨p, .epsilon, f.start⟩)
    (hloop : b.HasEdge ⟨f.stop, .epsilon, f.start⟩) (hexit : b.HasEdge ⟨f.stop, .epsilon, q⟩)
    (hw : w ∈ L∗) : b.Path p w q := by
  obtain ⟨words, rfl, hwords⟩ := Language.mem_kstar.mp hw
  clear hw
  -- After the first word the way goes on from the stop of the part instead of `p`.
  induction words generalizing p with
  | nil => exact .of_epsilon hskip
  | cons u words ih =>
      rw [List.forall_mem_cons] at hwords
      rw [List.flatten_cons]
      have hu : b.Path f.start u f.stop := ((hL u).mpr hwords.1).mono hab
      exact .epsilon henter (hu.trans (ih hexit hloop hwords.2))

/-- A closure recognizes any number of words of its operand in a row. -/
theorem closure_recognizes (h : a.Block lo a.size f) (hL : a.Recognizes f L) :
    (a.closure f).arena.Recognizes (a.closure f).fragment L∗ := by
  have hblock := h.closure
  have hedge := fun e => hasEdge_closure h.stop_lt (e := e)
  have hnil : ∀ v, (a.closure f).arena.Path (a.size + 1) v (a.size + 1) → v ∈ L∗ := by
    intro v hv
    obtain ⟨rfl, -⟩ := hv.eq_of_no_edge fun e hsource he => hblock.stop_final e he hsource
    exact Language.nil_mem_kstar L
  have happend : ∀ u v, a.Path f.start u f.stop → v ∈ L∗ → u ++ v ∈ L∗ := by
    intro u v hu hv
    have hle : L * L∗ ≤ L∗ := mul_kstar_le_kstar
    exact hle (Language.append_mem_mul ((hL u).mp hu) hv)
  -- A turn through the part reads a word of its language, and then another turn can follow, which
  -- starts where this one did, or the end.
  have hinner : ∀ w, (a.closure f).arena.Path f.start w (a.size + 1) → w ∈ L∗ := by
    intro w hw
    have hsplit : ∃ u v, w = u ++ v ∧ a.Path f.start u f.stop ∧ v ∈ L∗ := by
      refine h.decompose (fun hin => ?_) (fun e he hs => ?_) hw h.start_inside
      · exact Nat.not_lt_of_le (Nat.le_succ _) hin.2
      · rcases (hedge e).mp he with he | rfl | rfl | rfl | rfl
        · exact .inl he
        · exact absurd hs.2 (Nat.lt_irrefl _)
        · exact absurd hs.2 (Nat.lt_irrefl _)
        · exact .inr ⟨_, rfl, .inr ⟨rfl, happend⟩⟩
        · exact .inr ⟨_, rfl, .inl hnil⟩
    obtain ⟨u, v, rfl, hu, hv⟩ := hsplit
    exact happend u v hu hv
  intro w
  constructor
  · intro hw
    obtain ⟨l, t, v, rfl, he, hv⟩ := hw.exists_first hblock.start_ne_stop
    rcases (hedge _).mp he with he | heq | heq | heq | heq
    · exact absurd he.source_lt (Nat.lt_irrefl _)
    · cases heq
      exact hinner v hv
    · cases heq
      exact hnil v hv
    · exact absurd (congrArg Edge.source heq) (Nat.ne_of_gt h.stop_lt)
    · exact absurd (congrArg Edge.source heq) (Nat.ne_of_gt h.stop_lt)
  · intro hw
    exact path_of_mem_kstar hL (fun e he => (hedge e).mpr (.inl he))
      ((hedge _).mpr (.inr (.inr (.inl rfl)))) ((hedge _).mpr (.inr (.inl rfl)))
      ((hedge _).mpr (.inr (.inr (.inr (.inl rfl)))))
      ((hedge _).mpr (.inr (.inr (.inr (.inr rfl))))) hw

/-- Building an expression makes a fragment that recognizes the language of the expression. -/
theorem build_recognizes (a : Arena) (e : Expr) :
    (e.build a).arena.Recognizes (e.build a).fragment e.language :=
  build_induction (P := fun e a _ _ f => a.Recognizes f e.language)
    Block.recognizes_of_extends literal_recognizes concatenate_recognizes union_recognizes
    closure_recognizes a e

end Arena

end PatternNfa
