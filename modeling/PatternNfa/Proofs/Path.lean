import PatternNfa.Edge
import PatternNfa.Nfa.Acceptance

/-!
# `PatternNfa.Proofs.Path`: paths through an arena

A path goes along edges and reads the symbols that they are labelled with. It may pass any ids:
one that has no state has no edges, so a path can end there and not go on. Paths compose
(`Path.trans`) and carry over to an arena with more edges (`Path.mono`). A path that begins in a set
of ids that no edge leaves stays there, so it depends on the states of that set only
(`Path.of_agree`).

`path_iff_exists_leads` spells a path out as the list of its edges.
-/

set_option autoImplicit false

namespace PatternNfa

/-- What is read along a label. -/
def Label.word : Label → List Char
  | symbol c => [c]
  | epsilon => []

namespace Arena

/-- The edge is a transition of the state that it leaves from. -/
def HasEdge (a : Arena) (e : Edge) : Prop := e ∈ a.edgesOf e.source

/-- There is a way from one id to another that reads the word. -/
inductive Path (a : Arena) : StateId → List Char → StateId → Prop where
  | refl (p : StateId) : Path a p [] p
  | step {p q r : StateId} {l : Label} {w : List Char} :
      a.HasEdge ⟨p, l, q⟩ → Path a q w r → Path a p (l.word ++ w) r

/-- There is a way from one id to another. -/
def Reaches (a : Arena) (p q : StateId) : Prop := ∃ w, a.Path p w q

/-! ### The edges of a state -/

/-- An edge of a state leaves from it, to a target of its label. -/
theorem mem_edges {s : State} {p q r : StateId} {l : Label} :
    (⟨p, l, q⟩ : Edge) ∈ s.edges r ↔ p = r ∧
      match l with
      | .symbol c => q ∈ s.targets c
      | .epsilon => q ∈ s.epsilon := by
  cases l with
  | symbol c =>
      simp only [State.edges, State.targets, List.mem_append, List.mem_flatMap, List.mem_map,
        Edge.mk.injEq, Label.symbol.injEq, reduceCtorEq, false_and, and_false, exists_false,
        or_false]
      constructor
      · rintro ⟨⟨d, targets⟩, hd, t, ht, rfl, rfl, rfl⟩
        exact ⟨rfl, ⟨d, targets⟩, hd, by simpa using ht⟩
      · rintro ⟨rfl, ⟨d, targets⟩, hd, hq⟩
        split at hq
        · rename_i hdc
          exact ⟨⟨d, targets⟩, hd, q, hq, rfl, hdc, rfl⟩
        · cases hq
  | epsilon =>
      simp only [State.edges, List.mem_append, List.mem_flatMap, List.mem_map, Edge.mk.injEq,
        reduceCtorEq, false_and, and_false, exists_false, true_and, false_or]
      constructor
      · rintro ⟨t, ht, rfl, rfl⟩
        exact ⟨rfl, ht⟩
      · rintro ⟨rfl, hq⟩
        exact ⟨q, hq, rfl, rfl⟩

/-- An edge leaves from a state that exists and is one of its transitions. -/
theorem hasEdge_iff {a : Arena} {p q : StateId} {l : Label} :
    a.HasEdge ⟨p, l, q⟩ ↔ ∃ s, a.get? p = some s ∧ (⟨p, l, q⟩ : Edge) ∈ s.edges p := by
  show _ ∈ a.edgesOf p ↔ _
  rw [edgesOf]
  cases a.get? p <;> simp

/-- An edge that reads nothing leads to what the search for empty transitions finds. -/
theorem hasEdge_epsilon {a : Arena} {p q : StateId} :
    a.HasEdge ⟨p, .epsilon, q⟩ ↔ q ∈ a.epsilonOf p := by
  rw [hasEdge_iff, epsilonOf]
  cases a.get? p <;> simp [mem_edges]

/-- An edge that reads a symbol leads to what the simulation finds for it. -/
theorem hasEdge_symbol {a : Arena} {p q : StateId} {c : Char} :
    a.HasEdge ⟨p, .symbol c, q⟩ ↔ q ∈ a.targetsOf c p := by
  rw [hasEdge_iff, targetsOf]
  cases a.get? p <;> simp [mem_edges]

/-- Only states have edges. -/
theorem HasEdge.source_lt {a : Arena} {e : Edge} (h : a.HasEdge e) : e.source < a.size := by
  apply Nat.lt_of_not_le
  intro hle
  rw [HasEdge, edgesOf_eq_nil hle] at h
  cases h

/-! ### Paths -/

namespace Path

variable {a b : Arena} {p q r : StateId} {u v w : List Char}

/-- A path can be continued by another one. -/
theorem trans (h : a.Path p u q) (h' : a.Path q v r) : a.Path p (u ++ v) r := by
  induction h with
  | refl p => exact h'
  | step he _ ih =>
      rw [List.append_assoc]
      exact .step he (ih h')

/-- An edge that reads nothing in front of a path. -/
theorem epsilon (he : a.HasEdge ⟨p, .epsilon, q⟩) (h : a.Path q w r) : a.Path p w r :=
  .step he h

/-- A path along an edge that reads nothing. -/
theorem of_epsilon (he : a.HasEdge ⟨p, .epsilon, q⟩) : a.Path p [] q :=
  .step he (.refl q)

/-- A path in an arena is a path in every arena with the same edges and more. -/
theorem mono (hab : ∀ e, a.HasEdge e → b.HasEdge e) (h : a.Path p w q) : b.Path p w q := by
  induction h with
  | refl p => exact .refl p
  | step he _ ih => exact .step (hab _ he) ih

/-- A path stays in a set that no edge leaves. -/
theorem mem_of_closed {S : StateId → Prop}
    (hclosed : ∀ e, a.HasEdge e → S e.source → S e.target) (h : a.Path p w q) (hp : S p) : S q := by
  induction h with
  | refl p => exact hp
  | step he _ ih => exact ih (hclosed _ he hp)

/-- Paths in a set that no edge leaves are the same wherever the set has the same edges. -/
theorem of_agree {S : StateId → Prop} (hclosed : ∀ e, a.HasEdge e → S e.source → S e.target)
    (hagree : ∀ e, S e.source → a.HasEdge e → b.HasEdge e) (h : a.Path p w q) (hp : S p) :
    b.Path p w q := by
  induction h with
  | refl p => exact .refl p
  | step he _ ih => exact .step (hagree _ hp he) (ih (hclosed _ he hp))

/-- A path from an id without edges goes nowhere. -/
theorem eq_of_no_edge (hp : ∀ e, e.source = p → ¬ a.HasEdge e) (h : a.Path p w q) :
    w = [] ∧ q = p := by
  cases h with
  | refl => exact ⟨rfl, rfl⟩
  | step he _ => exact absurd he (hp _ rfl)

end Path

/-- The edges lead from one id to another, each from where the one before it led. -/
def Leads (p : StateId) : List Edge → StateId → Prop
  | [], q => p = q
  | e :: es, q => e.source = p ∧ Leads e.target es q

/-- What is read along edges. -/
def wordAlong (es : List Edge) : List Char := es.flatMap fun e => e.label.word

/-- There is a path along edges just where there are edges in a row with the same labels. -/
theorem path_iff_exists_leads {a : Arena} {p q : StateId} {w : List Char} :
    a.Path p w q ↔ ∃ es, Leads p es q ∧ (∀ e ∈ es, a.HasEdge e) ∧ wordAlong es = w := by
  constructor
  · intro h
    induction h with
    | refl p => exact ⟨[], rfl, by simp, rfl⟩
    | @step p q r l w he _ ih =>
        obtain ⟨es, hleads, hedges, rfl⟩ := ih
        exact ⟨⟨p, l, q⟩ :: es, ⟨rfl, hleads⟩, List.forall_mem_cons.mpr ⟨he, hedges⟩, rfl⟩
  · rintro ⟨es, hleads, hedges, rfl⟩
    induction es generalizing p with
    | nil =>
        cases hleads
        exact .refl _
    | cons e es ih =>
        obtain ⟨rfl, hleads⟩ := hleads
        rw [List.forall_mem_cons] at hedges
        exact .step hedges.1 (ih hleads hedges.2)

/-- What can be reached from where one can get to can be reached. -/
theorem Reaches.trans {a : Arena} {p q r : StateId} (h : a.Reaches p q) (h' : a.Reaches q r) :
    a.Reaches p r := by
  obtain ⟨u, hu⟩ := h
  obtain ⟨v, hv⟩ := h'
  exact ⟨u ++ v, hu.trans hv⟩

/-- Whatever can be reached still can when edges are added. -/
theorem Reaches.mono {a b : Arena} {p q : StateId} (h : a.Reaches p q)
    (hab : ∀ e, a.HasEdge e → b.HasEdge e) : b.Reaches p q := by
  obtain ⟨w, hw⟩ := h
  exact ⟨w, hw.mono hab⟩

/-- An id is reached from itself. -/
theorem Reaches.refl (a : Arena) (p : StateId) : a.Reaches p p := ⟨[], .refl p⟩

/-- An edge leads to its target. -/
theorem HasEdge.reaches {a : Arena} {p q : StateId} {l : Label} (h : a.HasEdge ⟨p, l, q⟩) :
    a.Reaches p q :=
  ⟨l.word ++ [], .step h (.refl q)⟩

end Arena

end PatternNfa
