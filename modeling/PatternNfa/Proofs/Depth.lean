import PatternNfa.Proofs.Counting

/-!
# `PatternNfa.Proofs.Depth`: where an evaluation fails, and what it leaves

Whether tokens can be evaluated is decided by counting. Behind some tokens as many fragments are on
the stack as there are symbols among them, less the operators with two operands (`Token.depth`). A
token is at fault if it is a parenthesis, or takes more operands than that (`Token.Faulty`).

The tokens before the first fault are read to a stack of expressions, and the depth is its height
(`Token.length_of_read_eq_depth`). So an evaluation fails at the first fault, with the arena as the
tokens before it have left it, and if there is no fault, the depth at the end is all that matters
(`Arena.evaluate_outcome`). An operator takes its operands from the stack before it touches the
arena, so it makes no difference whether it lacks one operand or both.
-/

set_option autoImplicit false

namespace PatternNfa

/-- The number of fragments that a token takes from the stack. -/
def Kind.operands : Kind → Nat
  | star => 1
  | union | concat => 2
  | _ => 0

/-- A token makes something of a stack of expressions unless it is a parenthesis or takes more of
them than there are. -/
theorem Expr.push_eq_none_iff (k : Kind) (es : List Expr) :
    push k es = none ↔ k.isParen = true ∨ es.length < k.operands := by
  cases k with
  | symbol c => exact iff_of_false (Option.some_ne_none _) (by simp [Kind.isParen, Kind.operands])
  | leftParen => exact iff_of_true (by cases es <;> rfl) (.inl rfl)
  | rightParen => exact iff_of_true (by cases es <;> rfl) (.inl rfl)
  | star =>
      cases es with
      | nil => exact iff_of_true rfl (.inr Nat.one_pos)
      | cons inner es =>
          exact iff_of_false (Option.some_ne_none _) (by simp [Kind.isParen, Kind.operands])
  | union | concat =>
      match es with
      | [] => exact iff_of_true rfl (.inr Nat.two_pos)
      | [_] => exact iff_of_true rfl (.inr Nat.one_lt_two)
      | _ :: _ :: _ =>
          exact iff_of_false (Option.some_ne_none _) (by simp [Kind.isParen, Kind.operands])

/-- Kinds are read one after another. -/
theorem Expr.read_append (ks ls : List Kind) (es : List Expr) :
    read (ks ++ ls) es = (read ks es).bind (read ls) := by
  induction ks generalizing es with
  | nil => rfl
  | cons k ks ih =>
      rw [List.cons_append, read, read]
      cases push k es with
      | none => rfl
      | some es' => exact ih es'

namespace Token

/-- The number of fragments that the tokens leave, if each of them finds its operands. -/
def depth (ts : List Token) : Int := symbols ts - binaries ts

/-- The token cannot be evaluated behind those before it: it is a parenthesis, or takes more
operands than they leave. -/
def Faulty (before : List Token) (t : Token) : Prop :=
  t.kind.isParen = true ∨ depth before < t.kind.operands

/-- None of the tokens is at fault. -/
def Faultless (ts : List Token) : Prop := ∀ u t v, ts = u ++ t :: v → ¬ Faulty u t

/-- The depth of what can be read is the number of expressions on the stack. -/
theorem length_of_read_eq_depth {ts : List Token} {es : List Expr}
    (h : Expr.read (ts.map kind) [] = some es) : (es.length : Int) = depth ts := by
  have hlength := Expr.length_of_read h
  rw [List.countP_map, List.countP_map, List.length_nil, Nat.zero_add] at hlength
  have hlength : symbols ts = es.length + binaries ts := hlength
  rw [depth]
  omega

/-- Behind tokens that have been read, a token is at fault exactly if nothing can be made of it. -/
theorem faulty_iff_of_read {u : List Token} {es : List Expr}
    (h : Expr.read (u.map kind) [] = some es) (t : Token) :
    Faulty u t ↔ Expr.push t.kind es = none := by
  rw [Faulty, ← length_of_read_eq_depth h, Expr.push_eq_none_iff, Int.ofNat_lt]

/-- Tokens are faultless if those before the last one are and the last one is no fault. -/
theorem faultless_concat_iff (u : List Token) (t : Token) :
    Faultless (u ++ [t]) ↔ Faultless u ∧ ¬ Faulty u t := by
  constructor
  · intro h
    refine ⟨fun u₁ s u₂ hu => h u₁ s (u₂ ++ [t]) ?_, h u t [] rfl⟩
    rw [hu, List.append_assoc, List.cons_append]
  · rintro ⟨hu, ht⟩ u₁ s v hsplit
    rcases List.eq_nil_or_concat v with rfl | ⟨u₂, s', rfl⟩
    · obtain ⟨rfl, hst⟩ := List.append_inj' hsplit rfl
      cases hst
      exact ht
    · rw [List.concat_eq_append, ← List.cons_append, ← List.append_assoc] at hsplit
      obtain ⟨rfl, -⟩ := List.append_inj' hsplit rfl
      exact hu u₁ s u₂ rfl

/-- Tokens are read to a stack of expressions exactly if none of them is at fault. -/
theorem exists_read_iff_faultless (ts : List Token) :
    (∃ es, Expr.read (ts.map kind) [] = some es) ↔ Faultless ts := by
  -- What is at fault depends on the tokens before, so the last token is taken off first.
  induction ts using List.reverseRecOn with
  | nil => exact ⟨fun _ u t v h => absurd h.symm (by simp), fun _ => ⟨[], rfl⟩⟩
  | append_singleton u t ih =>
      rw [faultless_concat_iff, ← ih, List.map_append, Expr.read_append]
      constructor
      · rintro ⟨es, hes⟩
        obtain ⟨mid, hmid, hlast⟩ := Option.bind_eq_some_iff.mp hes
        obtain ⟨es', hpush, -⟩ := Option.bind_eq_some_iff.mp hlast
        refine ⟨⟨mid, hmid⟩, ?_⟩
        rw [faulty_iff_of_read hmid, hpush]
        exact Option.some_ne_none es'
      · rintro ⟨⟨mid, hmid⟩, ht⟩
        rw [faulty_iff_of_read hmid, ← Ne, Option.ne_none_iff_exists'] at ht
        obtain ⟨es, hpush⟩ := ht
        exact ⟨es, by rw [hmid, List.map_singleton, Option.bind_some, Expr.read, hpush]; rfl⟩

/-- Of the tokens at fault one is the first. -/
theorem exists_first_fault {ts : List Token} (h : ¬ Faultless ts) :
    ∃ u t v, ts = u ++ t :: v ∧ Faulty u t ∧ Faultless u := by
  induction ts using List.reverseRecOn with
  | nil => exact absurd (fun u t v hsplit => absurd hsplit.symm (by simp)) h
  | append_singleton u t ih =>
      by_cases hu : Faultless u
      · refine ⟨u, t, [], rfl, ?_, hu⟩
        by_contra ht
        exact h ((faultless_concat_iff u t).mpr ⟨hu, ht⟩)
      · obtain ⟨u₁, s, u₂, rfl, hs, hu₁⟩ := ih hu
        exact ⟨u₁, s, u₂ ++ [t], by simp, hs, hu₁⟩

end Token

namespace Arena

/-- An evaluation goes on from the fragments that the first tokens leave, and each of these tokens
has been reported. -/
theorem evaluateFrom_append_of_read {us : List Token} {es es' : List Expr} (endOffset : Nat)
    (a : Arena) (h : Expr.read (us.map Token.kind) es = some es') (vs : List Token) :
    let evaluation :=
      evaluateFrom endOffset (Expr.buildAll a es).2 (Expr.buildAll a es).1 (us ++ vs)
    let rest := evaluateFrom endOffset (Expr.buildAll a es').2 (Expr.buildAll a es').1 vs
    evaluation.arena = rest.arena ∧ evaluation.outcome.result = rest.outcome.result ∧
      evaluation.outcome.records =
        (us.map fun t => { level := .trace, event := .evaluating t }) ++ rest.outcome.records := by
  induction us generalizing es with
  | nil =>
      cases h
      exact ⟨rfl, rfl, rfl⟩
  | cons t us ih =>
      rw [List.map_cons] at h
      obtain ⟨mid, hmid, hrest⟩ := Option.bind_eq_some_iff.mp h
      simp only [List.cons_append, evaluateFrom, evaluateToken_buildAll, hmid]
      obtain ⟨harena, hresult, hrecords⟩ := ih hrest
      exact ⟨harena, hresult, congrArg (List.cons _) hrecords⟩

/-- An evaluation stops at the first token at fault, and leaves what the tokens before it leave. -/
theorem evaluate_of_fault {u v : List Token} {t : Token} (a : Arena) (endOffset endOffset' : Nat)
    (hu : Token.Faultless u) (ht : Token.Faulty u t) :
    (a.evaluate (u ++ t :: v) endOffset).outcome.result = .error (evaluationError t) ∧
      (a.evaluate (u ++ t :: v) endOffset).arena = (a.evaluate u endOffset').arena := by
  obtain ⟨es, hread⟩ := (Token.exists_read_iff_faultless u).mpr hu
  have hpush : Expr.push t.kind es = none := (Token.faulty_iff_of_read hread t).mp ht
  obtain ⟨harena, hresult, -⟩ := evaluateFrom_append_of_read endOffset a hread (t :: v)
  have hbefore := (evaluateFrom_of_read endOffset' a hread).1
  simp only [evaluateFrom, evaluateToken_buildAll, hpush] at harena hresult
  exact ⟨hresult, harena.trans hbefore.symm⟩

/-- Two or more fragments are too many. -/
theorem single_of_two_le (endOffset : Nat) {stack : List Fragment} (h : 2 ≤ stack.length) :
    single endOffset stack = .error (.excessOperands stack.length) := by
  match stack with
  | [] => simp at h
  | [_] => simp at h
  | _ :: _ :: _ => rfl

/-- Without a fault as many fragments are left as the depth says. -/
theorem evaluate_of_faultless {ts : List Token} (a : Arena) (endOffset : Nat)
    (h : Token.Faultless ts) :
    ∃ stack : List Fragment, (stack.length : Int) = Token.depth ts ∧
      (a.evaluate ts endOffset).outcome.result = single endOffset stack := by
  obtain ⟨es, hread⟩ := (Token.exists_read_iff_faultless ts).mpr h
  refine ⟨(Expr.buildAll a es).1, ?_, (evaluateFrom_of_read endOffset a hread).2⟩
  rw [Expr.length_buildAll, Token.length_of_read_eq_depth hread]

/-- An evaluation fails at the first token at fault, if there is one: over a parenthesis, or for
want of an operand of the operator. The arena is then what the tokens before leave. If no token is
at fault, the depth at the end decides: nothing is left, or one fragment, or too many. -/
theorem evaluate_outcome (a : Arena) (ts : List Token) (endOffset : Nat) :
    ((∃ u t v, ts = u ++ t :: v ∧ Token.Faulty u t) →
      ∃ u t v, ts = u ++ t :: v ∧ Token.Faulty u t ∧ Token.Faultless u ∧
        (a.evaluate ts endOffset).outcome.result = .error (evaluationError t) ∧
        ∀ endOffset', (a.evaluate ts endOffset).arena = (a.evaluate u endOffset').arena) ∧
    (Token.Faultless ts →
      0 ≤ Token.depth ts ∧
      (Token.depth ts = 0 →
        (a.evaluate ts endOffset).outcome.result = .error (.missingOperand none endOffset)) ∧
      (Token.depth ts = 1 → ∃ f, (a.evaluate ts endOffset).outcome.result = .ok f) ∧
      ∀ count : Nat, 2 ≤ count → Token.depth ts = count →
        (a.evaluate ts endOffset).outcome.result = .error (.excessOperands count)) := by
  constructor
  · rintro ⟨u, t, v, hsplit, ht⟩
    obtain ⟨u, t, v, rfl, ht, hu⟩ := Token.exists_first_fault fun h => h u t v hsplit ht
    have hresult := (evaluate_of_fault a endOffset endOffset (v := v) hu ht).1
    have harena := fun endOffset' => (evaluate_of_fault a endOffset endOffset' (v := v) hu ht).2
    exact ⟨u, t, v, rfl, ht, hu, hresult, harena⟩
  · intro h
    obtain ⟨stack, hlength, hresult⟩ := evaluate_of_faultless a endOffset h
    rw [hresult, ← hlength]
    refine ⟨Int.natCast_nonneg _, ?_, ?_, ?_⟩
    · intro hzero
      have hnil : stack = [] := List.length_eq_zero_iff.mp (by omega)
      rw [hnil]
      rfl
    · intro hone
      obtain ⟨f, rfl⟩ := List.length_eq_one_iff.mp (show stack.length = 1 by omega)
      exact ⟨f, rfl⟩
    · intro count hcount heq
      have heq : stack.length = count := by omega
      rw [← heq] at hcount ⊢
      exact single_of_two_le endOffset hcount

/-- The bar in `x|)` lacks its left operand, and the parenthesis behind it is not looked at. The two
symbols of `x*y` are left over. -/
theorem evaluate_outcome_of_bar :
    let a : Arena := { states := [{ epsilon := [0, 7] }] }
    let ts : List Token := [⟨.symbol 'x', 0⟩, ⟨.union, 1⟩, ⟨.rightParen, 2⟩]
    let us : List Token := [⟨.symbol 'x', 0⟩, ⟨.star, 1⟩, ⟨.symbol 'y', 2⟩]
    (∃ u t v, ts = u ++ t :: v ∧ Token.Faulty u t ∧ Token.Faultless u ∧
        (a.evaluate ts 3).outcome.result = .error (evaluationError t) ∧
        ∀ endOffset, (a.evaluate ts 3).arena = (a.evaluate u endOffset).arena) ∧
      Token.Faultless us ∧ (a.evaluate us 3).outcome.result = .error (.excessOperands 2) := by
  intro a ts us
  obtain ⟨hfault, -⟩ := a.evaluate_outcome ts 3
  obtain ⟨-, hfaultless⟩ := a.evaluate_outcome us 3
  have hus : Token.Faultless us := (Token.exists_read_iff_faultless us).mp ⟨_, rfl⟩
  have hbar : Token.Faulty [⟨.symbol 'x', 0⟩] ⟨.union, 1⟩ := .inr (by decide)
  exact ⟨hfault ⟨_, _, _, rfl, hbar⟩, hus, (hfaultless hus).2.2.2 2 (by decide) (by decide)⟩

end Arena

end PatternNfa
