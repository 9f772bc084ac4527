import PatternNfa.Arena.Evaluation
import PatternNfa.Proofs.Grammar

/-!
# `PatternNfa.Proofs.Evaluation`: evaluating tokens builds an expression

`Expr.build` builds the fragment of an expression by recursion on the expression, with the same
four constructions that the evaluation uses. The evaluation of tokens is that recursion without
the expression at hand: its stack of fragments is always the one that some stack of expressions
builds (`evaluateToken_buildAll`), and `Expr.read` says which. So an evaluation succeeds exactly on
the postfix order of an expression, and leaves what building that expression leaves
(`evaluate_of_postorder`, `exists_postorder_of_evaluate`). Whatever is proved about building is
thereby proved about evaluating, and building has an induction principle.
-/

set_option autoImplicit false

namespace PatternNfa

namespace Expr

/-! ### Stacks of expressions -/

/-- What a token does to a stack of expressions, if there are enough of them. -/
def push : Kind → List Expr → Option (List Expr)
  | .symbol c, es => some (symbol c :: es)
  | .concat, right :: left :: es => some (concat left right :: es)
  | .union, right :: left :: es => some (union left right :: es)
  | .star, inner :: es => some (star inner :: es)
  | _, _ => none

/-- What tokens in postfix order do to a stack of expressions. -/
def read : List Kind → List Expr → Option (List Expr)
  | [], es => some es
  | k :: ks, es => (push k es).bind (read ks)

/-- The tokens of a stack of expressions in postfix order, from the bottom to the top. -/
def postorders (es : List Expr) : List Kind := es.reverse.flatMap postorder

/-- The topmost expression was read last. -/
@[simp]
theorem postorders_cons (e : Expr) (es : List Expr) :
    postorders (e :: es) = postorders es ++ e.postorder := by
  simp [postorders]

/-- A token that finds its operands stands behind them. -/
theorem postorders_of_push : ∀ {k : Kind} {es es' : List Expr}, push k es = some es' →
    postorders es' = postorders es ++ [k]
  | .symbol _, _, _, rfl => by simp [postorder]
  | .concat, _ :: _ :: _, _, rfl => by simp [postorder]
  | .union, _ :: _ :: _, _, rfl => by simp [postorder]
  | .star, _ :: _, _, rfl => by simp [postorder]

/-- What is read comes behind what was read before. -/
theorem postorders_of_read {ks : List Kind} {es es' : List Expr} (h : read ks es = some es') :
    postorders es' = postorders es ++ ks := by
  induction ks generalizing es with
  | nil =>
      cases h
      rw [List.append_nil]
  | cons k ks ih =>
      obtain ⟨mid, hmid, hrest⟩ := Option.bind_eq_some_iff.mp h
      rw [ih hrest, postorders_of_push hmid, List.append_assoc, List.singleton_append]

/-- The tokens of an expression in postfix order push that expression. -/
theorem read_postorder (e : Expr) (ks : List Kind) (es : List Expr) :
    read (e.postorder ++ ks) es = read ks (e :: es) := by
  induction e generalizing ks es with
  | symbol c => rfl
  | concat l r ihl ihr | union l r ihl ihr =>
      rw [postorder, List.append_assoc, List.append_assoc, ihl, ihr]
      rfl
  | star e ih =>
      rw [postorder, List.append_assoc, ih]
      rfl

/-- An expression is read from its postfix order. -/
theorem read_postorder_self (e : Expr) : read e.postorder [] = some [e] := by
  have hread := read_postorder e [] []
  rwa [List.append_nil] at hread

/-- An expression can be read off its postfix order. -/
theorem postorder_injective {e e' : Expr} (h : e.postorder = e'.postorder) : e = e' := by
  have hread := read_postorder_self e
  rw [h, read_postorder_self] at hread
  cases hread
  rfl

/-! ### Building -/

/-- The fragment of an expression, built at the end of an arena. -/
def build (a : Arena) : Expr → Built
  | symbol c => a.literal c
  | concat left right =>
      let l := left.build a
      let r := right.build l.arena
      r.arena.concatenate l.fragment r.fragment
  | union left right =>
      let l := left.build a
      let r := right.build l.arena
      r.arena.union l.fragment r.fragment
  | star inner =>
      let i := inner.build a
      i.arena.closure i.fragment

/-- The fragments of a stack of expressions, built from the bottom to the top. -/
def buildAll (a : Arena) : List Expr → List Fragment × Arena
  | [] => ([], a)
  | e :: es =>
      let below := buildAll a es
      let built := e.build below.2
      (built.fragment :: below.1, built.arena)

/-- Each expression has a fragment. -/
theorem length_buildAll (a : Arena) (es : List Expr) : (buildAll a es).1.length = es.length := by
  induction es with
  | nil => rfl
  | cons e es ih => rw [buildAll, List.length_cons, List.length_cons, ih]

end Expr

namespace Arena

/-- Why a token cannot be evaluated: it has no place in postfix order, or it lacks operands. -/
def evaluationError (t : Token) : CompileError :=
  if t.kind.isParen then .parsing (.unmatchedParenthesis t.offset)
  else .missingOperand (some t.char) t.offset

/-- Evaluating a token over built fragments builds what the token makes of their expressions. -/
theorem evaluateToken_buildAll (a : Arena) (es : List Expr) (t : Token) :
    (Expr.buildAll a es).2.evaluateToken (Expr.buildAll a es).1 t =
      match Expr.push t.kind es with
      | some es' => .ok (Expr.buildAll a es')
      | none => .error (evaluationError t) := by
  rcases t with ⟨kind, offset⟩
  -- Both sides look at the kind and at how many operands there are, so both reduce once those are
  -- known.
  cases kind with
  | symbol c => rfl
  | leftParen => cases es <;> rfl
  | rightParen => cases es <;> rfl
  | union =>
      match es with
      | [] => rfl
      | [_] => rfl
      | _ :: _ :: _ => rfl
  | star => cases es <;> rfl
  | concat =>
      match es with
      | [] => rfl
      | [_] => rfl
      | _ :: _ :: _ => rfl

/-- An evaluation that finds all operands ends over the fragments of the expressions read. -/
theorem evaluateFrom_of_read {ts : List Token} {es es' : List Expr} (endOffset : Nat) (a : Arena)
    (h : Expr.read (ts.map Token.kind) es = some es') :
    let evaluation :=
      evaluateFrom endOffset (Expr.buildAll a es).2 (Expr.buildAll a es).1 ts
    evaluation.arena = (Expr.buildAll a es').2 ∧
      evaluation.outcome.result = single endOffset (Expr.buildAll a es').1 := by
  induction ts generalizing es with
  | nil =>
      cases h
      exact ⟨rfl, rfl⟩
  | cons t ts ih =>
      rw [List.map_cons] at h
      obtain ⟨mid, hmid, hrest⟩ := Option.bind_eq_some_iff.mp h
      -- The token turns a stack that is built into a stack that is built, and the rest goes on
      -- from there.
      simp only [evaluateFrom, evaluateToken_buildAll, hmid]
      exact ih hrest

/-- An evaluation that does not find all operands, or meets a parenthesis, fails at a token. Another
one over tokens of the same kinds fails at a token of the same kind. -/
theorem evaluateFrom_of_read_none {ts us : List Token} {es : List Expr} (endOffset endOffset' : Nat)
    (a : Arena) (hkind : us.map Token.kind = ts.map Token.kind)
    (h : Expr.read (ts.map Token.kind) es = none) :
    ∃ t ∈ ts, ∃ u ∈ us, u.kind = t.kind ∧
      (evaluateFrom endOffset (Expr.buildAll a es).2 (Expr.buildAll a es).1
        ts).outcome.result = .error (evaluationError t) ∧
      (evaluateFrom endOffset' (Expr.buildAll a es).2 (Expr.buildAll a es).1
        us).outcome.result = .error (evaluationError u) := by
  induction ts generalizing us es with
  | nil => cases h
  | cons t ts ih =>
      obtain ⟨u, us, rfl, hu, hus⟩ := List.map_eq_cons_iff.mp hkind
      simp only [evaluateFrom, evaluateToken_buildAll, hu]
      rw [List.map_cons, Expr.read] at h
      -- The kinds alone decide whether this token fails or the rest does.
      cases hpush : Expr.push t.kind es with
      | none => exact ⟨t, List.mem_cons_self, u, List.mem_cons_self, hu, rfl, rfl⟩
      | some mid =>
          rw [hpush] at h
          obtain ⟨t', ht', u', hu', hkind', herror, herror'⟩ := ih hus h
          exact ⟨t', List.mem_cons_of_mem t ht', u', List.mem_cons_of_mem u hu', hkind', herror,
            herror'⟩

/-- Evaluating the tokens of an expression in postfix order builds the expression. -/
theorem evaluate_of_postorder {ts : List Token} {e : Expr} (a : Arena) (endOffset : Nat)
    (h : ts.map Token.kind = e.postorder) :
    (a.evaluate ts endOffset).arena = (e.build a).arena ∧
      (a.evaluate ts endOffset).outcome.result = .ok (e.build a).fragment := by
  have hread : Expr.read (ts.map Token.kind) [] = some [e] := by
    rw [h, Expr.read_postorder_self]
  exact evaluateFrom_of_read endOffset a hread

/-- Only the postfix order of an expression is evaluated to a fragment. -/
theorem exists_postorder_of_evaluate {ts : List Token} {a : Arena} {endOffset : Nat}
    {f : Fragment} (h : (a.evaluate ts endOffset).outcome.result = .ok f) :
    ∃ e : Expr, ts.map Token.kind = e.postorder := by
  cases hread : Expr.read (ts.map Token.kind) [] with
  | none =>
      obtain ⟨t, -, u, -, -, herror, -⟩ := evaluateFrom_of_read_none endOffset 0 a rfl hread
      have hresult := herror.symm.trans h
      cases hresult
  | some es =>
      have hresult := (evaluateFrom_of_read endOffset a hread).2.symm.trans h
      have horder := Expr.postorders_of_read hread
      -- Only a stack of one fragment is a result, and the tokens read are those of its expression.
      rcases es with _ | ⟨e, _ | ⟨e', es⟩⟩
      · cases hresult
      · exact ⟨e, by simpa [Expr.postorders] using horder.symm⟩
      · cases hresult

end Arena

end PatternNfa
