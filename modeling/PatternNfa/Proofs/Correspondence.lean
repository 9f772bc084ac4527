import Mathlib.Data.List.Forall2
import PatternNfa.Proofs.Postfix

/-!
# `PatternNfa.Proofs.Correspondence`: two runs over tokens that correspond

Putting tokens into postfix order looks at their kinds and at nothing else. Offsets and symbols are
carried along. So let two token lists correspond token by token, in any way that keeps kinds. Then
both runs take the same branch for every token. They send out tokens that correspond, and if they
fail, they fail over parentheses that correspond (`toPostfixFrom_related`).

What the correspondence is good for is up to the caller: a token with dots before it or without, or
a token and its place in the list.
-/

set_option autoImplicit false

namespace PatternNfa

/-- Both computations succeed with results that are related, or both fail with related errors. -/
inductive Related {ε α : Type} (E : ε → ε → Prop) (A : α → α → Prop) :
    Except ε α → Except ε α → Prop where
  | ok {a b : α} : A a b → Related E A (.ok a) (.ok b)
  | error {e f : ε} : E e f → Related E A (.error e) (.error f)

/-- Results stay related if they are mapped by functions that agree on related values. -/
theorem Related.map {ε α β : Type} {E : ε → ε → Prop} {A : α → α → Prop} {B : β → β → Prop}
    {x y : Except ε α} {f g : α → β} (h : Related E A x y)
    (hfg : ∀ a b, A a b → B (f a) (g b)) : Related E B (x.map f) (y.map g) := by
  cases h with
  | ok hab => exact .ok (hfg _ _ hab)
  | error hef => exact .error hef

/-- Related results are both fine or both failures. -/
theorem Related.exists_or {ε α : Type} {E : ε → ε → Prop} {A : α → α → Prop}
    {x y : Except ε α} (h : Related E A x y) :
    (∃ a b, x = .ok a ∧ y = .ok b ∧ A a b) ∨ ∃ e f, x = .error e ∧ y = .error f ∧ E e f := by
  cases h with
  | ok hab => exact .inl ⟨_, _, rfl, rfl, hab⟩
  | error hef => exact .inr ⟨_, _, rfl, rfl, hef⟩

namespace Token

variable {R : Token → Token → Prop}

/-- The relation only relates tokens of the same kind. -/
def KeepsKind (R : Token → Token → Prop) : Prop := ∀ t u, R t u → u.kind = t.kind

/-- Both errors are about parentheses, and the parentheses are related. -/
inductive UnmatchedAlike (R : Token → Token → Prop) : ParseError → ParseError → Prop where
  | unmatchedParenthesis {t u : Token} : t.kind.isParen = true → R t u →
      UnmatchedAlike R (.unmatchedParenthesis t.offset) (.unmatchedParenthesis u.offset)

/-- Lists that are related token by token have the same kinds. -/
theorem map_kind_of_forall₂ (hR : KeepsKind R) {ts us : List Token} (h : List.Forall₂ R ts us) :
    us.map kind = ts.map kind := by
  induction h with
  | nil => rfl
  | cons ht _ ih => rw [List.map_cons, List.map_cons, hR _ _ ht, ih]

/-- Stacks that are related are emptied to related tokens, or at parentheses that are alike. -/
theorem flush_related (hR : KeepsKind R) {stack stack' : List Token}
    (h : List.Forall₂ R stack stack') :
    Related (UnmatchedAlike R) (List.Forall₂ R) (flush stack) (flush stack') := by
  induction h with
  | nil => exact .ok .nil
  | cons ht _ ih =>
      rw [flush, flush, hR _ _ ht]
      split
      · rename_i hparen
        exact .error (.unmatchedParenthesis (by rw [hparen]; rfl) ht)
      · exact ih.map fun _ _ => .cons ht

/-- Stacks that correspond are closed at the same place, if anywhere. -/
theorem closeGroup?_related (hR : KeepsKind R) {stack stack' : List Token}
    (h : List.Forall₂ R stack stack') :
    (closeGroup? stack = none ∧ closeGroup? stack' = none) ∨
      ∃ inner outer inner' outer', closeGroup? stack = some (inner, outer) ∧
        closeGroup? stack' = some (inner', outer') ∧ List.Forall₂ R inner inner' ∧
        List.Forall₂ R outer outer' := by
  induction h with
  | nil => exact .inl ⟨rfl, rfl⟩
  | @cons t u stack stack' ht hstack ih =>
      rw [closeGroup?, closeGroup?, hR _ _ ht]
      split
      · exact .inr ⟨[], stack, [], stack', rfl, rfl, .nil, hstack⟩
      · rcases ih with ⟨hnone, hnone'⟩ | ⟨inner, outer, inner', outer', hsome, hsome', hin, hout⟩
        · rw [hnone, hnone']
          exact .inl ⟨rfl, rfl⟩
        · rw [hsome, hsome']
          exact .inr ⟨t :: inner, outer, u :: inner', outer', rfl, rfl, .cons ht hin, hout⟩

/-- An operator sends out the same part of stacks that correspond. -/
theorem span_related (hR : KeepsKind R) {t u : Token} (htu : R t u) {stack stack' : List Token}
    (h : List.Forall₂ R stack stack') :
    List.Forall₂ R (stack.takeWhile (binds t)) (stack'.takeWhile (binds u)) ∧
      List.Forall₂ R (stack.dropWhile (binds t)) (stack'.dropWhile (binds u)) := by
  have hprecedence : ∀ t u, R t u → u.precedence = t.precedence := by
    intro t u htu
    rw [precedence, precedence, char, char, hR t u htu]
  induction h with
  | nil => exact ⟨.nil, .nil⟩
  | @cons top top' stack stack' htop hstack ih =>
      have hbinds : binds u top' = binds t top := by
        rw [binds, binds, hprecedence t u htu, hprecedence top top' htop]
      rw [List.takeWhile_cons, List.takeWhile_cons, List.dropWhile_cons, List.dropWhile_cons,
        hbinds]
      cases binds t top with
      | false => exact ⟨.nil, .cons htop hstack⟩
      | true => exact ⟨.cons htop ih.1, ih.2⟩

/-- Tokens that correspond are put into the same postfix order, or fail over parentheses that
correspond. -/
theorem toPostfixFrom_related (hR : KeepsKind R) {ts us stack stack' : List Token}
    (hstack : List.Forall₂ R stack stack') (h : List.Forall₂ R ts us) :
    Related (UnmatchedAlike R) (List.Forall₂ R) (toPostfixFrom stack ts)
      (toPostfixFrom stack' us) := by
  -- Both runs look at kinds only, so they take the same branch for every token, and what they put
  -- on the stack and send out corresponds.
  induction h generalizing stack stack' with
  | nil => exact flush_related hR hstack
  | @cons t u ts us htu _ ih =>
      have hkind : u.kind = t.kind := hR t u htu
      rcases t.kind.symbol_or_paren_or_operator with ⟨c, ht⟩ | ht | ht | ht
      · rw [toPostfixFrom_symbol ht, toPostfixFrom_symbol (hkind.trans ht)]
        exact (ih hstack).map fun _ _ => .cons htu
      · rw [toPostfixFrom_leftParen ht, toPostfixFrom_leftParen (hkind.trans ht)]
        exact ih (.cons htu hstack)
      · rw [toPostfixFrom_rightParen ht, toPostfixFrom_rightParen (hkind.trans ht)]
        rcases closeGroup?_related hR hstack with
          ⟨hnone, hnone'⟩ | ⟨inner, outer, inner', outer', hsome, hsome', hin, hout⟩
        · rw [hnone, hnone']
          exact .error (.unmatchedParenthesis (by rw [ht]; rfl) htu)
        · rw [hsome, hsome']
          exact (ih hout).map fun _ _ hrest => List.rel_append hin hrest
      · have ht' : u.kind.isOperator = true := by rw [hkind, ht]
        obtain ⟨htake, hdrop⟩ := span_related hR htu hstack
        rw [toPostfixFrom_operator ht, toPostfixFrom_operator ht']
        exact (ih (.cons htu hdrop)).map fun _ _ hrest => List.rel_append htake hrest

end Token

end PatternNfa
