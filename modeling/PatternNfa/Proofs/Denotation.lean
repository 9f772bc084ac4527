import PatternNfa.Proofs.Acceptance
import PatternNfa.Proofs.Recognition

/-!
# `PatternNfa.Proofs.Denotation`: what tokens in postfix order mean

Tokens in postfix order have a meaning without any automaton and without any expression: each of
them acts on a stack of languages (`Kind.applyTo`). The evaluation acts on a stack of fragments in
the same way. Between the two stands a stack of expressions, which both of them interpret: reading
the tokens commutes with taking languages (`map_language_read`) as it commutes with building
(`evaluateFrom_of_read`). So an evaluation succeeds exactly if one language is left in the end, and
its fragment accepts that language (`evaluate_language`).

None of this looks at what was in the arena before, nor asks that its targets exist.
-/

set_option autoImplicit false

namespace PatternNfa

open Computability

/-- What a token does to a stack of languages, topmost first, if there are enough of them. The
operand read last is on top, so it is the right one. -/
def Kind.applyTo : Kind → List (Language Char) → Option (List (Language Char))
  | .symbol c, stack => some ({[c]} :: stack)
  | .concat, right :: left :: stack => some (left * right :: stack)
  | .union, right :: left :: stack => some ((left + right) :: stack)
  | .star, inner :: stack => some (inner∗ :: stack)
  | _, _ => none

/-- What tokens in postfix order leave of a stack of languages. -/
def Token.languages (ts : List Token) (stack : List (Language Char)) :
    Option (List (Language Char)) :=
  ts.foldlM (fun stack t => t.kind.applyTo stack) stack

namespace Expr

/-- A token makes of the languages of some expressions those of the expressions that it makes. -/
theorem map_language_push (k : Kind) (es : List Expr) :
    (push k es).map (List.map language) = k.applyTo (es.map language) := by
  cases k with
  | symbol c => rfl
  | leftParen => cases es <;> rfl
  | rightParen => cases es <;> rfl
  | star => cases es <;> rfl
  | union | concat =>
      match es with
      | [] => rfl
      | [_] => rfl
      | _ :: _ :: _ => rfl

/-- So do tokens in a row. -/
theorem map_language_read (ts : List Token) (es : List Expr) :
    (read (ts.map Token.kind) es).map (List.map language) =
      Token.languages ts (es.map language) := by
  induction ts generalizing es with
  | nil => rfl
  | cons t ts ih =>
      rw [Token.languages, List.foldlM_cons, ← map_language_push, List.map_cons, read]
      cases push t.kind es with
      | none => rfl
      | some es' => exact ih es'

end Expr

namespace Arena

/-- An evaluation that succeeds gives a fragment that accepts the one language that its tokens leave
of the empty stack, whatever was in the arena before; and it succeeds whenever the tokens leave one
language. The symbols may be any characters. -/
theorem evaluate_language (a : Arena) (ts : List Token) (endOffset : Nat) :
    (∀ f, (a.evaluate ts endOffset).outcome.result = .ok f →
      ∃ L, Token.languages ts [] = some [L] ∧ ∀ pattern input,
        ((a.evaluate ts endOffset).arena.finish pattern f).accepts input = true ↔
          input.toList ∈ L) ∧
    ∀ L, Token.languages ts [] = some [L] →
      ∃ f, (a.evaluate ts endOffset).outcome.result = .ok f := by
  constructor
  · intro f hf
    obtain ⟨e, he⟩ := exists_postorder_of_evaluate hf
    obtain ⟨harena, hresult⟩ := evaluate_of_postorder a endOffset he
    cases hf.symm.trans hresult
    refine ⟨e.language, ?_, fun pattern input => ?_⟩
    · have hread := Expr.map_language_read ts []
      rw [he, Expr.read_postorder_self] at hread
      exact hread.symm
    · rw [Nfa.accepts_iff_path, harena]
      exact build_recognizes a e input.toList
  · intro L hL
    rw [← List.map_nil (f := Expr.language), ← Expr.map_language_read,
      Option.map_eq_some_iff] at hL
    obtain ⟨es, hread, hes⟩ := hL
    obtain ⟨e, rfl, -⟩ := List.map_eq_singleton_iff.mp hes
    exact ⟨_, (evaluateFrom_of_read endOffset a hread).2⟩

/-- The arena has a state already that leads to two of the states of the evaluation. -/
theorem evaluate_language_of_used_arena :
    let a : Arena := { states := [{ epsilon := [1, 5] }] }
    let ts : List Token := [⟨.symbol '(', 0⟩, ⟨.symbol 'b', 1⟩, ⟨.union, 2⟩, ⟨.star, 3⟩]
    let L : Language Char := ({['(']} + {['b']})∗
    (∃ f, (a.evaluate ts 4).outcome.result = .ok f) ∧
      (a.evaluate ts 4).outcome.result = .ok ⟨7, 8⟩ ∧ Token.languages ts [] = some [L] ∧
      ∀ pattern input, ((a.evaluate ts 4).arena.finish pattern ⟨7, 8⟩).accepts input = true ↔
        input.toList ∈ L := by
  intro a ts L
  obtain ⟨hsound, hsucceeds⟩ := a.evaluate_language ts 4
  have hresult : (a.evaluate ts 4).outcome.result = .ok ⟨7, 8⟩ := by decide
  obtain ⟨L', hL', haccepts⟩ := hsound ⟨7, 8⟩ hresult
  cases hL'
  exact ⟨hsucceeds L rfl, hresult, rfl, haccepts⟩

end Arena

end PatternNfa
