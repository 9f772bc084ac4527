import Mathlib.Computability.Language
import PatternNfa.Token

/-!
# `PatternNfa.Proofs.Grammar`: which texts are patterns, and what they mean

The grammar has four levels. An expression is a row of terms with bars between them, a term is a
row of factors, a factor is an atom with stars after it, and an atom is a symbol or an expression
between parentheses. The factors of a term stand next to each other or have dots between them;
both grammars are one relation with a parameter.

`Derives` ties a text to the tree that it spells, an `Expr`, which knows no parentheses any more.
Rows are built from the left, so that every row associates to the left. `Expr.language` says which
words the tree stands for, and `Expr.postorder` in which order its tokens come once the operators
stand behind their operands.
-/

set_option autoImplicit false

namespace PatternNfa

open Computability

/-- What a pattern says, without the parentheses that it takes to say it. -/
inductive Expr where
  | symbol (c : Char)
  | concat (left right : Expr)
  | union (left right : Expr)
  | star (inner : Expr)
deriving DecidableEq, Repr, Inhabited

namespace Expr

/-- The words that an expression stands for. -/
def language : Expr → Language Char
  | symbol c => {[c]}
  | concat left right => left.language * right.language
  | union left right => left.language + right.language
  | star inner => inner.language∗

/-- The tokens of an expression with each operator behind its operands. -/
def postorder : Expr → List Kind
  | symbol c => [.symbol c]
  | concat left right => left.postorder ++ right.postorder ++ [.concat]
  | union left right => left.postorder ++ right.postorder ++ [.union]
  | star inner => inner.postorder ++ [.star]

end Expr

/-- The levels of the grammar, the one that binds least first. -/
inductive Level where
  | expr
  | term
  | factor
  | atom
deriving DecidableEq, Repr, Inhabited

/-- What stands between two factors of a term. -/
def juxtaposition (explicitConcat : Bool) : List Char :=
  if explicitConcat then ['.'] else []

/-- The text is derived from a level of the grammar, and this is its tree. -/
inductive Derives (explicitConcat : Bool) : Level → List Char → Expr → Prop where
  | union {u v : List Char} {l r : Expr} :
      Derives explicitConcat .expr u l → Derives explicitConcat .term v r →
      Derives explicitConcat .expr (u ++ '|' :: v) (.union l r)
  | ofTerm {u : List Char} {e : Expr} :
      Derives explicitConcat .term u e → Derives explicitConcat .expr u e
  | concat {u v : List Char} {l r : Expr} :
      Derives explicitConcat .term u l → Derives explicitConcat .factor v r →
      Derives explicitConcat .term (u ++ juxtaposition explicitConcat ++ v) (.concat l r)
  | ofFactor {u : List Char} {e : Expr} :
      Derives explicitConcat .factor u e → Derives explicitConcat .term u e
  | star {u : List Char} {e : Expr} :
      Derives explicitConcat .factor u e → Derives explicitConcat .factor (u ++ ['*']) (.star e)
  | ofAtom {u : List Char} {e : Expr} :
      Derives explicitConcat .atom u e → Derives explicitConcat .factor u e
  | symbol {c : Char} :
      Text.isAlphanumeric c = true → Derives explicitConcat .atom [c] (.symbol c)
  | group {u : List Char} {e : Expr} :
      Derives explicitConcat .expr u e → Derives explicitConcat .atom ('(' :: u ++ [')']) e

end PatternNfa
