import PatternNfa.Text.Quoted

/-!
# `PatternNfa.Error`: why a pattern is rejected

A pattern fails in one of two halves. Reading it stops at a character that means nothing or at a
parenthesis without a partner (`ParseError`). Building the automaton stops at an operator that
lacks an operand, at the end if nothing was built, or at the end if several pieces are left over
(`CompileError`, which also carries the failures of the first half).
-/

set_option autoImplicit false

namespace PatternNfa

/-- Why the tokens of a pattern cannot be put in order. Offsets count bytes. -/
inductive ParseError where
  /-- The character at the offset is no part of a pattern. -/
  | invalidCharacter (character : Char) (offset : Nat)
  /-- The parenthesis at the offset has no partner. -/
  | unmatchedParenthesis (offset : Nat)
deriving DecidableEq, Repr, Inhabited

namespace ParseError

/-- Where the error stands. -/
def offset : ParseError → Nat
  | invalidCharacter _ offset => offset
  | unmatchedParenthesis offset => offset

/-- The number by which diagnostics name the kind of error. -/
def code : ParseError → Nat
  | invalidCharacter _ _ => 1
  | unmatchedParenthesis _ => 2

/-- The error in words. -/
def message : ParseError → String
  | invalidCharacter c offset => s!"invalid character {Text.quoteChar c} at offset {offset}"
  | unmatchedParenthesis offset => s!"unmatched parenthesis at offset {offset}"

end ParseError

/-- Why a pattern has no automaton. -/
inductive CompileError where
  /-- The tokens cannot be put in order. -/
  | parsing (cause : ParseError)
  /-- The operator at the offset lacks an operand, or, without an operator, nothing at all is left
  at the end of the expression. -/
  | missingOperand (operator : Option Char) (offset : Nat)
  /-- Several fragments, and so no single automaton, are left at the end. -/
  | excessOperands (count : Nat)
deriving DecidableEq, Repr, Inhabited

namespace CompileError

/-- Where the error stands, if it stands anywhere. -/
def offset? : CompileError → Option Nat
  | parsing cause => some cause.offset
  | missingOperand _ offset => some offset
  | excessOperands _ => none

/-- The number by which diagnostics name the kind of error. -/
def code : CompileError → Nat
  | parsing cause => cause.code
  | missingOperand _ _ => 3
  | excessOperands _ => 4

/-- The error in words. -/
def message : CompileError → String
  | parsing cause => cause.message
  | missingOperand (some operator) _ => s!"missing operand for {Text.quoteChar operator}"
  | missingOperand none _ => "missing operand at end of expression"
  | excessOperands count => s!"{count} fragments left after evaluation, expected one"

end CompileError

end PatternNfa
