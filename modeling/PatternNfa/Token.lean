import PatternNfa.Text.Alphanumeric

/-!
# `PatternNfa.Token`: the tokens of a pattern

A pattern is a sequence of tokens: symbols, which the automaton reads, two parentheses, and the
operators for union, closure and concatenation. Each token is one character of the pattern and
keeps the byte offset at which it stands, so that later stages can point at it.

`Kind.ofChar?_char` says that an operator's character is read back as that operator.
-/

set_option autoImplicit false

namespace PatternNfa

/-- What a token stands for. A symbol may hold any character, although scanning a pattern only
yields alphanumeric ones. -/
inductive Kind where
  | symbol (c : Char)
  | leftParen
  | rightParen
  | union
  | star
  | concat
deriving DecidableEq, Repr, Inhabited

namespace Kind

/-- The character that a token of this kind is written as. -/
def char : Kind → Char
  | symbol c => c
  | leftParen => '('
  | rightParen => ')'
  | union => '|'
  | star => '*'
  | concat => '.'

/-- The token that is a symbol. -/
def isSymbol : Kind → Bool
  | symbol _ => true
  | _ => false

/-- The token that opens or closes a group. -/
def isParen : Kind → Bool
  | leftParen | rightParen => true
  | _ => false

/-- The kind that a character of a pattern stands for, if it is allowed there. The dot is a
concatenation where concatenations are written out, and not allowed elsewhere. -/
def ofChar? (explicitConcat : Bool) (c : Char) : Option Kind :=
  match c with
  | '(' => some leftParen
  | ')' => some rightParen
  | '|' => some union
  | '*' => some star
  | '.' => if explicitConcat then some concat else none
  | c => if Text.isAlphanumeric c then some (symbol c) else none

/-- A kind that is no symbol is read back from its character where concatenations are written
out. -/
theorem ofChar?_char : ∀ {k : Kind}, k.isSymbol = false → ofChar? true k.char = some k
  | leftParen, _ => rfl
  | rightParen, _ => rfl
  | union, _ => rfl
  | star, _ => rfl
  | concat, _ => rfl

end Kind

/-- A token of a pattern and the byte offset at which it stands. A concatenation that the pattern
leaves unwritten has the offset of the token after it. -/
structure Token where
  kind : Kind
  offset : Nat
deriving DecidableEq, Repr, Inhabited

namespace Token

/-- The character that the token is written as. -/
def char (t : Token) : Char := t.kind.char

/-- The characters of several tokens in a row. -/
def text (ts : List Token) : String := String.ofList (ts.map char)

end Token

end PatternNfa
