import PatternNfa.Error
import PatternNfa.Token

/-!
# `PatternNfa.Token.Postfix`: operators after their operands

Tokens in infix order are put into postfix order with a stack of waiting operators and open groups.
A symbol goes straight to the output. An operator first sends out the waiting ones that bind at
least as tightly as it does, so that equal ones associate to the left, and then waits. A closing
parenthesis sends out all that waits inside its group, and the end of the input all that waits at
all. An open group binds less tightly than every operator, so nothing is sent out past it.

A parenthesis without a partner is an error: a closing one where it stands, an opening one at the
end, the last one first. Whether operators have operands is not looked at here.
-/

set_option autoImplicit false

namespace PatternNfa

/-- How tightly an operator binds: closure before concatenation before union, and all of them
before any other character. -/
def precedence (operator : Char) : Nat :=
  match operator with
  | '*' => 3
  | '.' => 2
  | '|' => 1
  | _ => 0

namespace Token

/-- How tightly the token binds. -/
def precedence (t : Token) : Nat := PatternNfa.precedence t.char

/-- Splits the stack at its last open group: the operators above the opening parenthesis, in the
order in which they are sent out, and the stack below it. -/
def closeGroup? : List Token → Option (List Token × List Token)
  | [] => none
  | t :: stack =>
      if t.kind = .leftParen then some ([], stack)
      else (closeGroup? stack).map fun (inner, outer) => (t :: inner, outer)

/-- Sends out the whole stack. No group may be open. -/
def flush : List Token → Except ParseError (List Token)
  | [] => .ok []
  | t :: stack =>
      if t.kind = .leftParen then .error (.unmatchedParenthesis t.offset)
      else (flush stack).map (t :: ·)

/-- The postfix order of the tokens that are still to come, over the stack of those that wait. -/
def toPostfixFrom : List Token → List Token → Except ParseError (List Token)
  | stack, [] => flush stack
  | stack, t :: ts =>
      match t.kind with
      | .symbol _ => (toPostfixFrom stack ts).map (t :: ·)
      | .leftParen => toPostfixFrom (t :: stack) ts
      | .rightParen =>
          -- The parentheses of the group are dropped: the order says what they said.
          match closeGroup? stack with
          | none => .error (.unmatchedParenthesis t.offset)
          | some (inner, outer) => (toPostfixFrom outer ts).map (inner ++ ·)
      | .union | .star | .concat =>
          -- An opening parenthesis binds least of all, so the search ends there.
          let binds := fun top : Token => decide (t.precedence ≤ top.precedence)
          (toPostfixFrom (t :: stack.dropWhile binds) ts).map (stack.takeWhile binds ++ ·)

/-- The tokens in postfix order. -/
def toPostfix (ts : List Token) : Except ParseError (List Token) := toPostfixFrom [] ts

end Token

end PatternNfa
