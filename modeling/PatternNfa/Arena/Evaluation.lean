import PatternNfa.Arena
import PatternNfa.Error
import PatternNfa.Log

/-!
# `PatternNfa.Arena.Evaluation`: the fragment of tokens in postfix order

Tokens in postfix order are evaluated over a stack of fragments. A symbol pushes a new fragment and
an operator replaces the topmost ones by the fragment that it builds from them. In the end a single
fragment has to be left.

An operator without enough operands, and a parenthesis, ends the evaluation before it touches the
arena. Every fragment on the stack was built here, so its states exist and no construction stops
early (`Built.missing`). Each token is reported before it is evaluated.
-/

set_option autoImplicit false

namespace PatternNfa

namespace Arena

/-- Evaluates one token over the stack, topmost fragment first. -/
def evaluateToken (a : Arena) (stack : List Fragment) (t : Token) :
    Except CompileError (List Fragment × Arena) :=
  let push := fun (built : Built) (below : List Fragment) =>
    Except.ok (built.fragment :: below, built.arena)
  -- The operand read last is on top of the stack, so it is the right one.
  match t.kind, stack with
  | .symbol c, below => push (a.literal c) below
  | .concat, right :: left :: below => push (a.concatenate left right) below
  | .union, right :: left :: below => push (a.union left right) below
  | .star, inner :: below => push (a.closure inner) below
  | .leftParen, _ => .error (.parsing (.unmatchedParenthesis t.offset))
  | .rightParen, _ => .error (.parsing (.unmatchedParenthesis t.offset))
  | .concat, _ => .error (.missingOperand (some t.char) t.offset)
  | .union, _ => .error (.missingOperand (some t.char) t.offset)
  | .star, [] => .error (.missingOperand (some t.char) t.offset)

/-- The single fragment that has to be left on the stack after the last token. -/
def single (endOffset : Nat) : List Fragment → Except CompileError Fragment
  | [] => .error (.missingOperand none endOffset)
  | [fragment] => .ok fragment
  | stack => .error (.excessOperands stack.length)

/-- What an evaluation leaves: the arena, with everything built until the end or the failure, and
the outcome with its records. -/
structure Evaluation where
  arena : Arena
  outcome : Logged CompileError Fragment
deriving Repr, Inhabited

/-- The evaluation with a record in front of the others. -/
def Evaluation.afterRecord (e : Evaluation) (r : Log.Record) : Evaluation :=
  { e with outcome := { e.outcome with records := r :: e.outcome.records } }

/-- Evaluates the tokens over a stack. -/
def evaluateFrom (endOffset : Nat) (a : Arena) (stack : List Fragment) :
    List Token → Evaluation
  | [] => { arena := a, outcome := .ofExcept (single endOffset stack) }
  | t :: ts =>
      let rest : Evaluation :=
        match a.evaluateToken stack t with
        | .error e => { arena := a, outcome := .ofExcept (.error e) }
        | .ok (stack, a) => evaluateFrom endOffset a stack ts
      rest.afterRecord { level := .trace, event := .evaluating t }

/-- Evaluates the tokens. A failure for want of any operand at all is placed at `endOffset`. -/
def evaluate (a : Arena) (ts : List Token) (endOffset : Nat) : Evaluation :=
  evaluateFrom endOffset a [] ts

end Arena

end PatternNfa
