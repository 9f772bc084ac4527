import PatternNfa.Arena.Evaluation

/-!
# `PatternNfa.Arena.Construction`: constructions on an arena, one at a time

The constructions can be asked for by hand, with fragments of any state ids. Such an operation
fails where it would add a transition to a state that does not exist, or where an evaluation
fails. The arena keeps what was done before the failure, and the next operation goes on from
there.
-/

set_option autoImplicit false

namespace PatternNfa

/-- Something that can be done to an arena. -/
inductive Operation where
  | literal (c : Char)
  | concatenate (left right : Fragment)
  | union (left right : Fragment)
  | closure (inner : Fragment)
  | evaluate (tokens : List Token) (endOffset : Nat)
deriving DecidableEq, Repr, Inhabited

/-- Why an operation has no fragment to show. -/
inductive OperationError where
  /-- A transition should leave from a state that does not exist. -/
  | missingState (id : StateId)
  /-- The evaluation of the tokens failed. -/
  | evaluation (cause : CompileError)
deriving DecidableEq, Repr, Inhabited

/-- What an operation leaves. -/
structure Operation.Outcome where
  arena : Arena
  records : List Log.Record
  result : Except OperationError Fragment
deriving Repr, Inhabited

/-- The outcome of a construction: its fragment, unless it stopped early. -/
def Built.outcome (built : Built) : Operation.Outcome :=
  { arena := built.arena
    records := []
    result :=
      match built.missing with
      | none => .ok built.fragment
      | some id => .error (.missingState id) }

/-- Does the operation to an arena. -/
def Operation.apply (a : Arena) : Operation → Operation.Outcome
  | literal c => (a.literal c).outcome
  | concatenate left right => (a.concatenate left right).outcome
  | union left right => (a.union left right).outcome
  | closure inner => (a.closure inner).outcome
  | evaluate tokens endOffset =>
      let evaluation := a.evaluate tokens endOffset
      { arena := evaluation.arena
        records := evaluation.outcome.records
        result := evaluation.outcome.result.mapError .evaluation }

end PatternNfa
