import PatternNfa.Arena.Evaluation
import PatternNfa.Parse

/-!
# `PatternNfa.Nfa`: the automaton of a pattern

Compiling a pattern puts its tokens into postfix order and evaluates them in an empty arena. The
automaton is that arena with the two states of the fragment that is left, where it starts and
where it accepts.

`compile_eq` says what is left of a compilation without its reports.
-/

set_option autoImplicit false

namespace PatternNfa

/-- A nondeterministic finite automaton with epsilon transitions. -/
structure Nfa where
  /-- The pattern that the automaton was made for. -/
  pattern : String
  arena : Arena
  start : StateId
  accept : StateId
deriving DecidableEq, Repr, Inhabited

/-- The automaton that starts and accepts where the fragment starts and stops. -/
def Arena.finish (a : Arena) (pattern : String) (fragment : Fragment) : Nfa :=
  { pattern, arena := a, start := fragment.start, accept := fragment.stop }

namespace Nfa

/-- The automaton of a pattern, with the reports of all stages. -/
def compileLogged (flags : Flags) (pattern : String) : Logged CompileError Nfa := do
  let ordered ← (parse flags pattern).mapError .parsing
  let evaluation := Arena.evaluate {} ordered pattern.utf8ByteSize
  let fragment ← evaluation.outcome
  let nfa := evaluation.arena.finish pattern fragment
  Logged.report flags.stageLevel (.compiled pattern nfa.arena.size nfa.start nfa.accept)
  return nfa

/-- The automaton of a pattern. -/
def compile (flags : Flags) (pattern : String) : Except CompileError Nfa :=
  (compileLogged flags pattern).result

/-- A pattern is parsed, then its tokens are evaluated in an empty arena, and the fragment that is
left is the automaton. -/
theorem compile_eq (flags : Flags) (pattern : String) :
    compile flags pattern =
      match (parse flags pattern).result with
      | .error e => .error (.parsing e)
      | .ok ordered =>
          let evaluation := Arena.evaluate {} ordered pattern.utf8ByteSize
          evaluation.outcome.result.map (evaluation.arena.finish pattern) := by
  simp only [compile, compileLogged, Logged.result_bind, Logged.result_mapError,
    Logged.result_report, Logged.result_pure]
  cases (parse flags pattern).result with
  | error e => rfl
  | ok ordered =>
      show (Arena.evaluate {} ordered pattern.utf8ByteSize).outcome.result.bind _ =
        (Arena.evaluate {} ordered pattern.utf8ByteSize).outcome.result.map _
      cases (Arena.evaluate {} ordered pattern.utf8ByteSize).outcome.result <;> rfl

end Nfa

end PatternNfa
