import PatternNfa.CommandLine

/-!
# `PatternNfa.Main`: the program

Reads the arguments, and a line of the standard input if they hold no pattern, and passes the
outcome of the run on.
-/

set_option autoImplicit false

open PatternNfa in
/-- The program. -/
def main (arguments : List String) : IO UInt32 := do
  let needsInput :=
    match CommandLine.Environment.plain.arguments.read arguments with
    | .ok options => options.pattern?.isNone
    | .error _ => false
  let stdin ← if needsInput then (← IO.getStdin).getLine else pure ""
  let outcome := CommandLine.run arguments stdin
  IO.print outcome.stdout
  IO.eprint outcome.stderr
  return outcome.exitCode.toUInt32
