import PatternNfa.CommandLine.Arguments
import PatternNfa.CommandLine.Logging
import PatternNfa.Diagnostic
import PatternNfa.Nfa.Drawing
import PatternNfa.Nfa.Listing

/-!
# `PatternNfa.CommandLine`: one run of the program

A run compiles one pattern and prints its listing, or its drawing. The pattern is the argument
that is no option, or else the first line of the standard input. Everything else that a run does
follows from the options, so `Environment.runOn` is a function from the options and a pattern to an
exit code and the texts on both output streams.

What the program does not decide itself is the `Environment` of the run: who reads its arguments,
who writes its log, and whether its texts are coloured.

Any `-v` makes the stages report at `info` level, so that two are enough to see them.
-/

set_option autoImplicit false

namespace PatternNfa.CommandLine

/-- The first line of a text without the line feeds and carriage returns at its end. -/
def firstLine (input : String) : String :=
  let line := input.toList.takeWhile (· != '\n')
  String.ofList (line.reverse.dropWhile (· == '\r')).reverse

/-- What a run prints for an automaton. The drawing of a compiled automaton always exists. -/
def Options.print (options : Options) (nfa : Nfa) : String :=
  if options.dot then
    match nfa.dot? with
    | some text => text ++ "\n"
    | none => ""
  else nfa.listing

/-- What a run is given by its surroundings. -/
structure Environment where
  /-- Whether texts are coloured. -/
  coloured : Bool
  /-- Reads the arguments. -/
  arguments : ArgumentReader
  /-- Writes the log. -/
  log : LogWriter

namespace Environment

/-- The record of a compiled automaton. -/
def summary (env : Environment) (nfa : Nfa) : Log.Record :=
  { level := .info, event := .summarized (nfa.summary env.coloured) }

/-- Runs the program on a pattern. -/
def runOn (env : Environment) (options : Options) (pattern : String) : Outcome :=
  let compiled := Nfa.compileLogged options.flags pattern
  match compiled.result with
  | .ok nfa =>
      { exitCode := 0
        stdout := options.print nfa
        stderr := env.log.opening ++
          env.log.text options.verbosity (compiled.records ++ [env.summary nfa]) }
  | .error e =>
      { exitCode := 1
        stdout := ""
        stderr := env.log.opening ++ env.log.text options.verbosity compiled.records ++
          e.diagnostic env.coloured pattern ++ "\n" }

/-- Runs the program on its arguments and its standard input. -/
def run (env : Environment) (arguments : List String) (stdin : String) : Outcome :=
  match env.arguments.read arguments with
  | .error outcome => outcome
  | .ok options => env.runOn options (options.pattern?.getD (firstLine stdin))

/-- Reads and writes without a library, and without colours. -/
def plain : Environment where
  coloured := false
  arguments := .plain
  log := .plain

end Environment

/-- Runs the program in plain surroundings. -/
def run : List String → String → Outcome := Environment.plain.run

end PatternNfa.CommandLine
