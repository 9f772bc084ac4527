import PatternNfa.Log

/-!
# `PatternNfa.CommandLine.Logging`: the log of a run

The more often `-v` is given, the more of the log a run shows on the error stream. Writing it there
is the work of a `LogWriter`, which may be any that filters by level: for every number of `-v` there
is a last level that it shows, a record up to that level has a line of its own, and all others are
passed over. Without `-v` it shows errors only, and another `-v` never makes it show less.

A log may also fail to open. A run says so and goes on without it.

`LogWriter.plain` is a writer of that sort.
-/

set_option autoImplicit false

namespace PatternNfa.CommandLine

/-- Writes the log of a run to the error stream, whatever it is made of. -/
structure LogWriter where
  /-- Why the log cannot be opened, if it cannot. -/
  failure? : Option String
  /-- What a record leaves on the error stream with so many `-v`. -/
  write : Nat → Log.Record → String
  /-- The last level that is shown with so many `-v`. -/
  level : Nat → Log.Level
  /-- A record as it is shown. -/
  line : Log.Record → String
  /-- Records are filtered by level. -/
  write_eq : ∀ verbosity r, write verbosity r =
    if r.isEnabled (some (level verbosity)) then line r ++ "\n" else ""
  /-- Without `-v`, errors are shown and nothing else is. -/
  level_zero : level 0 = .error
  /-- With another `-v`, no less is shown. -/
  level_mono : ∀ verbosity, (level verbosity).rank ≤ (level (verbosity + 1)).rank
  /-- A message of one line is shown on one line. -/
  oneLine_line : ∀ r, '\n' ∉ r.event.message.toList → '\n' ∉ (line r).toList

namespace LogWriter

/-- What a log that cannot be opened leaves on the error stream. -/
def opening (log : LogWriter) : String :=
  match log.failure? with
  | none => ""
  | some cause => s!"unable to initialize logging: {cause}\n"

/-- What records leave on the error stream. Nothing is logged if the log cannot be opened. -/
def text (log : LogWriter) (verbosity : Nat) (records : List Log.Record) : String :=
  match log.failure? with
  | none => String.join (records.map (log.write verbosity))
  | some _ => ""

/-- The levels by the number of `-v`. -/
def plainLevel : Nat → Log.Level
  | 0 => .error
  | 1 => .warn
  | 2 => .info
  | 3 => .debug
  | _ => .trace

/-- Shows a record as its level and its message. -/
def plain : LogWriter where
  failure? := none
  write verbosity r :=
    if r.isEnabled (some (plainLevel verbosity)) then r.line " - " ++ "\n" else ""
  level := plainLevel
  line r := r.line " - "
  write_eq _ _ := rfl
  level_zero := rfl
  level_mono
    | 0 | 1 | 2 | 3 => by decide
    | _ + 4 => Nat.le_refl _
  oneLine_line r hmessage := by
    have hname : '\n' ∉ r.level.name.toList := by cases r.level <;> decide
    simp +decide [Log.Record.line, hname, hmessage]

end LogWriter

end PatternNfa.CommandLine
