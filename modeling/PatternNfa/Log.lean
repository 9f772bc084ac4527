import PatternNfa.Flags
import PatternNfa.Text.Quoted
import PatternNfa.Token

/-!
# `PatternNfa.Log`: what the stages report

Each stage of a compilation reports what it did. A report is an event with a level, and a reader
asks for all records up to some level. The pipeline always makes every record; `Record.upTo` picks
those that a reader asked for. `Logged` is a computation that may fail and whose records stay
either way.

`Logged.result_bind` says that records never reach the result: the result of two steps in a row
depends on the results of the two steps alone.
-/

set_option autoImplicit false

namespace PatternNfa

namespace Log

/-- How important a record is, the most important first. -/
inductive Level where
  | error
  | warn
  | info
  | debug
  | trace
deriving DecidableEq, Repr, Inhabited

namespace Level

/-- The place of a level, counted from the most important one. -/
def rank : Level → Nat
  | error => 0
  | warn => 1
  | info => 2
  | debug => 3
  | trace => 4

/-- The name of a level in a log line. -/
def name : Level → String
  | error => "ERROR"
  | warn => "WARN"
  | info => "INFO"
  | debug => "DEBUG"
  | trace => "TRACE"

end Level

/-- What can be reported. -/
inductive Event where
  /-- The pattern was split into so many tokens. -/
  | tokenized (pattern : String) (count : Nat)
  /-- The pattern reads `text` with its concatenations written out. -/
  | expanded (pattern text : String)
  /-- The pattern reads `text` in postfix order. -/
  | ordered (pattern text : String)
  /-- The token is next to be evaluated. -/
  | evaluating (token : Token)
  /-- The pattern has an automaton with so many states. -/
  | compiled (pattern : String) (states start accept : Nat)
  /-- The automaton in one line. -/
  | summarized (summary : String)
deriving DecidableEq, Repr, Inhabited

/-- The event in words. -/
def Event.message : Event → String
  | tokenized pattern count => s!"tokenized {Text.quote pattern} into {count} tokens"
  | expanded pattern text => s!"expanded {Text.quote pattern} into {Text.quote text}"
  | ordered pattern text => s!"postfix form of {Text.quote pattern} is {Text.quote text}"
  | evaluating token => s!"evaluating {token.char} at offset {token.offset}"
  | compiled pattern states start accept =>
      s!"compiled {Text.quote pattern} into {states} states (start {start}, accept {accept})"
  | summarized summary => summary

/-- An event and its level. -/
structure Record where
  level : Level
  event : Event
deriving DecidableEq, Repr, Inhabited

namespace Record

/-- The record is asked for where `max` is the last level asked for, or none is. -/
def isEnabled (max : Option Level) (r : Record) : Bool :=
  match max with
  | none => false
  | some level => decide (r.level.rank ≤ level.rank)

/-- The records that are asked for, in their order. -/
def upTo (max : Option Level) (records : List Record) : List Record :=
  records.filter (isEnabled max)

/-- The record as a line, with `separator` between level and message. -/
def line (separator : String) (r : Record) : String :=
  r.level.name ++ separator ++ r.event.message

end Record

end Log

/-- The level at which stages report: `info` where asked to, `debug` otherwise. -/
def Flags.stageLevel (flags : Flags) : Log.Level :=
  if flags.debug then .info else .debug

/-- The records of a computation, all of them up to its end or failure, and its result. -/
structure Logged (ε α : Type) where
  records : List Log.Record
  result : Except ε α
deriving Repr, Inhabited

namespace Logged

variable {ε δ α β : Type}

/-- A result without records. -/
def ofExcept (result : Except ε α) : Logged ε α := { records := [], result }

/-- One record. -/
def report (level : Log.Level) (event : Log.Event) : Logged ε Unit :=
  { records := [{ level, event }], result := .ok () }

/-- The second step follows if the first succeeds. The records of both are kept in order. -/
def bind (x : Logged ε α) (f : α → Logged ε β) : Logged ε β :=
  match x.result with
  | .error e => { records := x.records, result := .error e }
  | .ok a =>
      let y := f a
      { records := x.records ++ y.records, result := y.result }

/-- The computation with its failure put differently. -/
def mapError (f : ε → δ) (x : Logged ε α) : Logged δ α :=
  { x with result := x.result.mapError f }

instance : Monad (Logged ε) where
  pure a := ofExcept (.ok a)
  bind := bind

/-- A result without records is the result. -/
@[simp]
theorem result_pure (a : α) : (pure a : Logged ε α).result = .ok a := rfl

/-- And it has no records. -/
@[simp]
theorem records_pure (a : α) : (pure a : Logged ε α).records = [] := rfl

/-- The second step sees the result of the first and not its records. -/
@[simp]
theorem result_bind (x : Logged ε α) (f : α → Logged ε β) :
    (x >>= f).result = x.result.bind fun a => (f a).result := by
  rcases x with ⟨_, _ | _⟩ <;> rfl

/-- A result is kept as it is. -/
@[simp]
theorem result_ofExcept (result : Except ε α) : (ofExcept result).result = result := rfl

/-- Reporting does not fail. -/
@[simp]
theorem result_report (level : Log.Level) (event : Log.Event) :
    (report level event : Logged ε Unit).result = .ok () := rfl

/-- Putting a failure differently changes nothing else. -/
@[simp]
theorem result_mapError (f : ε → δ) (x : Logged ε α) :
    (x.mapError f).result = x.result.mapError f := rfl

end Logged

end PatternNfa
