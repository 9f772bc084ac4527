import PatternNfa.Nfa

/-!
# `PatternNfa.Nfa.Reporting`: compiling into a log

`Nfa.compileLogged` leaves a list of all records, and a reader picks those up to some level
afterwards. Here the log is there while the pattern is compiled. Every report first looks whether
its level is asked for, and only then makes the record and hands it over. What the log does with a
record is its own business: a `Log.Sink` may change a state of any type in any way.
`Nfa.compileAt` compiles into a log that keeps the records in a list.

`Nfa.compileTo_eq` says that this is the same compilation: the log sees the records of
`Nfa.compileLogged` that are asked for, one after another, and nothing comes back from it. The
computations with records are followed step by step, and `Logged.sendTo_bind` is the step.
-/

set_option autoImplicit false

namespace PatternNfa

namespace Log

/-- A log that is written while something runs, with a state of any type. -/
structure Sink (σ : Type) where
  /-- The last level asked for, if any level is. -/
  max : Option Level
  /-- The state of the log with one more record. -/
  take : σ → Record → σ

/-- A step that may fail and that writes to a log. What was written stays either way. -/
abbrev Reporting (σ ε α : Type) := ExceptT ε (StateM σ) α

/-- The result of a step, and the log after it. -/
def Reporting.runOn {σ ε α : Type} (x : Reporting σ ε α) (log : σ) : Except ε α × σ :=
  x.run.run log

namespace Sink

/-- Reports an event at a level, if that level is asked for. -/
def report {σ ε : Type} (sink : Sink σ) (level : Level) (event : Event) : Reporting σ ε Unit :=
  let r : Record := { level, event }
  if r.isEnabled sink.max then modify fun log => sink.take log r else pure ()

/-- The log that keeps the records that it is handed. -/
def list (max : Option Level) : Sink (List Record) := { max, take := fun rs r => rs ++ [r] }

/-- The sink that keeps everything keeps the records behind those that it had. -/
theorem foldl_take_list (max : Option Level) (before rs : List Record) :
    rs.foldl (list max).take before = before ++ rs := by
  induction rs generalizing before with
  | nil => exact (List.append_nil before).symm
  | cons r rs ih =>
      rw [List.foldl_cons, ih]
      show before ++ [r] ++ rs = before ++ r :: rs
      rw [List.append_assoc, List.singleton_append]

end Sink

end Log

open Log (Sink Reporting)

/-! ### The stages -/

section

variable {σ : Type} (sink : Sink σ)

/-- The tokens of a pattern in postfix order, with the reports of `parse`. -/
def parseTo (flags : Flags) (pattern : String) : Reporting σ ParseError (List Token) := do
  let tokens ← MonadExcept.ofExcept (Token.scan flags pattern)
  sink.report .trace (.tokenized pattern tokens.length)
  let expanded := Token.spellOut flags tokens
  sink.report flags.stageLevel (.expanded pattern (Token.text expanded))
  let ordered ← MonadExcept.ofExcept (Token.toPostfix expanded)
  sink.report flags.stageLevel (.ordered pattern (Token.text ordered))
  return ordered

namespace Arena

/-- Reports one token and evaluates it over the stack. -/
def stepTo : List Fragment × Arena → Token → Reporting σ CompileError (List Fragment × Arena)
  | (stack, a), t => do
      sink.report .trace (.evaluating t)
      MonadExcept.ofExcept (a.evaluateToken stack t)

/-- Evaluates tokens over a stack one after another. -/
def evaluateTo (endOffset : Nat) (a : Arena) (stack : List Fragment) (ts : List Token) :
    Reporting σ CompileError (Fragment × Arena) := do
  let (stack, a) ← ts.foldlM (stepTo sink) (stack, a)
  let fragment ← MonadExcept.ofExcept (single endOffset stack)
  return (fragment, a)

end Arena

namespace Nfa

/-- The automaton of a pattern, with the reports of all stages. -/
def compileTo (flags : Flags) (pattern : String) : Reporting σ CompileError Nfa := do
  let ordered ← (parseTo sink flags pattern).adapt .parsing
  let (fragment, a) ← Arena.evaluateTo sink pattern.utf8ByteSize {} [] ordered
  let nfa := a.finish pattern fragment
  sink.report flags.stageLevel (.compiled pattern nfa.arena.size nfa.start nfa.accept)
  return nfa

/-- The automaton of a pattern, and the records up to a level. -/
def compileAt (max : Option Log.Level) (flags : Flags) (pattern : String) :
    Except CompileError Nfa × List Log.Record :=
  (compileTo (Sink.list max) flags pattern).runOn []

end Nfa

end

/-! ### Handing records over -/

namespace Logged

variable {σ ε δ α β : Type}

/-- Hands the records of a computation that are asked for to a log. -/
def sendTo (sink : Sink σ) (x : Logged ε α) : Reporting σ ε α :=
  fun log => (x.result, (Log.Record.upTo sink.max x.records).foldl sink.take log)

variable (sink : Sink σ)

/-- A result without records sends none. -/
theorem sendTo_pure (a : α) : (pure a : Logged ε α).sendTo sink = pure a := rfl

/-- A result that may be a failure sends no records either. -/
theorem sendTo_ofExcept (result : Except ε α) :
    (ofExcept result).sendTo sink = MonadExcept.ofExcept result := by
  cases result <;> rfl

/-- A failure is put differently after the records are sent. -/
theorem sendTo_mapError (f : ε → δ) (x : Logged ε α) :
    (x.mapError f).sendTo sink = (x.sendTo sink).adapt f := rfl

/-- It makes no difference whether a record is looked at before it is made or afterwards. -/
theorem sendTo_report (level : Log.Level) (event : Log.Event) :
    (report level event : Logged ε Unit).sendTo sink = sink.report level event := by
  rw [Sink.report]
  funext log
  show (_, (List.filter _ [_]).foldl _ _) = _
  split
  · rename_i h
    rw [List.filter_cons_of_pos h]
    rfl
  · rename_i h
    rw [List.filter_cons_of_neg h]
    rfl

/-- The records of two steps in a row can be handed over after each of the steps. -/
theorem sendTo_bind (x : Logged ε α) (f : α → Logged ε β) :
    (x >>= f).sendTo sink = x.sendTo sink >>= fun a => (f a).sendTo sink := by
  rcases x with ⟨records, _ | a⟩
  · rfl
  · funext log
    show (_, (Log.Record.upTo sink.max (records ++ (f a).records)).foldl _ _) = _
    rw [Log.Record.upTo, List.filter_append, List.foldl_append]
    rfl

end Logged

/-! ### The same compilation -/

section

variable {σ : Type} (sink : Sink σ)

/-- Parsing a pattern and reporting on the way is parsing it and sending the records. -/
theorem parseTo_eq (flags : Flags) (pattern : String) :
    parseTo sink flags pattern = (parse flags pattern).sendTo sink := by
  simp only [parse, parseTo, Logged.sendTo_bind, Logged.sendTo_ofExcept, Logged.sendTo_report,
    Logged.sendTo_pure]

namespace Arena

/-- Without tokens there is nothing to report. -/
theorem evaluateTo_nil (endOffset : Nat) (a : Arena) (stack : List Fragment) :
    evaluateTo sink endOffset a stack [] =
      MonadExcept.ofExcept (single endOffset stack) >>= fun fragment => pure (fragment, a) := by
  rw [evaluateTo, List.foldlM_nil, pure_bind]

/-- A token is reported before it is evaluated, and the rest of the tokens after it. -/
theorem evaluateTo_cons (endOffset : Nat) (a : Arena) (stack : List Fragment) (t : Token)
    (ts : List Token) :
    evaluateTo sink endOffset a stack (t :: ts) =
      sink.report .trace (.evaluating t) >>= fun _ =>
        MonadExcept.ofExcept (a.evaluateToken stack t) >>= fun s =>
          evaluateTo sink endOffset s.2 s.1 ts := by
  rw [evaluateTo, List.foldlM_cons, stepTo, bind_assoc, bind_assoc]
  rfl

/-- A record in front of the others is sent first. -/
theorem sendTo_afterRecord (e : Evaluation) (level : Log.Level) (event : Log.Event) :
    (e.afterRecord { level, event }).outcome.sendTo sink =
      sink.report level event >>= fun _ => e.outcome.sendTo sink := by
  rw [← Logged.sendTo_report, ← Logged.sendTo_bind]
  rfl

/-- The tokens are evaluated alike, and reported as they are. -/
theorem evaluateTo_eq (endOffset : Nat) (a : Arena) (stack : List Fragment) (ts : List Token) :
    evaluateTo sink endOffset a stack ts =
      (evaluateFrom endOffset a stack ts).outcome.sendTo sink >>= fun fragment =>
        pure (fragment, (evaluateFrom endOffset a stack ts).arena) := by
  induction ts generalizing a stack with
  | nil => rw [evaluateTo_nil, evaluateFrom, Logged.sendTo_ofExcept]
  | cons t ts ih =>
      -- Both report the token first, and what follows depends on what becomes of it.
      rw [evaluateTo_cons, evaluateFrom, sendTo_afterRecord, bind_assoc]
      congr 1
      funext _
      cases a.evaluateToken stack t with
      | error e => rfl
      | ok s => exact ih s.2 s.1

end Arena

namespace Nfa

/-- Compiling into a log is compiling and handing the records over. -/
theorem compileTo_eq (flags : Flags) (pattern : String) :
    compileTo sink flags pattern = (compileLogged flags pattern).sendTo sink := by
  simp only [compileTo, compileLogged, Logged.sendTo_bind, Logged.sendTo_mapError,
    Logged.sendTo_report, Logged.sendTo_pure, parseTo_eq, Arena.evaluateTo_eq, bind_assoc,
    pure_bind]
  rfl

/-- The log has an influence on nothing but itself. -/
theorem runOn_compileTo (flags : Flags) (pattern : String) (log : σ) :
    (compileTo sink flags pattern).runOn log =
      (compile flags pattern,
        (Log.Record.upTo sink.max (compileLogged flags pattern).records).foldl sink.take log) := by
  rw [compileTo_eq]
  rfl

/-- Asking a logger for its level first comes to the records up to that level. -/
theorem compileAt_eq (max : Option Log.Level) (flags : Flags) (pattern : String) :
    compileAt max flags pattern =
      (compile flags pattern, Log.Record.upTo max (compileLogged flags pattern).records) := by
  rw [compileAt, runOn_compileTo, Sink.foldl_take_list]
  rfl

end Nfa

end

end PatternNfa
