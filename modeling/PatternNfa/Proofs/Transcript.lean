import PatternNfa.Nfa.Reporting
import PatternNfa.Proofs.Depth
import PatternNfa.Proofs.Rejection
import PatternNfa.Proofs.Reports

/-!
# `PatternNfa.Proofs.Transcript`: the log of a compilation

What a compilation reports can be read off where it ends. Each stage reports what it has done, so
the reports stop in front of the stage that fails, and of the tokens in postfix order each one is
reported before it is evaluated, so the one that cannot be evaluated is the last. `Transcript` and
`EvaluationTranscript` list the events for each way in which a compilation can end. Which token is
the last one is said by counting (`Token.Faulty`), and not by the evaluation.

Every compilation has a transcript (`Nfa.exists_transcript`), and its records are those of the
transcript (`Nfa.records_of_transcript`). The events do not depend on the option that raises the
level of the stages, and the level of a record is told by its event and that option
(`Log.Event.record`). `Nfa.compile_transcript` adds that a log sees the records up to the level that
it asks for, whatever it does with them, and that the result is the same with any log.
-/

set_option autoImplicit false

namespace PatternNfa

open Log (Event Sink)

/-! ### Events -/

/-- The record of an event, if stages report at the level `stage`. What goes on inside of a stage is
only traced. -/
def Log.Event.record (stage : Log.Level) (e : Event) : Log.Record where
  level :=
    match e with
    | .expanded _ _ | .ordered _ _ | .compiled _ _ _ _ => stage
    | .tokenized _ _ | .evaluating _ => .trace
    | .summarized _ => .info
  event := e

/-- What is reported of tokens in postfix order, if their evaluation makes this of the pattern. -/
inductive EvaluationTranscript (pattern : String) (ts : List Token) :
    Except CompileError Nfa → List Event → Prop where
  /-- The tokens up to the first one at fault, and that one too. -/
  | fault {before after : List Token} {t : Token} :
      ts = before ++ t :: after → Token.Faultless before → Token.Faulty before t →
      EvaluationTranscript pattern ts (.error (.missingOperand (some t.char) t.offset))
        ((before ++ [t]).map .evaluating)
  /-- All tokens, before it turns out that nothing is left. -/
  | nothingLeft :
      Token.Faultless ts → Token.depth ts = 0 →
      EvaluationTranscript pattern ts (.error (.missingOperand none pattern.utf8ByteSize))
        (ts.map .evaluating)
  /-- All tokens, before it turns out that too much is left. -/
  | operandsLeft {count : Nat} :
      Token.Faultless ts → Token.depth ts = count → 2 ≤ count →
      EvaluationTranscript pattern ts (.error (.excessOperands count)) (ts.map .evaluating)
  /-- All tokens, and the automaton. -/
  | compiled {nfa : Nfa} :
      Token.Faultless ts → Token.depth ts = 1 →
      EvaluationTranscript pattern ts (.ok nfa)
        (ts.map .evaluating ++ [.compiled pattern nfa.arena.size nfa.start nfa.accept])

/-- What is reported of a pattern, if a compilation makes this of it. -/
inductive Transcript (flags : Flags) (pattern : String) :
    Except CompileError Nfa → List Event → Prop where
  /-- Nothing, where scanning stops. -/
  | invalidCharacter {c : Char} {offset : Nat} :
      Token.scan flags pattern = .error (.invalidCharacter c offset) →
      Transcript flags pattern (.error (.parsing (.invalidCharacter c offset))) []
  /-- The tokens as they were scanned and spelt out, where they cannot be put into order. -/
  | unmatchedParenthesis {ts : List Token} {offset : Nat} :
      Token.scan flags pattern = .ok ts →
      Token.toPostfix (Token.spellOut flags ts) = .error (.unmatchedParenthesis offset) →
      Transcript flags pattern (.error (.parsing (.unmatchedParenthesis offset)))
        [.tokenized pattern ts.length, .expanded pattern (Token.text (Token.spellOut flags ts))]
  /-- The three forms of the tokens, and then their evaluation. -/
  | evaluated {ts out : List Token} {result : Except CompileError Nfa} {events : List Event} :
      Token.scan flags pattern = .ok ts →
      Token.toPostfix (Token.spellOut flags ts) = .ok out →
      EvaluationTranscript pattern out result events →
      Transcript flags pattern result
        (.tokenized pattern ts.length :: .expanded pattern (Token.text (Token.spellOut flags ts)) ::
          .ordered pattern (Token.text out) :: events)

/-- Nothing is beyond the last level. -/
theorem Log.Record.upTo_trace (records : List Log.Record) :
    Log.Record.upTo (some .trace) records = records := by
  have hrank : ∀ level : Log.Level, level.rank ≤ Log.Level.trace.rank := by
    intro level
    cases level <;> decide
  rw [Log.Record.upTo, List.filter_eq_self]
  exact fun r _ => decide_eq_true (hrank r.level)

/-! ### One step after another -/

namespace Logged

variable {ε α β : Type}

/-- A step that fails is the last one. -/
theorem bind_eq_of_error {x : Logged ε α} {e : ε} (h : x.result = .error e) (f : α → Logged ε β) :
    x >>= f = { records := x.records, result := .error e } := by
  rcases x with ⟨records, result⟩
  cases h
  rfl

/-- A step that succeeds is followed by the next, and the records of both are kept in order. -/
theorem bind_eq_of_ok {x : Logged ε α} {a : α} (h : x.result = .ok a) (f : α → Logged ε β) :
    x >>= f = { records := x.records ++ (f a).records, result := (f a).result } := by
  rcases x with ⟨records, result⟩
  cases h
  rfl

/-- A result alone adds no records. -/
theorem ofExcept_ok_bind (a : α) (f : α → Logged ε β) : ofExcept (.ok a) >>= f = f a := rfl

end Logged

/-! ### Evaluating -/

namespace Arena

/-- An evaluation that finds all operands reports every token. -/
theorem records_evaluate_of_faultless {ts : List Token} (a : Arena) (endOffset : Nat)
    (h : Token.Faultless ts) (stage : Log.Level) :
    (a.evaluate ts endOffset).outcome.records =
      (ts.map Event.evaluating).map (Event.record stage) := by
  obtain ⟨es, hread⟩ := (Token.exists_read_iff_faultless ts).mpr h
  obtain ⟨-, -, hrecords⟩ := evaluateFrom_append_of_read endOffset a hread []
  rw [List.append_nil] at hrecords
  rw [List.map_map]
  exact hrecords.trans (List.append_nil _)

/-- An evaluation that fails at a token reports that token last. -/
theorem records_evaluate_of_fault {u v : List Token} {t : Token} (a : Arena) (endOffset : Nat)
    (hu : Token.Faultless u) (ht : Token.Faulty u t) (stage : Log.Level) :
    (a.evaluate (u ++ t :: v) endOffset).outcome.records =
      ((u ++ [t]).map Event.evaluating).map (Event.record stage) := by
  obtain ⟨es, hread⟩ := (Token.exists_read_iff_faultless u).mpr hu
  have hpush : Expr.push t.kind es = none := (Token.faulty_iff_of_read hread t).mp ht
  obtain ⟨-, -, hrecords⟩ := evaluateFrom_append_of_read endOffset a hread (t :: v)
  simp only [evaluateFrom, evaluateToken_buildAll, hpush] at hrecords
  rw [List.map_map, List.map_append]
  exact hrecords

end Arena

/-! ### What a compilation reports -/

section

variable {flags : Flags} {pattern : String} {ts out : List Token} {cause : ParseError}

/-- Nothing is reported of a pattern that cannot be scanned. -/
theorem parse_eq_of_scan_error (hscan : Token.scan flags pattern = .error cause) :
    parse flags pattern = { records := [], result := .error cause } :=
  Logged.bind_eq_of_error hscan _

/-- What is reported of a pattern with an unmatched parenthesis: its tokens and their spelling. -/
theorem parse_eq_of_toPostfix_error (hscan : Token.scan flags pattern = .ok ts)
    (hout : Token.toPostfix (Token.spellOut flags ts) = .error cause) :
    parse flags pattern =
      { records :=
          [.tokenized pattern ts.length,
            .expanded pattern (Token.text (Token.spellOut flags ts))].map
              (Event.record flags.stageLevel)
        result := .error cause } := by
  simp only [parse, hscan, Logged.ofExcept_ok_bind, hout]
  rfl

/-- What is reported of a pattern that is parsed: its tokens, their spelling and their order. -/
theorem parse_eq_of_toPostfix (hscan : Token.scan flags pattern = .ok ts)
    (hout : Token.toPostfix (Token.spellOut flags ts) = .ok out) :
    parse flags pattern =
      { records :=
          [.tokenized pattern ts.length, .expanded pattern (Token.text (Token.spellOut flags ts)),
            .ordered pattern (Token.text out)].map (Event.record flags.stageLevel)
        result := .ok out } := by
  simp only [parse, hscan, Logged.ofExcept_ok_bind, hout]
  rfl

namespace Nfa

variable {records : List Log.Record}

/-- A pattern that is not parsed is reported on by the parser only. -/
theorem records_of_parse_error
    (hparse : parse flags pattern = { records, result := .error cause }) :
    (compileLogged flags pattern).records = records := by
  rw [compileLogged, hparse]
  rfl

/-- A pattern that is parsed and does not compile is reported on up to the token that fails. -/
theorem records_of_compile_error {e : CompileError}
    (hparse : parse flags pattern = { records, result := .ok out })
    (h : compile flags pattern = .error e) :
    (compileLogged flags pattern).records =
      records ++ (Arena.evaluate {} out pattern.utf8ByteSize).outcome.records := by
  rw [compile_of_parse_ok (congrArg Logged.result hparse)] at h
  cases hresult : (Arena.evaluate {} out pattern.utf8ByteSize).outcome.result with
  | error e' =>
      rw [compileLogged, hparse]
      exact congrArg (records ++ Logged.records ·) (Logged.bind_eq_of_error hresult _)
  | ok f =>
      rw [hresult] at h
      cases h

/-- A pattern that compiles is reported on to the end. -/
theorem records_of_compile_ok {nfa : Nfa}
    (hparse : parse flags pattern = { records, result := .ok out })
    (h : compile flags pattern = .ok nfa) :
    (compileLogged flags pattern).records =
      records ++ ((Arena.evaluate {} out pattern.utf8ByteSize).outcome.records ++
        [Event.record flags.stageLevel
          (.compiled pattern nfa.arena.size nfa.start nfa.accept)]) := by
  rw [compile_of_parse_ok (congrArg Logged.result hparse)] at h
  obtain ⟨f, hresult, rfl⟩ := Except.exists_of_map_eq_ok h
  rw [compileLogged, hparse]
  exact congrArg (records ++ Logged.records ·) (Logged.bind_eq_of_ok hresult _)

/-- The evaluation of the tokens reports what its result says. -/
theorem records_of_evaluationTranscript {events : List Event}
    (hparse : parse flags pattern = { records, result := .ok out })
    (h : EvaluationTranscript pattern out (compile flags pattern) events) :
    (compileLogged flags pattern).records =
      records ++ events.map (Event.record flags.stageLevel) := by
  generalize hresult : compile flags pattern = result at h
  cases h with
  | fault hout hu ht =>
      rw [records_of_compile_error hparse hresult, hout,
        Arena.records_evaluate_of_fault {} _ hu ht flags.stageLevel]
  | nothingLeft hout | operandsLeft hout =>
      rw [records_of_compile_error hparse hresult,
        Arena.records_evaluate_of_faultless {} _ hout flags.stageLevel]
  | compiled hout =>
      rw [records_of_compile_ok hparse hresult,
        Arena.records_evaluate_of_faultless {} _ hout flags.stageLevel, List.map_append]
      rfl

/-- What a pattern is compiled to tells what is reported of the tokens in postfix order. Parentheses
are not among them, so whatever token is at fault lacks an operand. -/
theorem exists_evaluationTranscript (hparse : (parse flags pattern).result = .ok out)
    (hparen : ∀ t ∈ out, t.kind.isParen = false) :
    ∃ events, EvaluationTranscript pattern out (compile flags pattern) events := by
  rw [compile_of_parse_ok hparse]
  by_cases hout : Token.Faultless out
  · obtain ⟨stack, hdepth, hresult⟩ :=
      Arena.evaluate_of_faultless {} pattern.utf8ByteSize hout
    rw [hresult]
    rcases stack with _ | ⟨f, _ | ⟨g, stack⟩⟩
    · exact ⟨_, .nothingLeft hout hdepth.symm⟩
    · exact ⟨_, .compiled hout hdepth.symm⟩
    · exact ⟨_, .operandsLeft hout hdepth.symm (by simp)⟩
  · obtain ⟨u, t, v, rfl, ht, hu⟩ := Token.exists_first_fault hout
    have hresult := (Arena.evaluate_of_fault (v := v) {} pattern.utf8ByteSize 0 hu ht).1
    rw [hresult, Arena.evaluationError, hparen t (by simp)]
    exact ⟨_, .fault rfl hu ht⟩

/-- Every compilation has a transcript. -/
theorem exists_transcript (flags : Flags) (pattern : String) :
    ∃ events, Transcript flags pattern (compile flags pattern) events := by
  cases hscan : Token.scan flags pattern with
  | error cause =>
      have hparse := parse_result_of_scan_error hscan
      obtain ⟨u, c, v, -, -, -, rfl⟩ := Token.scanFrom_eq_error hscan
      rw [compile_of_parse_error hparse]
      exact ⟨[], .invalidCharacter hscan⟩
  | ok ts =>
      cases hout : Token.toPostfix (Token.spellOut flags ts) with
      | error cause =>
          have hparse := (parse_result_of_scan hscan).trans hout
          obtain ⟨t, -, rfl⟩ := Token.unmatched_of_toPostfix hout
          rw [compile_of_parse_error hparse]
          exact ⟨_, .unmatchedParenthesis hscan hout⟩
      | ok out =>
          have hparse := (parse_result_of_scan hscan).trans hout
          obtain ⟨events, h⟩ := exists_evaluationTranscript hparse fun t ht =>
            (Token.mem_of_mem_toPostfix hout ht).2
          exact ⟨_, .evaluated hscan hout h⟩

/-- With the same concatenations, the same is reported, at the level that the options ask for. -/
theorem records_of_transcript {flags' : Flags} {events : List Event}
    (hflags : flags.explicitConcat = flags'.explicitConcat)
    (h : Transcript flags pattern (compile flags pattern) events) :
    (compileLogged flags' pattern).records = events.map (Event.record flags'.stageLevel) := by
  rw [compile_congr hflags] at h
  -- The ways to end are those of `flags`, and each is carried over to `flags'` before it is used.
  generalize hresult : compile flags' pattern = result at h
  cases h with
  | invalidCharacter hscan =>
      rw [Token.scan_congr hflags] at hscan
      exact records_of_parse_error (parse_eq_of_scan_error hscan)
  | unmatchedParenthesis hscan hout =>
      rw [Token.scan_congr hflags] at hscan
      rw [Token.spellOut_congr hflags] at hout ⊢
      exact records_of_parse_error (parse_eq_of_toPostfix_error hscan hout)
  | evaluated hscan hout hevents =>
      rw [Token.scan_congr hflags] at hscan
      rw [Token.spellOut_congr hflags] at hout ⊢
      rw [← hresult] at hevents
      exact records_of_evaluationTranscript (parse_eq_of_toPostfix hscan hout) hevents

/-- Every compilation has a transcript, which does not depend on the option that raises the level
of the stages. With that option and without it, the result is the same, and the records are those of
the transcript, the stages at one level or the other. A log that asks for records up to some level
gets all that are not beyond that level, in their order, and the result is the same with any log. -/
theorem compile_transcript (flags : Flags) (pattern : String) :
    ∃ events, Transcript flags pattern (compile flags pattern) events ∧
      ∀ debug : Bool,
        let flags' : Flags := { flags with debug }
        let records := events.map (Event.record (if debug then .info else .debug))
        compile flags' pattern = compile flags pattern ∧
          (compileLogged flags' pattern).records = records ∧
          compileAt (some .trace) flags' pattern = (compile flags pattern, records) ∧
          (∀ max, compileAt max flags' pattern =
            (compile flags pattern, records.filter (Log.Record.isEnabled max))) ∧
          ∀ (σ : Type) (sink : Sink σ) (log : σ),
            (compileTo sink flags' pattern).runOn log =
              (compile flags pattern,
                (records.filter (Log.Record.isEnabled sink.max)).foldl sink.take log) := by
  obtain ⟨events, h⟩ := exists_transcript flags pattern
  refine ⟨events, h, fun debug => ?_⟩
  intro flags' records
  have hflags : flags.explicitConcat = flags'.explicitConcat := rfl
  have hcompile : compile flags' pattern = compile flags pattern :=
    (compile_congr hflags pattern).symm
  have hrecords : (compileLogged flags' pattern).records = records := records_of_transcript hflags h
  have hat : ∀ max, compileAt max flags' pattern =
      (compile flags pattern, records.filter (Log.Record.isEnabled max)) := by
    intro max
    rw [compileAt_eq, hcompile, hrecords]
    rfl
  have hall : compileAt (some .trace) flags' pattern = (compile flags pattern, records) := by
    rw [compileAt_eq, hcompile, hrecords, Log.Record.upTo_trace]
  have hsink : ∀ (σ : Type) (sink : Sink σ) (log : σ),
      (compileTo sink flags' pattern).runOn log =
        (compile flags pattern,
          (records.filter (Log.Record.isEnabled sink.max)).foldl sink.take log) := by
    intro σ sink log
    rw [runOn_compileTo, hcompile, hrecords]
    rfl
  exact ⟨hcompile, hrecords, hall, hat, hsink⟩

/-- The bar lacks an operand. It is reported all the same, and nothing after it. -/
example :
    compileAt (some .trace) {} "a|" =
      (.error (.missingOperand (some '|') 1),
        [{ level := .trace, event := .tokenized "a|" 2 },
          { level := .debug, event := .expanded "a|" "a|" },
          { level := .debug, event := .ordered "a|" "a|" },
          { level := .trace, event := .evaluating { kind := .symbol 'a', offset := 0 } },
          { level := .trace, event := .evaluating { kind := .union, offset := 1 } }]) := by
  decide

end Nfa

end

end PatternNfa
