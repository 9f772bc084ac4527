import PatternNfa.CommandLine
import PatternNfa.Proofs.Listing
import PatternNfa.Proofs.Offsets

/-!
# `PatternNfa.Proofs.Runs`: what a run of the program depends on

A run is given options and a pattern. The pattern comes as an argument or in a line of the standard
input, and `run_eq_of_argument` and `run_eq_of_input` say that the program does not tell the two
apart: either way it is `Environment.runOn`. Who reads the arguments and who writes the log does not
matter, as long as they keep their laws.

Of the options, `-v` is meant for the log only. It also makes the stages report at another level, so
the records of two runs are not the same; but they only differ if one of the runs shows no records
at all, since a run without `-v` shows errors and nothing that is reported is one
(`Environment.logLines_sublist`). Everything else is said by `Outcome.Shows`.
-/

set_option autoImplicit false

namespace PatternNfa

namespace CommandLine

/-! ### Arguments -/

/-- Carriage returns are dropped at the end of a line, and nowhere else. -/
theorem firstLine_eq {pattern : String} (hline : '\n' ∉ pattern.toList)
    (hend : pattern.toList.getLast? ≠ some '\r') (returns : Nat) (rest : String) :
    firstLine (pattern ++ String.ofList (List.replicate returns '\r') ++ "\n" ++ rest) =
      pattern := by
  have hbefore : ∀ c ∈ pattern.toList ++ List.replicate returns '\r', (c != '\n') = true := by
    intro c hc
    rw [bne_iff_ne]
    rintro rfl
    rcases List.mem_append.mp hc with hc | hc
    · exact hline hc
    · exact absurd (List.eq_of_mem_replicate hc) (by decide)
  have hreturns : ∀ c ∈ List.replicate returns '\r', (c == '\r') = true := by
    intro c hc
    rw [List.eq_of_mem_replicate hc]
    rfl
  have hpattern : pattern.toList.reverse.dropWhile (· == '\r') = pattern.toList.reverse := by
    rw [← List.head?_reverse] at hend
    cases hreverse : pattern.toList.reverse with
    | nil => rfl
    | cons c cs =>
        rw [hreverse, List.head?_cons] at hend
        exact List.dropWhile_cons_of_neg fun hc => hend (congrArg some (beq_iff_eq.mp hc))
  rw [firstLine]
  simp only [String.toList_append, String.toList_ofList]
  rw [List.append_assoc, show "\n".toList ++ rest.toList = '\n' :: rest.toList from rfl,
    List.takeWhile_append_of_pos hbefore, List.takeWhile_cons_of_neg (by decide), List.append_nil,
    List.reverse_append, List.reverse_replicate, List.dropWhile_append_of_pos hreturns, hpattern,
    List.reverse_reverse, String.ofList_toList]

namespace Environment

variable (env : Environment)

/-- An argument behind `--` is the pattern, whatever it begins with. -/
theorem run_eq_of_argument {switches : List Switch} (h : Once switches) (pattern stdin : String) :
    env.run (switches.map Switch.text ++ ["--", pattern]) stdin =
      env.runOn (.ofSwitches switches) pattern := by
  rw [run, env.arguments.read_pattern switches pattern h]
  rfl

/-- Without such an argument, the first line of the input is the pattern. -/
theorem run_eq_of_input {switches : List Switch} (h : Once switches) {pattern : String}
    (hline : '\n' ∉ pattern.toList) (hend : pattern.toList.getLast? ≠ some '\r') (returns : Nat)
    (rest : String) :
    env.run (switches.map Switch.text)
        (pattern ++ String.ofList (List.replicate returns '\r') ++ "\n" ++ rest) =
      env.runOn (.ofSwitches switches) pattern := by
  have hnone : (Options.ofSwitches switches).pattern? = none := Options.pattern?_foldl_add {} _
  rw [run, env.arguments.read_switches switches h]
  show env.runOn _ ((Options.ofSwitches switches).pattern?.getD (firstLine _)) = _
  rw [hnone, Option.getD_none, firstLine_eq hline hend]

end Environment

/-! ### Logs -/

namespace LogWriter

variable (log : LogWriter)

/-- The lines that are shown of a log. -/
def lines (verbosity : Nat) (records : List Log.Record) : List String :=
  match log.failure? with
  | none => (Log.Record.upTo (some (log.level verbosity)) records).map log.line
  | some _ => []

/-- What is left on the error stream are these lines. -/
theorem text_eq (verbosity : Nat) (records : List Log.Record) :
    log.text verbosity records = String.join ((log.lines verbosity records).map (· ++ "\n")) := by
  rw [text, lines]
  cases log.failure? with
  | some cause => rfl
  | none =>
      show String.join (records.map (log.write verbosity)) = String.join
        (((Log.Record.upTo (some (log.level verbosity)) records).map log.line).map (· ++ "\n"))
      induction records with
      | nil => rfl
      | cons r records ih =>
          rw [List.map_cons, String.join_cons, ih, log.write_eq, Log.Record.upTo, Log.Record.upTo,
            List.filter_cons]
          split_ifs
          · rw [List.map_cons, List.map_cons, String.join_cons]
          · rw [String.empty_append]

/-- Lines of records whose messages are one line are one line each. -/
theorem oneLine_of_mem_lines {verbosity : Nat} {records : List Log.Record}
    (h : ∀ r ∈ records, r.Plain) : ∀ line ∈ log.lines verbosity records, OneLine line := by
  rw [lines]
  cases log.failure? with
  | some cause => exact List.forall_mem_nil _
  | none =>
      refine List.forall_mem_map.mpr fun r hr => log.oneLine_line r ?_
      exact (h r (List.mem_of_mem_filter hr)).oneLine

/-- Without `-v` only errors are shown. -/
theorem lines_zero_eq_nil {records : List Log.Record} (h : ∀ r ∈ records, r.Plain) :
    log.lines 0 records = [] := by
  rw [lines]
  cases log.failure? with
  | some cause => rfl
  | none =>
      refine List.map_eq_nil_iff.mpr (List.filter_eq_nil_iff.mpr fun r hr => ?_)
      rw [log.level_zero, Log.Record.isEnabled, decide_eq_true_eq]
      exact Nat.not_le_of_gt (Nat.lt_of_lt_of_le (by decide) (h r hr).info_le)

/-- With more `-v`, the lines of the same records are no fewer. -/
theorem lines_sublist {k l : Nat} (h : k ≤ l) (records : List Log.Record) :
    (log.lines k records).Sublist (log.lines l records) := by
  have hlevel : (log.level k).rank ≤ (log.level l).rank :=
    monotone_nat_of_le_succ (f := fun k => (log.level k).rank) log.level_mono h
  rw [lines, lines]
  cases log.failure? with
  | some cause => exact List.Sublist.refl _
  | none =>
      refine (List.monotone_filter_right _ fun r hr => ?_).map _
      rw [Log.Record.isEnabled, decide_eq_true_eq] at hr ⊢
      exact Nat.le_trans hr hlevel

/-- The message of a log that cannot be opened makes whole lines. -/
theorem exists_lines_opening : ∃ ls, ∀ s, Text.lines (log.opening ++ s) = ls ++ Text.lines s := by
  rw [opening]
  cases log.failure? with
  | none => exact ⟨[], fun s => by rw [String.empty_append, List.nil_append]⟩
  | some cause =>
      exact ⟨Text.lines s!"unable to initialize logging: {cause}",
        Text.lines_append_line s!"unable to initialize logging: {cause}"⟩

end LogWriter

/-- The options ask for the same, with as many `-v` or more. -/
structure Options.Louder (options louder : Options) : Prop where
  dot : louder.dot = options.dot
  explicitConcat : louder.explicitConcat = options.explicitConcat
  le : options.verbosity ≤ louder.verbosity

namespace Environment

variable (env : Environment)

/-- What a run reports: what the compilation does, and a summary of the automaton. -/
def records (options : Options) (pattern : String) : List Log.Record :=
  let compiled := Nfa.compileLogged options.flags pattern
  match compiled.result with
  | .ok nfa => compiled.records ++ [env.summary nfa]
  | .error _ => compiled.records

/-- The lines of the log that a run shows. -/
def logLines (options : Options) (pattern : String) : List String :=
  env.log.lines options.verbosity (env.records options pattern)

variable {pattern : String} {options louder : Options}

/-- Nothing that is reported is an error or a warning, or longer than a line. -/
theorem forall_mem_records (hline : '\n' ∉ pattern.toList) (options : Options) :
    ∀ r ∈ env.records options pattern, r.Plain := by
  have hcompiled := forall_mem_records_compileLogged options.flags pattern
  rw [records]
  cases hresult : (Nfa.compileLogged options.flags pattern).result with
  | error e => exact hcompiled
  | ok nfa =>
      obtain ⟨out, e, -, -, rfl⟩ := Nfa.exists_postorder_of_compile hresult
      have hpattern : OneLine (e.automaton pattern).pattern := hline
      rw [List.forall_mem_append, List.forall_mem_singleton]
      exact ⟨hcompiled, Nat.le_refl _, Nfa.oneLine_summary hpattern env.coloured⟩

/-- A run on a pattern of one line shows its records on one line each. -/
theorem oneLine_of_mem_logLines (hline : '\n' ∉ pattern.toList) (options : Options) :
    ∀ line ∈ env.logLines options pattern, OneLine line :=
  env.log.oneLine_of_mem_lines (env.forall_mem_records hline options)

/-- With more `-v`, a run shows what it would show with fewer, and perhaps more in between. -/
theorem logLines_sublist (hline : '\n' ∉ pattern.toList) (h : options.Louder louder) :
    (env.logLines options pattern).Sublist (env.logLines louder pattern) := by
  rcases Nat.eq_zero_or_pos options.verbosity with hzero | hpos
  · rw [logLines, hzero, env.log.lines_zero_eq_nil (env.forall_mem_records hline options)]
    exact List.nil_sublist _
  · -- Both runs have some `-v`, so they make the same records.
    have hflags : louder.flags = options.flags := by
      rw [Options.flags, Options.flags, h.explicitConcat, decide_eq_true hpos,
        decide_eq_true (Nat.lt_of_lt_of_le hpos h.le)]
    have hrecords : env.records louder pattern = env.records options pattern := by
      rw [records, records, hflags]
    rw [logLines, logLines, hrecords]
    exact env.log.lines_sublist h.le _

/-! ### Outcomes -/

/-- What a run adds to the error stream in the end. -/
def ending (compiled : Except CompileError Nfa) (pattern : String) : String :=
  match compiled with
  | .ok _ => ""
  | .error e => e.diagnostic env.coloured pattern ++ "\n"

/-- A run shows its log, and what the compilation comes to. -/
theorem runOn_eq (options : Options) (pattern : String) :
    env.runOn options pattern =
      let compiled := Nfa.compile options.flags pattern
      { exitCode := if compiled.isOk then 0 else 1
        stdout := match compiled with
          | .ok nfa => options.print nfa
          | .error _ => ""
        stderr := env.log.opening ++ String.join ((env.logLines options pattern).map (· ++ "\n")) ++
          env.ending compiled pattern } := by
  rw [runOn, logLines, ← LogWriter.text_eq, records, Nfa.compile]
  cases (Nfa.compileLogged options.flags pattern).result with
  | ok nfa => exact congrArg (Outcome.mk 0 _) String.append_empty.symm
  | error e => exact congrArg (Outcome.mk 1 "") String.append_assoc

/-- What a pattern compiles to does not depend on `-v`. -/
theorem compile_flags_eq (h : options.Louder louder) (pattern : String) :
    Nfa.compile louder.flags pattern = Nfa.compile options.flags pattern :=
  Nfa.compile_congr h.explicitConcat pattern

/-- What a run prints and how it ends do not depend on `-v`. -/
theorem runOn_louder (h : options.Louder louder) (pattern : String) :
    (env.runOn louder pattern).stdout = (env.runOn options pattern).stdout ∧
      (env.runOn louder pattern).exitCode = (env.runOn options pattern).exitCode := by
  have hprint : louder.print = options.print := by
    funext nfa
    rw [Options.print, Options.print, h.dot]
  rw [runOn_eq, runOn_eq, compile_flags_eq h, hprint]
  exact ⟨rfl, rfl⟩

/-- The lines of the error stream are those of the log, and others that do not depend on `-v`. -/
theorem lines_stderr (hline : '\n' ∉ pattern.toList) (options : Options) :
    ∃ before after, ∀ louder, options.Louder louder →
      Text.lines (env.runOn louder pattern).stderr =
        before ++ env.logLines louder pattern ++ after := by
  obtain ⟨before, hbefore⟩ := env.log.exists_lines_opening
  refine ⟨before, Text.lines (env.ending (Nfa.compile options.flags pattern) pattern),
    fun louder h => ?_⟩
  have hlog := env.oneLine_of_mem_logLines hline louder
  rw [runOn_eq, compile_flags_eq h]
  simp only [String.append_assoc, hbefore, Text.lines_append hlog, List.append_assoc]

/-- With more `-v` there are more lines on the error stream, between those that are there anyway. -/
theorem lines_stderr_sublist (hline : '\n' ∉ pattern.toList) (h : options.Louder louder) :
    (Text.lines (env.runOn options pattern).stderr).Sublist
      (Text.lines (env.runOn louder pattern).stderr) := by
  obtain ⟨before, after, hlines⟩ := env.lines_stderr hline options
  have hself : options.Louder options := ⟨rfl, rfl, Nat.le_refl _⟩
  rw [hlines options hself, hlines louder h]
  exact ((env.logLines_sublist hline h).append_left before).append_right after

end Environment

/-- The outcome shows the log, and the automaton of the pattern or what is wrong with it. -/
inductive Outcome.Shows (env : Environment) (options : Options) (pattern : String)
    (log : List String) : Outcome → Prop where
  /-- A heading and the edges of the walk, a line each. -/
  | listing {nfa : Nfa} :
      Nfa.compile options.flags pattern = .ok nfa → options.dot = false →
      nfa.listing = "NFA Transitions:\n" ++
        String.join (nfa.edges.toList.map fun e =>
          s!"{e.source} -- {e.label.text} --> {e.target}\n") →
      Shows env options pattern log
        { exitCode := 0
          stdout := nfa.listing
          stderr := env.log.opening ++ String.join (log.map (· ++ "\n")) }
  /-- The statements of the drawing, a line each, between the settings and the closing braces. -/
  | drawing {nfa : Nfa} {text : String} {lines : List Drawing.Line} :
      Nfa.compile options.flags pattern = .ok nfa → options.dot = true → nfa.dot? = some text →
      text = Drawing.header ++ Drawing.nodeDefaults ++ String.join (lines.map (·.text ++ "\n")) ++
        "\n\x7d\x7d" →
      nfa.Draws lines →
      Shows env options pattern log
        { exitCode := 0
          stdout := text ++ "\n"
          stderr := env.log.opening ++ String.join (log.map (· ++ "\n")) }
  /-- The error, the pattern, and a caret under where the error stands. -/
  | diagnostic {e : CompileError} {before : List Char} :
      Nfa.compile options.flags pattern = .error e → before <+: pattern.toList →
      e.offset?.getD pattern.utf8ByteSize = Text.utf8Size before →
      e.diagnostic env.coloured pattern =
        Text.Style.redBold.paint env.coloured (Diagnostic.tag e.code) ++ " " ++ e.message ++
          ":\n | " ++ pattern ++
          "\n | " ++ String.ofList (List.replicate before.length ' ') ++
          Text.Style.green.paint env.coloured "^" →
      Shows env options pattern log
        { exitCode := 1
          stdout := ""
          stderr := env.log.opening ++ String.join (log.map (· ++ "\n")) ++
            (e.diagnostic env.coloured pattern ++ "\n") }

/-- A compiled automaton can be drawn, and an error stands in the pattern, so every run has one of
the three outcomes. -/
theorem Environment.runOn_shows (env : Environment) (options : Options) (pattern : String) :
    (env.runOn options pattern).Shows env options pattern (env.logLines options pattern) := by
  rw [runOn_eq]
  cases hcompile : Nfa.compile options.flags pattern with
  | error e =>
      obtain ⟨before, hbefore, hoffset, -⟩ := (Located.of_compile hcompile).exists_before
      exact .diagnostic hcompile hbefore hoffset
        (CompileError.diagnostic_eq hbefore hoffset env.coloured)
  | ok nfa =>
      have hstructured : nfa.Structured := .of_compile hcompile
      simp only [ending, String.append_empty]
      cases hdot : options.dot with
      | false =>
          have hprint : options.print nfa = nfa.listing := by
            rw [Options.print, hdot]
            rfl
          rw [hprint]
          exact .listing hcompile hdot hstructured.listing_eq
      | true =>
          obtain ⟨lines, hlines⟩ := hstructured.exists_drawing?
          have htext : nfa.dot? = some (Drawing.render lines) := by
            rw [Nfa.dot?, hlines]
            rfl
          have hprint : options.print nfa = Drawing.render lines ++ "\n" := by
            rw [Options.print, hdot, htext]
            rfl
          rw [hprint]
          exact .drawing hcompile hdot htext rfl (hstructured.draws hlines)

/-- The exit code tells whether the pattern has an automaton. -/
theorem Outcome.Shows.exitCode_eq_zero_iff {env : Environment} {options : Options}
    {pattern : String} {log : List String} {outcome : Outcome}
    (h : outcome.Shows env options pattern log) :
    outcome.exitCode = 0 ↔ ∃ nfa, Nfa.compile options.flags pattern = .ok nfa := by
  cases h with
  | listing hcompile | drawing hcompile => exact iff_of_true rfl ⟨_, hcompile⟩
  | diagnostic hcompile =>
      refine iff_of_false Nat.one_ne_zero ?_
      rintro ⟨nfa, hnfa⟩
      cases hnfa.symm.trans hcompile

/-- A run on a pattern of one line is the same whether the pattern is an argument or the first line
of the input, whoever reads the arguments and writes the log, in colour or not. It fails exactly if
the pattern has no automaton, and prints all of the listing or of the drawing, or nothing. With more
`-v` it prints the same and fails in the same way, and has more lines between those of its log. -/
theorem run_argument_or_input_shows (env : Environment) {switches : List Switch}
    (honce : Once switches) {pattern : String} (hline : '\n' ∉ pattern.toList)
    (hend : pattern.toList.getLast? ≠ some '\r') :
    let args := switches.map Switch.text
    let options := Options.ofSwitches switches
    let outcome := env.runOn options pattern
    (∀ stdin, env.run (args ++ ["--", pattern]) stdin = outcome) ∧
      (∀ returns rest,
        env.run args (pattern ++ String.ofList (List.replicate returns '\r') ++ "\n" ++ rest) =
          outcome) ∧
      outcome.Shows env options pattern (env.logLines options pattern) ∧
      (outcome.exitCode = 0 ↔ ∃ nfa, Nfa.compile options.flags pattern = .ok nfa) ∧
      (∀ line ∈ env.logLines options pattern, OneLine line) ∧
      ∀ switches', Once switches' → options.Louder (.ofSwitches switches') → ∀ stdin,
        let outcome' := env.run (switches'.map Switch.text ++ ["--", pattern]) stdin
        outcome'.stdout = outcome.stdout ∧ outcome'.exitCode = outcome.exitCode ∧
          (env.logLines options pattern).Sublist (env.logLines (.ofSwitches switches') pattern) ∧
          (Text.lines outcome.stderr).Sublist (Text.lines outcome'.stderr) := by
  refine ⟨env.run_eq_of_argument honce pattern, env.run_eq_of_input honce hline hend,
    env.runOn_shows _ pattern, (env.runOn_shows _ pattern).exitCode_eq_zero_iff,
    env.oneLine_of_mem_logLines hline _, fun switches' honce' hlouder stdin => ?_⟩
  obtain ⟨hstdout, hexit⟩ := env.runOn_louder hlouder pattern
  rw [env.run_eq_of_argument honce' pattern stdin]
  exact ⟨hstdout, hexit, env.logLines_sublist hline hlouder, env.lines_stderr_sublist hline hlouder⟩

/-- Two options and a dotted pattern, once as an argument and once as a line of the input, and with
more `-v` in another order. -/
theorem run_argument_or_input_shows_of_dotted :
    let switches : List Switch := [.verbose 0, .explicitConcat]
    let louder : List Switch := [.explicitConcat, .verbose 2]
    let options := Options.ofSwitches switches
    Once switches ∧ '\n' ∉ "a.b".toList ∧ "a.b".toList.getLast? ≠ some '\r' ∧ Once louder ∧
      options.Louder (.ofSwitches louder) ∧
      run ["-v", "--explicit-concat", "--", "a.b"] "" = Environment.plain.runOn options "a.b" ∧
      run ["-v", "--explicit-concat"] "a.b\r\nmore" = Environment.plain.runOn options "a.b" ∧
      (Environment.plain.runOn options "a.b").exitCode = 0 ∧
      (run ["--explicit-concat", "-vvv", "--", "a.b"] "").stdout =
        (Environment.plain.runOn options "a.b").stdout := by
  intro switches louder options
  have honce : Once switches := by decide
  have hline : '\n' ∉ "a.b".toList := by decide
  have hend : "a.b".toList.getLast? ≠ some '\r' := by decide
  have honce' : Once louder := by decide
  have hlouder : options.Louder (.ofSwitches louder) := ⟨rfl, rfl, by decide⟩
  have hcompile : Nfa.compile options.flags "a.b" =
      .ok
        { pattern := "a.b"
          arena :=
            { states :=
                [{ transitions := [('a', [1])] }, { epsilon := [2] },
                  { transitions := [('b', [3])] }, {}] }
          start := 0
          accept := 3 } := by decide
  obtain ⟨hargument, hinput, -, hexit, -, hmore⟩ :=
    run_argument_or_input_shows .plain honce hline hend
  exact ⟨honce, hline, hend, honce', hlouder, hargument "", hinput 1 "more",
    hexit.mpr ⟨_, hcompile⟩, (hmore louder honce' hlouder "").1⟩

end CommandLine

end PatternNfa
