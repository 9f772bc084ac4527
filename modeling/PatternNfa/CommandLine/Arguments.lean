import PatternNfa.Flags
import PatternNfa.Text.Quoted

/-!
# `PatternNfa.CommandLine.Arguments`: what the arguments of a run ask for

A run is told by `Options` what to do, and leaves an `Outcome` behind. Its arguments are options,
which can be given in any order (`Switch`), and a pattern, which `--` keeps apart from them.

Reading them is the work of an `ArgumentReader`, which may be any that keeps two laws: it takes
options that are not given twice as what they ask for, and an argument behind `--` as the pattern,
just as it is. What it does with other arguments is its own affair. If it does not understand them,
or is asked for help, the run ends there.

`ArgumentReader.plain` is a reader of that sort.
-/

set_option autoImplicit false

namespace PatternNfa.CommandLine

/-- What a run leaves behind. -/
structure Outcome where
  exitCode : Nat
  stdout : String
  stderr : String
deriving DecidableEq, Repr, Inhabited

/-- What the arguments ask for. -/
structure Options where
  /-- Print the drawing instead of the listing. -/
  dot : Bool := false
  /-- The pattern writes its concatenations out. -/
  explicitConcat : Bool := false
  /-- How often `-v` was given. -/
  verbosity : Nat := 0
  /-- The pattern, if it is an argument. -/
  pattern? : Option String := none
deriving DecidableEq, Repr, Inhabited

/-- The options of the compilation. -/
def Options.flags (options : Options) : Flags :=
  { explicitConcat := options.explicitConcat, debug := decide (0 < options.verbosity) }

/-! ### Options as they are given -/

/-- An option as it is given. -/
inductive Switch where
  | dot
  | explicitConcat
  /-- `-v`, and so many more of them in the same argument. -/
  | verbose (more : Nat)
deriving DecidableEq, Repr, Inhabited

/-- The option as an argument. -/
def Switch.text : Switch → String
  | dot => "--dot"
  | explicitConcat => "--explicit-concat"
  | verbose more => String.ofList ('-' :: 'v' :: List.replicate more 'v')

/-- Asks for the option as well. -/
def Options.add (options : Options) : Switch → Options
  | .dot => { options with dot := true }
  | .explicitConcat => { options with explicitConcat := true }
  | .verbose more => { options with verbosity := options.verbosity + (more + 1) }

/-- What options ask for that are given one after another. -/
def Options.ofSwitches (switches : List Switch) : Options := switches.foldl add {}

/-- No option is given twice, except for `-v`. -/
def Once (switches : List Switch) : Prop :=
  switches.count .dot ≤ 1 ∧ switches.count .explicitConcat ≤ 1

instance (switches : List Switch) : Decidable (Once switches) :=
  inferInstanceAs (Decidable (_ ∧ _))

/-- Reads the arguments of a run, whatever it is made of. -/
structure ArgumentReader where
  /-- What the arguments ask for, or how a run on them ends at once. -/
  read : List String → Except Outcome Options
  /-- Options ask for the same in any order. -/
  read_switches : ∀ switches, Once switches →
    read (switches.map Switch.text) = .ok (.ofSwitches switches)
  /-- The argument behind `--` is handed over as it is. -/
  read_pattern : ∀ switches pattern, Once switches →
    read (switches.map Switch.text ++ ["--", pattern]) =
      .ok { Options.ofSwitches switches with pattern? := some pattern }

/-! ### A reader -/

/-- Why a run ends at its arguments. -/
inductive Stop where
  /-- The arguments ask for help. -/
  | help
  /-- The argument is no option of the program. -/
  | unknownOption (argument : String)
  /-- The argument is an option that was given before. -/
  | repeatedOption (argument : String)
  /-- The argument comes after the pattern. -/
  | extraArgument (argument : String)
deriving DecidableEq, Repr, Inhabited

/-- How the program is used. -/
def usage : String :=
  "Compiles a regular expression into a Thompson NFA and prints its transitions\n\n" ++
  "    --dot               Print the automaton as GraphViz Dot code\n" ++
  "    --explicit-concat   The pattern already marks every concatenation with '.'\n" ++
  "    -v                  Increase logging verbosity\n" ++
  "    -h, --help          Print this text\n" ++
  "    PATTERN             Pattern over alphanumerics, '(', ')', '|' and '*'; " ++
  "read from stdin if absent\n"

/-- How a run ends that stops at its arguments. -/
def Stop.outcome : Stop → Outcome
  | help => { exitCode := 0, stdout := usage, stderr := "" }
  | unknownOption argument =>
      { exitCode := 1, stdout := "", stderr := s!"unknown option {Text.quote argument}\n" }
  | repeatedOption argument =>
      { exitCode := 1, stdout := "", stderr := s!"option {Text.quote argument} given twice\n" }
  | extraArgument argument =>
      { exitCode := 1, stdout := "",
        stderr := s!"argument {Text.quote argument} after the pattern\n" }

namespace Options

/-- Takes an argument as the pattern. -/
def addPattern (options : Options) (argument : String) : Except Stop Options :=
  match options.pattern? with
  | none => .ok { options with pattern? := some argument }
  | some _ => .error (.extraArgument argument)

/-- Takes an argument that may be an option. Several `-v` may be written as one. -/
def addArgument (options : Options) (argument : String) : Except Stop Options :=
  if argument = "--help" ∨ argument = "-h" then .error .help
  else if argument = "--dot" then
    if options.dot then .error (.repeatedOption argument)
    else .ok { options with dot := true }
  else if argument = "--explicit-concat" then
    if options.explicitConcat then .error (.repeatedOption argument)
    else .ok { options with explicitConcat := true }
  else
    match argument.toList with
    | '-' :: c :: cs =>
        if (c :: cs).all (· == 'v') then
          .ok { options with verbosity := options.verbosity + (c :: cs).length }
        else .error (.unknownOption argument)
    | _ => options.addPattern argument

/-- Takes arguments in their order. After `--` none of them is an option. -/
def addArguments (options : Options) : List String → Except Stop Options
  | [] => .ok options
  | argument :: rest =>
      if argument = "--" then rest.foldlM addPattern options
      else (options.addArgument argument).bind (addArguments · rest)

/-- What the arguments ask for, or why they ask for nothing. -/
def ofArguments (arguments : List String) : Except Stop Options :=
  addArguments {} arguments

/-- An option is taken as what it asks for, unless it was given before. -/
theorem addArgument_text {options : Options} {s : Switch} (hdot : s = .dot → options.dot = false)
    (hexplicit : s = .explicitConcat → options.explicitConcat = false) :
    options.addArgument s.text = .ok (options.add s) := by
  cases s with
  | dot => simp [addArgument, Switch.text, add, hdot rfl]
  | explicitConcat => simp [addArgument, Switch.text, add, hexplicit rfl]
  | verbose more =>
      have htext : (Switch.verbose more).text.toList = '-' :: 'v' :: List.replicate more 'v' :=
        String.toList_ofList
      simp [addArgument, htext, add, ← String.toList_inj]

/-- No option is taken for the end of the options. -/
theorem text_ne_dashes (s : Switch) : s.text ≠ "--" := by
  cases s with
  | dot | explicitConcat => decide
  | verbose more => simp [Switch.text, ← String.toList_inj]

/-- No option names a pattern. -/
theorem pattern?_foldl_add (options : Options) (switches : List Switch) :
    (switches.foldl add options).pattern? = options.pattern? := by
  induction switches generalizing options with
  | nil => rfl
  | cons s switches ih =>
      rw [List.foldl_cons, ih]
      cases s <;> rfl

/-- What was asked for and what still will be are no more after an option is taken. -/
theorem toNat_add_le (options : Options) (s : Switch) (switches : List Switch) :
    (options.add s).dot.toNat + switches.count .dot ≤
        options.dot.toNat + (s :: switches).count .dot ∧
      (options.add s).explicitConcat.toNat + switches.count .explicitConcat ≤
        options.explicitConcat.toNat + (s :: switches).count .explicitConcat := by
  cases s with
  | dot =>
      rw [List.count_cons_self, List.count_cons_of_ne (by decide)]
      exact ⟨by simp only [add, Bool.toNat_true]; omega, Nat.le_refl _⟩
  | explicitConcat =>
      rw [List.count_cons_self, List.count_cons_of_ne (by decide)]
      exact ⟨Nat.le_refl _, by simp only [add, Bool.toNat_true]; omega⟩
  | verbose more =>
      rw [List.count_cons_of_ne (by simp), List.count_cons_of_ne (by simp)]
      exact ⟨Nat.le_refl _, Nat.le_refl _⟩

/-- Options are taken one after another, and in front of other arguments. -/
theorem addArguments_append {options : Options} {switches : List Switch}
    (hdot : options.dot.toNat + switches.count .dot ≤ 1)
    (hexplicit : options.explicitConcat.toNat + switches.count .explicitConcat ≤ 1)
    (rest : List String) :
    options.addArguments (switches.map Switch.text ++ rest) =
      (switches.foldl add options).addArguments rest := by
  induction switches generalizing options with
  | nil => rfl
  | cons s switches ih =>
      have hstep : options.addArgument s.text = .ok (options.add s) := by
        refine addArgument_text ?_ ?_
        · rintro rfl
          rw [List.count_cons_self] at hdot
          exact Bool.toNat_eq_zero.mp (by omega)
        · rintro rfl
          rw [List.count_cons_self] at hexplicit
          exact Bool.toNat_eq_zero.mp (by omega)
      obtain ⟨hdot', hexplicit'⟩ := toNat_add_le options s switches
      rw [List.map_cons, List.cons_append, addArguments, if_neg (text_ne_dashes s), hstep]
      exact ih (Nat.le_trans hdot' hdot) (Nat.le_trans hexplicit' hexplicit)

/-- Options that are not given twice are taken as what they ask for. -/
theorem addArguments_ofSwitches {switches : List Switch} (h : Once switches)
    (rest : List String) :
    addArguments {} (switches.map Switch.text ++ rest) =
      (ofSwitches switches).addArguments rest := by
  refine addArguments_append ?_ ?_ rest
  · exact Nat.le_trans (Nat.le_of_eq (Nat.zero_add _)) h.1
  · exact Nat.le_trans (Nat.le_of_eq (Nat.zero_add _)) h.2

end Options

/-- Takes arguments one after another and stops at the first that it does not understand. -/
def ArgumentReader.plain : ArgumentReader where
  read arguments := (Options.ofArguments arguments).mapError Stop.outcome
  read_switches switches honce := by
    have hread := Options.addArguments_ofSwitches honce []
    rw [List.append_nil] at hread
    rw [Options.ofArguments, hread]
    rfl
  read_pattern switches pattern honce := by
    have hnone : (Options.ofSwitches switches).pattern? = none := Options.pattern?_foldl_add {} _
    have hpattern : (Options.ofSwitches switches).addPattern pattern =
        .ok { Options.ofSwitches switches with pattern? := some pattern } := by
      rw [Options.addPattern, hnone]
    rw [Options.ofArguments, Options.addArguments_ofSwitches honce, Options.addArguments,
      if_pos rfl, List.foldlM_cons, hpattern]
    rfl

end PatternNfa.CommandLine
