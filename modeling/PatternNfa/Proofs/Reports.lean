import PatternNfa.Nfa
import PatternNfa.Nfa.Listing
import PatternNfa.Proofs.Reading

/-!
# `PatternNfa.Proofs.Reports`: what a compilation reports

A compilation reports what its stages did, and a failure only cuts the reports off. None of them is
an error or a warning, whatever the options are, and each is one line whatever the pattern is:
patterns are quoted, and a token that is evaluated is written with its own character, which stands
for something and so is no line feed (`forall_mem_records_compileLogged`).

The option that makes the stages report at another level has no other effect: `compile_congr` says
that a compilation depends on how concatenations are written, and on nothing else.
-/

set_option autoImplicit false

namespace PatternNfa

/-! ### Texts of one line -/

/-- The text has no line feed. -/
def OneLine (s : String) : Prop := '\n' ∉ s.toList

/-- The text of some characters is one line if none of them is a line feed. -/
theorem oneLine_ofList_iff (cs : List Char) : OneLine (String.ofList cs) ↔ '\n' ∉ cs := by
  rw [OneLine, String.toList_ofList]

instance (s : String) : Decidable (OneLine s) := inferInstanceAs (Decidable (¬ '\n' ∈ s.toList))

/-- Two texts are one line together if each of them is. -/
@[simp]
theorem oneLine_append_iff (s t : String) : OneLine (s ++ t) ↔ OneLine s ∧ OneLine t := by
  rw [OneLine, String.toList_append, List.mem_append, not_or]
  rfl

/-- The digits of a number are no line feeds. -/
theorem newline_not_mem_toDigits {b : Nat} (hb : 1 < b) (hb' : b ≤ 16) (n : Nat) :
    '\n' ∉ Nat.toDigits b n := by
  have hdigit : ∀ d, d < 16 → '\n' ≠ Nat.digitChar d := by decide
  induction n using Nat.strongRecOn with
  | ind n ih =>
      rw [Nat.toDigits_eq_if hb]
      split
      · rename_i hn
        rw [List.mem_singleton]
        exact hdigit n (by omega)
      · rename_i hn
        have hrest : n / b < n := Nat.div_lt_self (by omega) hb
        have hlast : n % b < b := Nat.mod_lt n (by omega)
        rw [List.mem_append, List.mem_singleton]
        exact not_or.mpr ⟨ih (n / b) hrest, hdigit (n % b) (by omega)⟩

/-- A number is one line. -/
@[simp]
theorem oneLine_repr (n : Nat) : OneLine n.repr := by
  rw [Nat.repr_eq_ofList_toDigits, oneLine_ofList_iff]
  exact newline_not_mem_toDigits (by decide) (by decide) n

namespace Text

/-- A line feed is escaped, and no other character is escaped to one. -/
theorem newline_not_mem_escape {mark : Char} (hmark : mark ≠ '\n') (c : Char) :
    '\n' ∉ escape mark c := by
  have hpoint : '\n' ∉ codePointEscape c := by
    have hdigits := newline_not_mem_toDigits (b := 16) (by decide) (by decide) c.toNat
    simp [codePointEscape, hdigits]
  rw [escape]
  split_ifs with h0 ht hr hn
  · decide
  · decide
  · decide
  · decide
  · decide
  · simp [hmark.symm]
  · rw [List.mem_singleton]
    exact fun h => hn h.symm
  · exact hpoint

/-- A quoted text is one line, whatever it is. -/
theorem oneLine_quoteWith {mark : Char} (hmark : mark ≠ '\n') (cs : List Char) :
    OneLine (quoteWith mark cs) := by
  rw [quoteWith, oneLine_ofList_iff, List.mem_append, List.mem_cons, List.mem_flatMap,
    List.mem_singleton]
  rintro ((h | ⟨c, -, hc⟩) | h)
  · exact hmark h.symm
  · exact newline_not_mem_escape hmark c hc
  · exact hmark h.symm

/-- Quoted with quotation marks, it is one as well. -/
@[simp]
theorem oneLine_quote (s : String) : OneLine (quote s) := oneLine_quoteWith (by decide) s.toList

end Text

/-! ### Coloured texts -/

namespace Text.Style

/-- The sequences that open a style anew hold no line feed if those that open it hold none. -/
theorem newline_not_mem_reopen {again cs : List Char} (hagain : '\n' ∉ again) (hcs : '\n' ∉ cs) :
    '\n' ∉ reopen again cs := by
  fun_induction reopen again cs with
  | case1 rest ih =>
      have hrest := ih (fun h => hcs (by simp [h]))
      simp [hagain, hrest]
  | case2 c rest _ ih =>
      rw [List.mem_cons, not_or] at hcs ⊢
      exact ⟨hcs.1, ih hcs.2⟩
  | case3 => exact List.not_mem_nil

/-- A text of one line is one line in colour as well. -/
theorem oneLine_paint {style : Style} (hcodes : OneLine style.codes) {text : String}
    (htext : OneLine text) (coloured : Bool) : OneLine (style.paint coloured text) := by
  have hopening : OneLine style.opening := by simp +decide [opening, hcodes]
  cases coloured with
  | false => exact htext
  | true =>
      have hreopened : OneLine (String.ofList (reopen style.opening.toList text.toList)) :=
        (oneLine_ofList_iff _).mpr (newline_not_mem_reopen hopening htext)
      rw [paint, if_pos rfl]
      simp +decide [hopening, hreopened]

end Text.Style

/-- A summary is one line if the pattern is. -/
theorem Nfa.oneLine_summary {nfa : Nfa} (h : OneLine nfa.pattern) (coloured : Bool) :
    OneLine (nfa.summary coloured) := by
  have hpattern : OneLine (Text.Style.bold.paint coloured nfa.pattern) :=
    Text.Style.oneLine_paint (by decide) h coloured
  have hstart : OneLine (Text.Style.green.paint coloured nfa.start.repr) :=
    Text.Style.oneLine_paint (by decide) (oneLine_repr _) coloured
  have haccept : OneLine (Text.Style.blue.paint coloured nfa.accept.repr) :=
    Text.Style.oneLine_paint (by decide) (oneLine_repr _) coloured
  rw [summary]
  simp +decide [hpattern, hstart, haccept]

/-! ### Records -/

namespace Log

/-- The record is no error and no warning, and its message is one line. -/
structure Record.Plain (r : Record) : Prop where
  info_le : Level.info.rank ≤ r.level.rank
  oneLine : OneLine r.event.message

/-- Messages quote patterns. They are one line unless they hold something else that is not. -/
theorem Event.oneLine_message {e : Event} (htoken : ∀ t, e = .evaluating t → t.char ≠ '\n')
    (hsummary : ∀ s, e = .summarized s → OneLine s) : OneLine e.message := by
  cases e with
  | tokenized pattern count =>
      show OneLine ("tokenized " ++ Text.quote pattern ++ " into " ++ toString count ++ " tokens")
      simp +decide
  | expanded pattern text =>
      show OneLine ("expanded " ++ Text.quote pattern ++ " into " ++ Text.quote text)
      simp +decide
  | ordered pattern text =>
      show OneLine ("postfix form of " ++ Text.quote pattern ++ " is " ++ Text.quote text)
      simp +decide
  | evaluating t =>
      have hchar : OneLine (toString t.char) := by
        show '\n' ∉ (String.singleton t.char).toList
        rw [String.toList_singleton, List.mem_singleton]
        exact (htoken t rfl).symm
      show OneLine ("evaluating " ++ toString t.char ++ " at offset " ++ toString t.offset)
      simp +decide [hchar]
  | compiled pattern states start accept =>
      show OneLine ("compiled " ++ Text.quote pattern ++ " into " ++ toString states ++
        " states (start " ++ toString start ++ ", accept " ++ toString accept ++ ")")
      simp +decide
  | summarized summary => exact hsummary summary rfl

/-- A record that is no summary is plain if it is neither an error nor a warning, and not about a
line feed. -/
theorem Record.Plain.of_message {level : Level} {e : Event} (hlevel : Level.info.rank ≤ level.rank)
    (htoken : ∀ t, e = .evaluating t → t.char ≠ '\n') (hsummary : ∀ s, e ≠ .summarized s) :
    Record.Plain { level, event := e } where
  info_le := hlevel
  oneLine := Event.oneLine_message htoken fun s hs => absurd hs (hsummary s)

end Log

/-- Stages report at a level that is no error and no warning. -/
theorem Flags.info_le_stageLevel (flags : Flags) :
    Log.Level.info.rank ≤ flags.stageLevel.rank := by
  rw [stageLevel]
  split <;> decide

namespace Logged

variable {ε δ α β : Type} {P : Log.Record → Prop}

/-- What holds of the records of two steps holds of those of both. -/
theorem forall_mem_records_bind {x : Logged ε α} {f : α → Logged ε β} (hx : ∀ r ∈ x.records, P r)
    (hf : ∀ a, x.result = .ok a → ∀ r ∈ (f a).records, P r) : ∀ r ∈ (x >>= f).records, P r := by
  rcases x with ⟨records, result⟩
  cases result with
  | error e => exact hx
  | ok a => exact fun r hr => (List.mem_append.mp hr).elim (hx r) (hf a rfl r)

/-- A computation that succeeds does so before its failure is put differently. -/
theorem result_of_mapError {f : ε → δ} {x : Logged ε α} {a : α}
    (h : (x.mapError f).result = .ok a) : x.result = .ok a := by
  rcases x with ⟨records, result⟩
  cases result with
  | error e => cases h
  | ok b =>
      cases h
      rfl

/-- There are no records of a result alone. -/
theorem forall_mem_records_ofExcept {result : Except ε α} :
    ∀ r ∈ (ofExcept result).records, P r := fun _ hr => absurd hr List.not_mem_nil

/-- What holds of a record holds of all records of its report. -/
theorem forall_mem_records_report {level : Log.Level} {event : Log.Event}
    (h : P { level, event }) : ∀ r ∈ (report level event : Logged ε Unit).records, P r :=
  List.forall_mem_singleton.mpr h

end Logged

/-! ### Compiling -/

open Log (Record)

/-- Parsing reports patterns and their texts, all of them quoted. -/
theorem forall_mem_records_parse (flags : Flags) (pattern : String) :
    ∀ r ∈ (parse flags pattern).records, r.Plain := by
  refine Logged.forall_mem_records_bind Logged.forall_mem_records_ofExcept fun ts _ => ?_
  refine Logged.forall_mem_records_bind (Logged.forall_mem_records_report ?_) fun _ _ => ?_
  · exact .of_message (by decide) nofun nofun
  refine Logged.forall_mem_records_bind (Logged.forall_mem_records_report ?_) fun _ _ => ?_
  · exact .of_message flags.info_le_stageLevel nofun nofun
  refine Logged.forall_mem_records_bind Logged.forall_mem_records_ofExcept fun out _ => ?_
  refine Logged.forall_mem_records_bind (Logged.forall_mem_records_report ?_) fun _ _ => ?_
  · exact .of_message flags.info_le_stageLevel nofun nofun
  exact Logged.forall_mem_records_ofExcept

/-- An evaluation reports each token that it gets to. -/
theorem Arena.forall_mem_records_evaluateFrom (endOffset : Nat) (a : Arena)
    (stack : List Fragment) {ts : List Token} (hts : ∀ t ∈ ts, t.char ≠ '\n') :
    ∀ r ∈ (evaluateFrom endOffset a stack ts).outcome.records, r.Plain := by
  induction ts generalizing a stack with
  | nil => exact Logged.forall_mem_records_ofExcept
  | cons t ts ih =>
      rw [List.forall_mem_cons] at hts
      have hrecord : Record.Plain { level := .trace, event := .evaluating t } :=
        .of_message (by decide) (fun u hu => by cases hu; exact hts.1) nofun
      rw [evaluateFrom, Evaluation.afterRecord, List.forall_mem_cons]
      refine ⟨hrecord, ?_⟩
      split
      · exact Logged.forall_mem_records_ofExcept
      · exact ih _ _ hts.2

/-- A token that stands for something is no line feed. -/
theorem Token.Spelt.char_ne_newline {explicitConcat : Bool} {t : Token}
    (h : Spelt explicitConcat t) : t.char ≠ '\n' := by
  intro hchar
  rw [Spelt, hchar] at h
  cases explicitConcat <;> cases h

/-- No stage reports an error or a warning, or anything longer than a line. -/
theorem forall_mem_records_compileLogged (flags : Flags) (pattern : String) :
    ∀ r ∈ (Nfa.compileLogged flags pattern).records, r.Plain := by
  refine Logged.forall_mem_records_bind (forall_mem_records_parse flags pattern) fun out hout => ?_
  have hchars : ∀ t ∈ out, t.char ≠ '\n' := fun t ht =>
    (spelt_of_parse (Logged.result_of_mapError hout) t ht).char_ne_newline
  refine Logged.forall_mem_records_bind
    (Arena.forall_mem_records_evaluateFrom pattern.utf8ByteSize {} [] hchars) fun f _ => ?_
  refine Logged.forall_mem_records_bind (Logged.forall_mem_records_report ?_) fun _ _ => ?_
  · exact .of_message flags.info_le_stageLevel nofun nofun
  exact Logged.forall_mem_records_ofExcept

/-! ### Options that matter -/

namespace Token

variable {flags flags' : Flags} (h : flags.explicitConcat = flags'.explicitConcat)

include h

/-- Scanning depends on how concatenations are written, and on no other option. -/
theorem scanFrom_congr (offset : Nat) (cs : List Char) :
    scanFrom flags offset cs = scanFrom flags' offset cs := by
  induction cs generalizing offset with
  | nil => rfl
  | cons c cs ih => rw [scanFrom, scanFrom, h, ih]

/-- And so does scanning from the first character on. -/
theorem scan_congr (pattern : String) : scan flags pattern = scan flags' pattern :=
  scanFrom_congr h 0 pattern.toList

/-- And so does spelling out. -/
theorem spellOut_congr (ts : List Token) : spellOut flags ts = spellOut flags' ts := by
  rw [spellOut, spellOut, h]

end Token

/-- The result of a compilation depends on one option. -/
theorem Nfa.compile_congr {flags flags' : Flags} (h : flags.explicitConcat = flags'.explicitConcat)
    (pattern : String) : compile flags pattern = compile flags' pattern := by
  rw [compile_eq, compile_eq, parse_result, parse_result, Token.scan_congr h,
    funext (Token.spellOut_congr h)]

end PatternNfa
