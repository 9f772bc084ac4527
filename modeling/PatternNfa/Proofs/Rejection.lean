import Mathlib.Data.List.Chain
import PatternNfa.Proofs.Agreement
import PatternNfa.Proofs.WellFormed

/-!
# `PatternNfa.Proofs.Rejection`: what a rejected pattern is told

Where concatenations are not written, a compilation looks for faults in three rounds, and a later
round is only reached if the earlier ones found none. Scanning stops at the first foreign character
(`Token.scanFrom_eq_error`), putting tokens into postfix order at a parenthesis without a partner
(`toPostfixFrom_byParentheses`), and the evaluation where an operand is missing. `Diagnosis` says
what each fault is reported as, and where.

The evaluation could also fail with too many operands, but spelling concatenations out rules that
out (`Token.length_add_gaps`), however malformed the pattern is. If nothing at all is left in the
end, there was nothing to evaluate, so the pattern had neither symbols nor operators, and no two
groups side by side: it consists of one group inside the other (`toPostfix_eq_nil_iff`).
-/

set_option autoImplicit false

namespace PatternNfa

/-- The character is no symbol, and none of the four that a pattern is structured with. -/
def IsForeign (c : Char) : Prop :=
  Text.isAlphanumeric c = false ∧ c ∉ ['(', ')', '|', '*']

/-- The text is one empty group inside the other, any number of times. -/
def Nested (cs : List Char) : Prop := ∃ n, cs = List.replicate n '(' ++ List.replicate n ')'

/-- What is reported about the pattern, and where. -/
inductive Diagnosis (pattern : String) : CompileError → Prop where
  /-- The first foreign character. -/
  | invalidCharacter {u v : List Char} {c : Char} :
      pattern.toList = u ++ c :: v → (∀ d ∈ u, ¬ IsForeign d) → IsForeign c →
      Diagnosis pattern (.parsing (.invalidCharacter c (Text.utf8Size u)))
  /-- Without foreign characters, the first closing parenthesis that has no partner. -/
  | unmatchedClosing {u v : List Char} :
      (∀ c ∈ pattern.toList, ¬ IsForeign c) →
      pattern.toList = u ++ ')' :: v → openAfter 0 u = some 0 →
      Diagnosis pattern (.parsing (.unmatchedParenthesis (Text.utf8Size u)))
  /-- If all closing parentheses have partners, the last opening one that has none. All groups that
  are opened after it are closed. -/
  | unmatchedOpening {u v : List Char} {n : Nat} :
      (∀ c ∈ pattern.toList, ¬ IsForeign c) →
      pattern.toList = u ++ '(' :: v → openAfter 0 u = some n → openAfter 0 v = some 0 →
      Diagnosis pattern (.parsing (.unmatchedParenthesis (Text.utf8Size u)))
  /-- Nothing but empty groups. -/
  | nothing :
      Nested pattern.toList → Diagnosis pattern (.missingOperand none pattern.utf8ByteSize)
  /-- In everything else that is rejected some operator lacks an operand. -/
  | missingOperand {operator : Char} {offset : Nat} :
      (∀ c ∈ pattern.toList, ¬ IsForeign c) → openAfter 0 pattern.toList = some 0 →
      ¬ Nested pattern.toList → Diagnosis pattern (.missingOperand (some operator) offset)

/-! ### Foreign characters -/

/-- The characters that stand for nothing are the foreign ones. -/
theorem Kind.ofChar?_eq_none_iff (c : Char) : ofChar? false c = none ↔ IsForeign c := by
  constructor
  · intro h
    constructor
    · rw [← Bool.not_eq_true]
      intro hc
      rw [ofChar?_of_isAlphanumeric false hc] at h
      cases h
    · intro hc
      simp only [List.mem_cons, List.not_mem_nil, or_false] at hc
      rcases hc with rfl | rfl | rfl | rfl <;> cases h
  · rintro ⟨hsymbol, hoperator⟩
    cases hk : ofChar? false c with
    | none => rfl
    | some k =>
        have hchar : k.char = c := char_of_ofChar? hk
        subst hchar
        cases k with
        | symbol c => exact absurd (isAlphanumeric_of_ofChar? hk) (Bool.eq_false_iff.mp hsymbol)
        | leftParen | rightParen | union | star => exact absurd (by decide) hoperator
        | concat => cases hk

/-- A character that is not foreign stands for something. -/
theorem not_isForeign_iff (c : Char) : ¬ IsForeign c ↔ (Kind.ofChar? false c).isSome := by
  rw [← Kind.ofChar?_eq_none_iff, Option.isSome_iff_ne_none]

namespace Token

/-- A scan fails at the first character that stands for nothing. -/
theorem scanFrom_eq_error {flags : Flags} {offset : Nat} {cs : List Char} {cause : ParseError}
    (h : scanFrom flags offset cs = .error cause) :
    ∃ u c v, cs = u ++ c :: v ∧ (∀ d ∈ u, (Kind.ofChar? flags.explicitConcat d).isSome) ∧
      Kind.ofChar? flags.explicitConcat c = none ∧
      cause = .invalidCharacter c (offset + Text.utf8Size u) := by
  induction cs generalizing offset with
  | nil => cases h
  | cons c cs ih =>
      rw [scanFrom] at h
      split at h
      · rename_i hc
        cases h
        exact ⟨[], c, cs, rfl, by simp, hc, rfl⟩
      · rename_i k hk
        cases hrest : scanFrom flags (offset + c.utf8Size) cs with
        | ok ts =>
            rw [hrest] at h
            cases h
        | error cause' =>
            rw [hrest] at h
            cases h
            obtain ⟨u, d, v, rfl, hu, hd, hcause⟩ := ih hrest
            refine ⟨c :: u, d, v, rfl, ?_, hd, ?_⟩
            · rw [List.forall_mem_cons, hk]
              exact ⟨rfl, hu⟩
            · rw [hcause, Text.utf8Size, Nat.add_assoc]

/-- A token has the offset at which its character stands. -/
theorem offset_of_scanFrom {flags : Flags} {offset : Nat} {cs : List Char} {us vs : List Token}
    {t : Token} (h : scanFrom flags offset cs = .ok (us ++ t :: vs)) :
    t.offset = offset + Text.utf8Size (us.map char) := by
  induction us generalizing offset cs with
  | nil =>
      cases cs with
      | nil => cases h
      | cons c cs =>
          rw [scanFrom] at h
          split at h
          · cases h
          · obtain ⟨rest, -, heq⟩ := Except.exists_of_map_eq_ok h
            cases heq
            rfl
  | cons u us ih =>
      cases cs with
      | nil => cases h
      | cons c cs =>
          rw [scanFrom] at h
          split at h
          · cases h
          · rename_i k hk
            obtain ⟨rest, hrest, heq⟩ := Except.exists_of_map_eq_ok h
            cases heq
            have hchar : char { kind := k, offset := offset } = c := Kind.char_of_ofChar? hk
            rw [ih hrest, List.map_cons, Text.utf8Size, hchar, Nat.add_assoc]

end Token

/-! ### Nothing but groups -/

/-- Parentheses that close all groups, with no closing one before an opening one. -/
theorem eq_replicate_of_chain {cs : List Char} {n : Nat}
    (hparen : ∀ c ∈ cs, c = '(' ∨ c = ')')
    (hchain : cs.IsChain fun x y => needsConcat x y = false) (hopen : openAfter n cs = some 0) :
    ∃ m, cs = List.replicate m '(' ++ List.replicate (n + m) ')' := by
  induction cs generalizing n with
  | nil =>
      cases hopen
      exact ⟨0, rfl⟩
  | cons c cs ih =>
      rw [List.forall_mem_cons] at hparen
      rcases hparen.1 with rfl | rfl
      · rw [openAfter_leftParen] at hopen
        obtain ⟨m, rfl⟩ := ih hparen.2 hchain.tail hopen
        exact ⟨m + 1, by rw [List.replicate_succ, List.cons_append, Nat.succ_add_eq_add_succ]⟩
      · cases n with
        | zero =>
            rw [openAfter_rightParen_zero] at hopen
            cases hopen
        | succ n =>
            rw [openAfter_rightParen] at hopen
            obtain ⟨m, rfl⟩ := ih hparen.2 hchain.tail hopen
            -- No group is opened after one that is closed.
            cases m with
            | zero => exact ⟨0, rfl⟩
            | succ m =>
                rw [List.replicate_succ, List.cons_append, List.isChain_cons_cons] at hchain
                exact absurd hchain.1 (by decide)

/-- A balanced text has nothing but empty groups inside each other if it has parentheses only and no
two groups next to each other. -/
theorem nested_iff {cs : List Char} (hopen : openAfter 0 cs = some 0) :
    Nested cs ↔
      (∀ c ∈ cs, c = '(' ∨ c = ')') ∧ cs.IsChain fun x y => needsConcat x y = false := by
  constructor
  · rintro ⟨n, rfl⟩
    refine ⟨?_, ?_⟩
    · intro c hc
      rcases List.mem_append.mp hc with hc | hc
      · exact .inl (List.eq_of_mem_replicate hc)
      · exact .inr (List.eq_of_mem_replicate hc)
    · rw [List.isChain_append]
      refine ⟨List.isChain_replicate_of_rel n rfl, List.isChain_replicate_of_rel n rfl, ?_⟩
      intro x hx y _
      have hx : x = '(' := List.eq_of_mem_replicate (List.mem_of_getLast? hx)
      rw [hx]
      rfl
  · rintro ⟨hparen, hchain⟩
    obtain ⟨n, hcs⟩ := eq_replicate_of_chain hparen hchain hopen
    exact ⟨n, by rwa [Nat.zero_add] at hcs⟩

namespace Token

/-- What holds of no concatenation holds of spelt-out tokens if it holds of the tokens and none is
spelt out. -/
theorem forall_mem_expand_iff {P : Token → Prop} (hP : ∀ t, t.kind = .concat → ¬ P t)
    (ts : List Token) :
    (∀ t ∈ expand ts, P t) ↔
      (∀ t ∈ ts, P t) ∧ (ts.map char).IsChain fun x y => needsConcat x y = false := by
  induction ts with
  | nil => simp [expand]
  | cons t ts ih =>
      cases ts with
      | nil => simp [expand]
      | cons u us =>
          have hbetween : (∀ v ∈ between t u, P v) ↔ needsConcat t.char u.char = false := by
            rw [between]
            cases needsConcat t.char u.char with
            | true => simpa using hP _ rfl
            | false => simp
          rw [expand_cons_cons, List.cons_append, List.forall_mem_cons, List.forall_mem_append,
            hbetween, ih, List.forall_mem_cons (a := t), List.map_cons (a := t), List.map_cons,
            List.isChain_cons_cons, ← List.map_cons]
          -- What is said of the two neighbours stands in front of the rest of the tokens or of the
          -- rest of the chain.
          rw [and_assoc]
          exact and_congr_right fun _ => and_left_comm

/-- The postfix order of a pattern is empty just where the pattern has nothing but empty groups. -/
theorem toPostfix_eq_nil_iff {ts out : List Token} (hspelt : ∀ t ∈ ts, Spelt false t)
    (hout : toPostfix (expand ts) = .ok out) : out = [] ↔ Nested (ts.map char) := by
  have hopen := openAfter_of_toPostfix_expand hspelt hout
  have hperm : out.Perm (ordered (expand ts)) := toPostfixFrom_perm hout
  have hnil : out = [] ↔ ordered (expand ts) = [] := by
    rw [← List.length_eq_zero_iff, hperm.length_eq, List.length_eq_zero_iff]
  have hordered : ordered (expand ts) = [] ↔ ∀ t ∈ expand ts, t.kind.isParen = true := by
    rw [ordered, List.filter_eq_nil_iff]
    simp
  have hconcat : ∀ t : Token, t.kind = .concat → ¬ t.kind.isParen = true := by
    intro t ht
    rw [ht]
    exact Bool.false_ne_true
  have hparen : (∀ t ∈ ts, t.kind.isParen = true) ↔ ∀ c ∈ ts.map char, c = '(' ∨ c = ')' := by
    rw [List.forall_mem_map]
    refine forall₂_congr fun t ht => ⟨Kind.char_of_isParen, ?_⟩
    rintro (hc | hc)
    · rw [kind_of_char (k := .leftParen) (hspelt t ht) rfl hc]
      rfl
    · rw [kind_of_char (k := .rightParen) (hspelt t ht) rfl hc]
      rfl
  rw [hnil, hordered, forall_mem_expand_iff hconcat, hparen, nested_iff hopen]

end Token

/-! ### Compiling -/

/-- A pattern that is scanned has no foreign characters. -/
theorem not_isForeign_of_scan {pattern : String} {ts : List Token}
    (hscan : Token.scan {} pattern = .ok ts) : ∀ c ∈ pattern.toList, ¬ IsForeign c := by
  obtain ⟨hchars, hspelt⟩ := Token.scanFrom_eq_ok hscan
  rw [← hchars, List.forall_mem_map]
  intro t ht
  rw [not_isForeign_iff, hspelt t ht]
  rfl

/-- The parenthesis without a partner among the tokens of a pattern is the one in its text. -/
theorem Diagnosis.of_unmatched {pattern : String} {ts : List Token} {t : Token}
    (hscan : Token.scan {} pattern = .ok ts) (h : Token.Unmatched ts t) :
    Diagnosis pattern (.parsing (.unmatchedParenthesis t.offset)) := by
  obtain ⟨hchars, hspelt⟩ := Token.scanFrom_eq_ok hscan
  have hforeign := not_isForeign_of_scan hscan
  cases h with
  | @closing u v _ ht hu =>
      rw [Token.offset_of_scanFrom hscan, Nat.zero_add]
      rw [List.forall_mem_append] at hspelt
      refine .unmatchedClosing (v := v.map Token.char) hforeign ?_ ?_
      · rw [← hchars, List.map_append, List.map_cons, Token.char, ht, Kind.char]
      · rw [Token.openAfter_map_char hspelt.1]
        exact hu
  | @opening u v _ n ht hu hv =>
      rw [Token.offset_of_scanFrom hscan, Nat.zero_add]
      rw [List.forall_mem_append, List.forall_mem_cons] at hspelt
      refine .unmatchedOpening (v := v.map Token.char) (n := n) hforeign ?_ ?_ ?_
      · rw [← hchars, List.map_append, List.map_cons, Token.char, ht, Kind.char]
      · rw [Token.openAfter_map_char hspelt.1]
        exact hu
      · rw [Token.openAfter_map_char hspelt.2.2]
        exact hv
  | waiting _ hstack _ => exact absurd hstack.symm (by simp)

/-- The parenthesis without a partner among spelt-out tokens was one before concatenations were
spelt out. -/
theorem Token.unmatched_of_toPostfix_expand {ts : List Token} {cause : ParseError}
    (hspelt : ∀ t ∈ ts, Spelt false t) (h : toPostfix (expand ts) = .error cause) :
    ∃ t, Unmatched ts t ∧ cause = .unmatchedParenthesis t.offset := by
  obtain ⟨t, ht, rfl⟩ := unmatched_of_toPostfix h
  have hfilter : ts.filter (·.kind ≠ .concat) = ts := by
    rw [List.filter_eq_self]
    intro t ht
    apply decide_eq_true
    intro hconcat
    have hspelt := hspelt t ht
    rw [Spelt, Token.char, hconcat] at hspelt
    cases hspelt
  have hunmatched : Unmatched ((expand ts).filter (·.kind ≠ .concat)) t :=
    Unmatched.filter ne_concat_of_isParen ht
  rw [filter_expand, hfilter] at hunmatched
  exact ⟨t, hunmatched, rfl⟩

/-- An evaluation that fails leaves nothing behind, if there was nothing to evaluate, or lacks an
operand for one of the tokens. -/
theorem Nfa.compile_error_of_parse {pattern : String} {ts out : List Token} {e : CompileError}
    (hparse : (parse {} pattern).result = .ok out) (hspelt : ∀ t ∈ ts, Token.Spelt false t)
    (hout : Token.toPostfix (Token.expand ts) = .ok out) (h : compile {} pattern = .error e) :
    (out = [] ∧ e = .missingOperand none pattern.utf8ByteSize) ∨
      (out ≠ [] ∧ ∃ t ∈ out, e = .missingOperand (some t.char) t.offset) := by
  rw [compile_of_parse_ok hparse] at h
  cases hread : Expr.read (out.map Token.kind) [] with
  | none =>
      obtain ⟨t, ht, -, -, -, herror, -⟩ :=
        Arena.evaluateFrom_of_read_none pattern.utf8ByteSize 0 {} rfl hread
      have hparen : t.kind.isParen = false := (Token.mem_of_mem_toPostfix hout ht).2
      have hresult : (Arena.evaluate {} out pattern.utf8ByteSize).outcome.result =
          .error (Arena.evaluationError t) := herror
      rw [hresult, Arena.evaluationError, hparen] at h
      cases h
      exact .inr ⟨List.ne_nil_of_mem ht, t, ht, rfl⟩
  | some es =>
      have hresult : (Arena.evaluate {} out pattern.utf8ByteSize).outcome.result =
          Arena.single pattern.utf8ByteSize (Expr.buildAll {} es).1 :=
        (Arena.evaluateFrom_of_read pattern.utf8ByteSize {} hread).2
      rw [hresult] at h
      have hlength := Token.length_add_gaps hspelt hout hread
      rcases es with _ | ⟨e, _ | ⟨e', es⟩⟩
      · cases h
        have hnil : [] = out.map Token.kind := Expr.postorders_of_read hread
        exact .inl ⟨List.map_eq_nil_iff.mp hnil.symm, rfl⟩
      · cases h
      · rw [List.length_cons, List.length_cons] at hlength
        omega

/-- A pattern without written concatenations that is rejected is told the first fault that is found
in it, and never that operands are left over. -/
theorem compile_error_diagnosis {pattern : String} {e : CompileError}
    (h : Nfa.compile {} pattern = .error e) :
    Diagnosis pattern e ∧ ∀ count, e ≠ .excessOperands count := by
  have hdiagnosis : Diagnosis pattern e := by
    cases hscan : Token.scan {} pattern with
    | error cause =>
        have hparse : (parse {} pattern).result = .error cause := by
          rw [parse_result, hscan]
          rfl
        rw [Nfa.compile_of_parse_error hparse] at h
        cases h
        obtain ⟨u, c, v, hpattern, hu, hc, rfl⟩ := Token.scanFrom_eq_error hscan
        rw [Nat.zero_add]
        exact .invalidCharacter hpattern (fun d hd => (not_isForeign_iff d).mpr (hu d hd))
          ((Kind.ofChar?_eq_none_iff c).mp hc)
    | ok ts =>
        obtain ⟨hchars, hspelt⟩ := Token.scanFrom_eq_ok hscan
        have hparse : (parse {} pattern).result = Token.toPostfix (Token.expand ts) := by
          rw [parse_result, hscan]
          rfl
        cases hout : Token.toPostfix (Token.expand ts) with
        | error cause =>
            rw [Nfa.compile_of_parse_error (hparse.trans hout)] at h
            cases h
            obtain ⟨t, ht, rfl⟩ := Token.unmatched_of_toPostfix_expand hspelt hout
            exact .of_unmatched hscan ht
        | ok out =>
            have hnested := Token.toPostfix_eq_nil_iff hspelt hout
            rw [hchars] at hnested
            rcases Nfa.compile_error_of_parse (hparse.trans hout) hspelt hout h with
              ⟨hnil, rfl⟩ | ⟨hne, t, -, rfl⟩
            · exact .nothing (hnested.mp hnil)
            · refine .missingOperand (not_isForeign_of_scan hscan) ?_ fun hcs =>
                hne (hnested.mpr hcs)
              rw [← hchars]
              exact Token.openAfter_of_toPostfix_expand hspelt hout
  refine ⟨hdiagnosis, fun count hcount => ?_⟩
  subst hcount
  cases hdiagnosis

/-- The first group is never closed, the second one is. So it is the first that is reported, and no
operand is said to be left over. -/
theorem compile_error_diagnosis_of_open_group :
    Nfa.compile {} "a|(()" = .error (.parsing (.unmatchedParenthesis 2)) ∧
      Diagnosis "a|(()" (.parsing (.unmatchedParenthesis 2)) ∧
      ∀ count, CompileError.parsing (.unmatchedParenthesis 2) ≠ .excessOperands count := by
  have hcompile : Nfa.compile {} "a|(()" = .error (.parsing (.unmatchedParenthesis 2)) := by decide
  exact ⟨hcompile, compile_error_diagnosis hcompile⟩

end PatternNfa
