import PatternNfa.Diagnostic
import PatternNfa.Proofs.Rejection

/-!
# `PatternNfa.Proofs.Offsets`: errors point at what they are about

An offset is read off the text once, when a token is scanned, and then carried along: spelling
concatenations out gives a new token the offset of the one after it, and putting tokens into postfix
order and evaluating them only moves them around. So an error stands at a character of the pattern,
and `Located` says which one it is for each kind of error.

`compile_error_located` adds where the caret of the diagnostic is drawn. The offset of an error is
the number of bytes of some characters with which the pattern begins, so it has a column
(`columnAt?_utf8Size`), and the caret stands under it.
-/

set_option autoImplicit false

namespace PatternNfa

/-- The character stands at the byte offset of the pattern. -/
def StandsAt (pattern : String) (c : Char) (offset : Nat) : Prop :=
  ∃ before after, pattern.toList = before ++ c :: after ∧ offset = Text.utf8Size before

/-- What the error is about stands where the error says. -/
inductive Located (flags : Flags) (pattern : String) : CompileError → Prop where
  | invalidCharacter {c : Char} {o : Nat} :
      StandsAt pattern c o → Located flags pattern (.parsing (.invalidCharacter c o))
  | unmatchedParenthesis {c : Char} {o : Nat} :
      StandsAt pattern c o → c = '(' ∨ c = ')' →
      Located flags pattern (.parsing (.unmatchedParenthesis o))
  /-- An operator of the pattern. -/
  | written {operator : Char} {o : Nat} :
      StandsAt pattern operator o →
      operator = '*' ∨ operator = '|' ∨ operator = '.' ∧ flags.explicitConcat = true →
      Located flags pattern (.missingOperand (some operator) o)
  /-- A concatenation that the pattern leaves unwritten, before an operand and behind something. -/
  | unwritten {c : Char} {o : Nat} :
      flags.explicitConcat = false → StandsAt pattern c o → 0 < o →
      Text.isAlphanumeric c = true ∨ c = '(' →
      Located flags pattern (.missingOperand (some '.') o)
  /-- The end of a pattern without operands. -/
  | nothing : Located flags pattern (.missingOperand none pattern.utf8ByteSize)
  | excessOperands {count : Nat} : Located flags pattern (.excessOperands count)

/-! ### Tokens -/

namespace Token

variable {flags : Flags} {pattern : String} {ts us vs : List Token} {t u : Token}

/-- A scanned token stands where its offset says. -/
theorem standsAt_of_scan (h : scan flags pattern = .ok ts) (ht : t ∈ ts) :
    StandsAt pattern t.char t.offset := by
  obtain ⟨us, vs, rfl⟩ := List.mem_iff_append.mp ht
  refine ⟨us.map char, vs.map char, ?_, ?_⟩
  · rw [← (scanFrom_eq_ok h).1, List.map_append, List.map_cons]
  · rw [offset_of_scanFrom h, Nat.zero_add]

/-- Only the first token stands at the beginning. -/
theorem offset_pos_of_scan (h : scan flags pattern = .ok (us ++ t :: u :: vs)) : 0 < u.offset := by
  rw [List.append_cons] at h
  rw [offset_of_scanFrom h, List.map_append, List.map_singleton, Text.utf8Size_append,
    Text.utf8Size_singleton]
  have hpos : 0 < t.char.utf8Size := Char.utf8Size_pos t.char
  omega

/-- An operand begins with a symbol or with a group. -/
theorem isAlphanumeric_or_of_spelt (ht : Spelt false t) (hcloses : closesContext t.char = false) :
    Text.isAlphanumeric t.char = true ∨ t.char = '(' := by
  rcases t with ⟨kind, offset⟩
  cases kind with
  | symbol c => exact .inl (Kind.isAlphanumeric_of_ofChar? ht)
  | leftParen => exact .inr rfl
  | concat => cases ht
  | rightParen | union | star => cases hcloses

end Token

/-! ### Errors -/

namespace Located

variable {flags : Flags} {pattern : String} {ts : List Token} {t : Token}

/-- Parentheses are never added to a pattern. -/
theorem of_isParen (hscan : Token.scan flags pattern = .ok ts) (ht : t ∈ Token.spellOut flags ts)
    (hparen : t.kind.isParen = true) :
    Located flags pattern (.parsing (.unmatchedParenthesis t.offset)) := by
  have hmem : t ∈ ts := by
    rw [Token.spellOut] at ht
    split at ht
    · exact ht
    · have hconcat := of_decide_eq_true (Token.ne_concat_of_isParen t hparen)
      exact (Token.mem_expand ht).resolve_right hconcat
  exact .unmatchedParenthesis (Token.standsAt_of_scan hscan hmem) (Kind.char_of_isParen hparen)

/-- An operator of the pattern is allowed there. -/
theorem of_mem (hscan : Token.scan flags pattern = .ok ts) (ht : t ∈ ts)
    (hsymbol : t.kind.isSymbol = false) (hparen : t.kind.isParen = false) :
    Located flags pattern (.missingOperand (some t.char) t.offset) := by
  refine .written (Token.standsAt_of_scan hscan ht) ?_
  have hspelt := (Token.scanFrom_eq_ok hscan).2 t ht
  rcases t with ⟨kind, offset⟩
  cases kind with
  | symbol | leftParen | rightParen => contradiction
  | union => exact .inr (.inl rfl)
  | star => exact .inl rfl
  | concat =>
      refine .inr (.inr ⟨rfl, ?_⟩)
      cases hflags : flags.explicitConcat with
      | true => rfl
      | false =>
          rw [Token.Spelt, hflags] at hspelt
          cases hspelt

/-- An operator is one of the pattern, or a concatenation that was put before an operand of it. -/
theorem of_mem_spellOut (hscan : Token.scan flags pattern = .ok ts)
    (ht : t ∈ Token.spellOut flags ts) (hsymbol : t.kind.isSymbol = false)
    (hparen : t.kind.isParen = false) :
    Located flags pattern (.missingOperand (some t.char) t.offset) := by
  rw [Token.spellOut] at ht
  split at ht
  · exact of_mem hscan ht hsymbol hparen
  · rename_i hflags
    have hflags : flags.explicitConcat = false := Bool.eq_false_of_not_eq_true hflags
    rcases Token.mem_expand_cases ht with hmem | ⟨us, v, w, ws, rfl, hconcat, rfl⟩
    · exact of_mem hscan hmem hsymbol hparen
    · have hmem : w ∈ us ++ v :: w :: ws := by simp
      have hspelt : Token.Spelt false w := hflags ▸ (Token.scanFrom_eq_ok hscan).2 w hmem
      have hstands : StandsAt pattern w.char w.offset := Token.standsAt_of_scan hscan hmem
      have hpos : 0 < w.offset := Token.offset_pos_of_scan hscan
      rw [needsConcat, Bool.and_eq_true, Bool.not_eq_true', Bool.not_eq_true'] at hconcat
      exact .unwritten hflags hstands hpos (Token.isAlphanumeric_or_of_spelt hspelt hconcat.2)

end Located

namespace Arena

/-- A token fails for a parenthesis or for want of operands, and a symbol needs none. -/
theorem evaluateToken_eq_error {a : Arena} {stack : List Fragment} {t : Token} {e : CompileError}
    (h : a.evaluateToken stack t = .error e) :
    t.kind.isSymbol = false ∧ e = evaluationError t := by
  rcases t with ⟨kind, offset⟩
  cases kind with
  | symbol c => cases h
  | leftParen | rightParen =>
      cases h
      exact ⟨rfl, rfl⟩
  | concat | union =>
      -- Two operands are enough, so at most one is on the stack.
      match stack, h with
      | [], h | [_], h =>
          cases h
          exact ⟨rfl, rfl⟩
  | star =>
      match stack, h with
      | [], h =>
          cases h
          exact ⟨rfl, rfl⟩

/-- An evaluation fails at a token that is no symbol, or at the end. -/
theorem evaluateFrom_eq_error {endOffset : Nat} {a : Arena} {stack : List Fragment}
    {ts : List Token} {e : CompileError}
    (h : (evaluateFrom endOffset a stack ts).outcome.result = .error e) :
    (∃ t ∈ ts, t.kind.isSymbol = false ∧ e = evaluationError t) ∨
      e = .missingOperand none endOffset ∨ ∃ count, e = .excessOperands count := by
  induction ts generalizing a stack with
  | nil =>
      refine .inr ?_
      match stack, h with
      | [], h => cases h; exact .inl rfl
      | _ :: _ :: _, h => cases h; exact .inr ⟨_, rfl⟩
  | cons t ts ih =>
      cases htoken : a.evaluateToken stack t with
      | error e' =>
          have hresult : (evaluateFrom endOffset a stack (t :: ts)).outcome.result = .error e' := by
            simp only [evaluateFrom, htoken]
            rfl
          rw [hresult] at h
          cases h
          exact .inl ⟨t, List.mem_cons_self, evaluateToken_eq_error htoken⟩
      | ok next =>
          have hresult : (evaluateFrom endOffset a stack (t :: ts)).outcome.result =
              (evaluateFrom endOffset next.2 next.1 ts).outcome.result := by
            simp only [evaluateFrom, htoken]
            rfl
          rw [hresult] at h
          rcases ih h with ⟨u, hu, hsymbol⟩ | hend
          · exact .inl ⟨u, List.mem_cons_of_mem t hu, hsymbol⟩
          · exact .inr hend

end Arena

/-- Each round of a compilation reports an error where it stands. -/
theorem Located.of_compile {flags : Flags} {pattern : String} {e : CompileError}
    (h : Nfa.compile flags pattern = .error e) : Located flags pattern e := by
  rcases Nfa.rounds_of_compile_eq_error h with
    ⟨cause, hscan, rfl⟩ | ⟨ts, hscan, ⟨cause, hordering, rfl⟩ | ⟨out, hout, hresult⟩⟩
  · obtain ⟨u, c, v, hpattern, -, -, rfl⟩ := Token.scanFrom_eq_error hscan
    exact .invalidCharacter ⟨u, v, hpattern, Nat.zero_add _⟩
  · obtain ⟨t, ht, rfl⟩ := Token.unmatched_of_toPostfix hordering
    exact .of_isParen hscan ht.mem.1 ht.mem.2
  · rcases Arena.evaluateFrom_eq_error hresult with ⟨t, ht, hsymbol, rfl⟩ | rfl | ⟨count, rfl⟩
    · obtain ⟨hmem, hparen⟩ := Token.mem_of_mem_toPostfix hout ht
      rw [Arena.evaluationError, hparen]
      exact .of_mem_spellOut hscan hmem hsymbol hparen
    · exact .nothing
    · exact .excessOperands

/-! ### Carets -/

/-- An error stands at a character of the pattern, or else at its end. -/
theorem Located.standsAt_or {flags : Flags} {pattern : String} {e : CompileError}
    (h : Located flags pattern e) :
    (∃ c o, e.offset? = some o ∧ StandsAt pattern c o) ∨
      e.offset?.getD pattern.utf8ByteSize = pattern.utf8ByteSize := by
  cases h with
  | invalidCharacter hstands | unmatchedParenthesis hstands | written hstands
  | unwritten _ hstands => exact .inl ⟨_, _, rfl, hstands⟩
  | nothing | excessOperands => exact .inr rfl

/-- The place of an error is behind some characters with which the pattern begins. -/
theorem Located.exists_before {flags : Flags} {pattern : String} {e : CompileError}
    (h : Located flags pattern e) :
    ∃ before, before <+: pattern.toList ∧
      e.offset?.getD pattern.utf8ByteSize = Text.utf8Size before ∧
      (e.offset? = none → before = pattern.toList) := by
  rcases h.standsAt_or with ⟨c, o, he, before, after, hpattern, ho⟩ | he
  · refine ⟨before, ⟨c :: after, hpattern.symm⟩, ?_, ?_⟩
    · rw [he, Option.getD_some, ho]
    · rw [he]
      exact fun hnone => absurd hnone (Option.some_ne_none o)
  · exact ⟨pattern.toList, List.prefix_rfl, by rw [he, Text.utf8Size_toList], fun _ => rfl⟩

/-- The caret of a diagnostic stands under the character behind what comes before the error. -/
theorem CompileError.diagnostic_eq {e : CompileError} {pattern : String} {before : List Char}
    (hbefore : before <+: pattern.toList)
    (hoffset : e.offset?.getD pattern.utf8ByteSize = Text.utf8Size before) (coloured : Bool) :
    e.diagnostic coloured pattern =
      Text.Style.redBold.paint coloured (Diagnostic.tag e.code) ++ " " ++ e.message ++
        ":\n | " ++ pattern ++
        "\n | " ++ String.ofList (List.replicate before.length ' ') ++
        Text.Style.green.paint coloured "^" := by
  obtain ⟨after, hafter⟩ := hbefore
  rw [diagnostic_eq_render, hoffset, Text.column, ← hafter, Text.columnAt?_utf8Size]
  rfl

/-- An error stands in its pattern, at what it is about. The caret of its diagnostic has before it
one space for each character that the pattern has before the error, or for each that it has at all
if the error stands nowhere. The column after the whole pattern is not used for want of a better
one: every offset that is reported has a column of its own. -/
theorem compile_error_located {flags : Flags} {pattern : String} {e : CompileError}
    (h : Nfa.compile flags pattern = .error e) :
    Located flags pattern e ∧
      (∀ o, e.offset? = some o → o ≤ pattern.utf8ByteSize) ∧
      ∃ before, before <+: pattern.toList ∧
        (∀ o, e.offset? = some o →
          o = Text.utf8Size before ∧ Text.columnAt? pattern.toList o = some before.length) ∧
        (e.offset? = none → before = pattern.toList) ∧
        ∀ coloured, e.diagnostic coloured pattern =
          Text.Style.redBold.paint coloured (Diagnostic.tag e.code) ++ " " ++ e.message ++
            ":\n | " ++ pattern ++
            "\n | " ++ String.ofList (List.replicate before.length ' ') ++
            Text.Style.green.paint coloured "^" := by
  have hlocated : Located flags pattern e := .of_compile h
  obtain ⟨before, hbefore, hoffset, hnone⟩ := hlocated.exists_before
  have hcolumn : Text.columnAt? pattern.toList (Text.utf8Size before) = some before.length := by
    obtain ⟨after, hafter⟩ := hbefore
    rw [← hafter, Text.columnAt?_utf8Size]
  have hsome : ∀ o, e.offset? = some o → o = Text.utf8Size before := by
    intro o ho
    rw [← hoffset, ho, Option.getD_some]
  refine ⟨hlocated, ?_, before, hbefore, ?_, hnone, ?_⟩
  · intro o ho
    obtain ⟨after, hafter⟩ := hbefore
    rw [hsome o ho, ← Text.utf8Size_toList, ← hafter, Text.utf8Size_append]
    exact Nat.le_add_right _ _
  · intro o ho
    rw [hsome o ho]
    exact ⟨rfl, hcolumn⟩
  · exact CompileError.diagnostic_eq hbefore hoffset

/-- The dot that lacks an operand is not written. Its caret stands under the group behind it, at the
third byte but in the second column. -/
theorem compile_error_located_of_accent :
    Nfa.compile {} "é()" = .error (.missingOperand (some '.') 2) ∧
      Located {} "é()" (.missingOperand (some '.') 2) ∧
      (CompileError.missingOperand (some '.') 2).diagnostic false "é()" =
        "[003] missing operand for '.':\n | é()\n |  ^" := by
  have hcompile : Nfa.compile {} "é()" = .error (.missingOperand (some '.') 2) := by decide
  obtain ⟨hlocated, -, before, -, hoffset, -, hdiagnostic⟩ := compile_error_located hcompile
  have hcolumn : some 1 = some before.length := (hoffset 2 rfl).2
  refine ⟨hcompile, hlocated, ?_⟩
  rw [hdiagnostic, ← Option.some.inj hcolumn]
  decide

end PatternNfa
