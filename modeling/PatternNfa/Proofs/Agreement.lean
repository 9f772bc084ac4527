import PatternNfa.Proofs.Compile
import PatternNfa.Proofs.Correspondence
import PatternNfa.Proofs.Counting

/-!
# `PatternNfa.Proofs.Agreement`: written and unwritten concatenations

Concatenations are spelt out in two ways. `Token.expand` puts tokens between tokens, and
`addConcat` puts dots between characters, which are scanned afterwards. The tokens are alike: of
the same kinds, in the same order, but at other offsets, since the dots take up room.

Everything after that goes by kinds only. So two runs over tokens that are alike stay alike, step
by step, and fail alike: over parentheses that correspond (`Token.toPostfixFrom_alike`), or for want
of an operand of the same operator (`Nfa.compile_related_of_kinds`). `compile_addConcat` draws the
conclusion for a pattern and the pattern with dots.
-/

set_option autoImplicit false

namespace PatternNfa

/-! ### Postfix order -/

section Postfix

variable {Q : Nat → Nat → Prop}

/-- The tokens are of the same kind, and if they are parentheses, their offsets are related. -/
structure Token.Alike (Q : Nat → Nat → Prop) (t u : Token) : Prop where
  kind_eq : u.kind = t.kind
  offset_of_paren : t.kind.isParen = true → Q t.offset u.offset

/-- Both errors are about parentheses, and their offsets are related. -/
inductive ParseError.Alike (Q : Nat → Nat → Prop) : ParseError → ParseError → Prop where
  | unmatchedParenthesis {o p : Nat} :
      Q o p → Alike Q (.unmatchedParenthesis o) (.unmatchedParenthesis p)

namespace Token

/-- Tokens that are alike are of one kind. -/
theorem keepsKind_alike : KeepsKind (Alike Q) := fun _ _ h => h.kind_eq

/-- Lists of tokens that are alike have the same kinds in the same order. -/
theorem map_kind_of_alike {ts us : List Token} (h : List.Forall₂ (Alike Q) ts us) :
    us.map kind = ts.map kind :=
  map_kind_of_forall₂ keepsKind_alike h

/-- Tokens that are alike are put into the same postfix order, or fail over the same
parenthesis. -/
theorem toPostfixFrom_alike {ts us stack stack' : List Token}
    (hstack : List.Forall₂ (Alike Q) stack stack') (h : List.Forall₂ (Alike Q) ts us) :
    Related (ParseError.Alike Q) (List.Forall₂ (Alike Q)) (toPostfixFrom stack ts)
      (toPostfixFrom stack' us) := by
  rcases (toPostfixFrom_related keepsKind_alike hstack h).exists_or with
    ⟨out, out', hout, hout', hrelated⟩ | ⟨cause, cause', hcause, hcause', hrelated⟩
  · rw [hout, hout']
    exact .ok hrelated
  · rw [hcause, hcause']
    cases hrelated with
    | unmatchedParenthesis hparen ht =>
        exact .error (.unmatchedParenthesis (ht.offset_of_paren hparen))

end Token

end Postfix

/-! ### Scanning dots -/

/-- The byte offsets are those of one parenthesis, in the pattern and in the pattern with dots. What
stands before the parenthesis is the same up to the dots, and each of them takes up one byte. -/
def SameParenthesis (pattern : String) (o o' : Nat) : Prop :=
  ∃ before c after before' after',
    pattern.toList = before ++ c :: after ∧
      (addConcat pattern).toList = before' ++ c :: after' ∧ (c = '(' ∨ c = ')') ∧
      before'.filter (· ≠ '.') = before ∧ o = Text.utf8Size before ∧
      o' = Text.utf8Size before' ∧ o' = o + before'.count '.'

/-- A parenthesis is written as one. -/
theorem Kind.char_of_isParen : ∀ {k : Kind}, k.isParen = true → k.char = '(' ∨ k.char = ')'
  | leftParen, _ => .inl rfl
  | rightParen, _ => .inr rfl

/-- What `addConcat` writes between a character and those after it. -/
def dots (c : Char) : List Char → List Char
  | [] => []
  | d :: _ => if needsConcat c d then ['.'] else []

/-- The first character is followed by a dot where one is needed, and by the rest. -/
theorem addConcatChars_cons (c : Char) (cs : List Char) :
    addConcatChars (c :: cs) = c :: (dots c cs ++ addConcatChars cs) := by
  cases cs with
  | nil => rfl
  | cons d cs =>
      rw [addConcatChars, dots]
      split <;> rfl

/-- What is written behind a character is dots only. -/
theorem filter_dots (c : Char) (cs : List Char) : (dots c cs).filter (· ≠ '.') = [] := by
  unfold dots
  split
  · rfl
  · split <;> rfl

/-- A text is as long as the text without its dots, and one byte longer for each dot. -/
theorem utf8Size_eq_filter_add_count (cs : List Char) :
    Text.utf8Size cs = Text.utf8Size (cs.filter (· ≠ '.')) + cs.count '.' := by
  induction cs with
  | nil => rfl
  | cons c cs ih =>
      by_cases hc : c = '.'
      · subst hc
        have hdot : '.'.utf8Size = 1 := rfl
        rw [Text.utf8Size, List.count_cons_self, List.filter_cons_of_neg (by simp), ih, hdot]
        omega
      · rw [Text.utf8Size, List.count_cons_of_ne hc, List.filter_cons_of_pos (by simpa using hc),
          Text.utf8Size, ih]
        omega

/-- The rest `cs` of the pattern stands behind `before`, and behind `before'` in the pattern with
dots. -/
structure Aligned (pattern : String) (before before' cs : List Char) : Prop where
  pattern_eq : pattern.toList = before ++ cs
  written_eq : (addConcat pattern).toList = before' ++ addConcatChars cs
  filter_eq : before'.filter (· ≠ '.') = before

namespace Aligned

variable {pattern : String} {before before' cs : List Char} {c : Char}

/-- Nothing is read yet, of either text. -/
theorem start (pattern : String) : Aligned pattern [] [] pattern.toList where
  pattern_eq := rfl
  written_eq := String.toList_ofList
  filter_eq := rfl

/-- A character that is no dot is read from both texts, and the dots behind it from one of them. -/
theorem next (h : Aligned pattern before before' (c :: cs)) (hc : c ≠ '.') :
    Aligned pattern (before ++ [c]) (before' ++ c :: dots c cs) cs where
  pattern_eq := by rw [h.pattern_eq, List.append_assoc, List.singleton_append]
  written_eq := by
    rw [h.written_eq, addConcatChars_cons, List.append_assoc, List.cons_append]
  filter_eq := by
    rw [List.filter_append, h.filter_eq, List.filter_cons_of_pos (by simpa using hc), filter_dots]

/-- The character behind both is the same occurrence. -/
theorem sameParenthesis (h : Aligned pattern before before' (c :: cs))
    (hc : c = '(' ∨ c = ')') :
    SameParenthesis pattern (Text.utf8Size before) (Text.utf8Size before') := by
  have hwritten := h.written_eq
  rw [addConcatChars_cons] at hwritten
  refine ⟨before, c, cs, before', _, h.pattern_eq, hwritten, hc, h.filter_eq, rfl, rfl, ?_⟩
  rw [utf8Size_eq_filter_add_count before', h.filter_eq]

end Aligned

namespace Token

/-- The dots between a character and the rest are scanned to what is put between their tokens. -/
theorem scanFrom_dots (Q : Nat → Nat → Prop) (t : Token) (ts : List Token) (offset : Nat) :
    ∃ us, scanFrom { explicitConcat := true } offset (dots t.char (ts.map char)) = .ok us ∧
      List.Forall₂ (Alike Q) (seam [t] ts) us := by
  cases ts with
  | nil => exact ⟨[], rfl, .nil⟩
  | cons u us =>
      show ∃ vs, scanFrom _ offset (if needsConcat t.char u.char then ['.'] else []) = .ok vs ∧
        List.Forall₂ (Alike Q) (between t u) vs
      rw [between]
      split
      · refine ⟨[{ kind := .concat, offset }], rfl, .cons ⟨rfl, fun hparen => ?_⟩ .nil⟩
        exact absurd hparen Bool.false_ne_true
      · exact ⟨[], rfl, .nil⟩

/-- Scanning the rest of a pattern with dots gives tokens like the ones of the pattern with their
concatenations spelt out. -/
theorem scanFrom_addConcatChars {pattern : String} {before before' cs : List Char}
    {ts : List Token} (haligned : Aligned pattern before before' cs)
    (h : scanFrom {} (Text.utf8Size before) cs = .ok ts) :
    ∃ us, scanFrom { explicitConcat := true } (Text.utf8Size before') (addConcatChars cs) =
        .ok us ∧ List.Forall₂ (Alike (SameParenthesis pattern)) (expand ts) us := by
  induction cs generalizing before before' ts with
  | nil =>
      cases h
      exact ⟨[], rfl, .nil⟩
  | cons c cs ih =>
      rw [scanFrom] at h
      split at h
      · cases h
      · rename_i k hk
        obtain ⟨rest, hrest, rfl⟩ := Except.exists_of_map_eq_ok h
        have hchar : k.char = c := Kind.char_of_ofChar? hk
        subst hchar
        -- A pattern has no dots of its own, so every dot is one that was written.
        have hdot : k.char ≠ '.' := by
          intro hc
          rw [hc] at hk
          cases hk
        -- The same character is scanned at two offsets, and then what stands before the next one.
        let t : Token := { kind := k, offset := Text.utf8Size before }
        let t' : Token := { kind := k, offset := Text.utf8Size before' }
        have hexplicit : Kind.ofChar? true k.char = some k := Spelt.explicit (t := t') hk
        have halike : Alike (SameParenthesis pattern) t t' :=
          ⟨rfl, fun hparen => haligned.sameParenthesis (Kind.char_of_isParen hparen)⟩
        obtain ⟨dotted, hdotted, hseam⟩ := scanFrom_dots (SameParenthesis pattern) t rest
          (Text.utf8Size before' + k.char.utf8Size)
        rw [(scanFrom_eq_ok hrest).1] at hdotted
        rw [← Text.utf8Size_singleton, ← Text.utf8Size_append] at hrest
        obtain ⟨us, hus, hrelated⟩ := ih (haligned.next hdot) hrest
        have hsize : Text.utf8Size (before' ++ k.char :: dots k.char cs) =
            Text.utf8Size before' + k.char.utf8Size + Text.utf8Size (dots k.char cs) := by
          rw [Text.utf8Size_append, Text.utf8Size, Nat.add_assoc]
        rw [hsize] at hus
        refine ⟨t' :: (dotted ++ us), ?_, ?_⟩
        · rw [addConcatChars_cons]
          exact scanFrom_cons hexplicit (scanFrom_append hdotted hus)
        · have hexpand := expand_append [t] rest
          rw [List.singleton_append] at hexpand
          rw [hexpand]
          exact .cons halike (List.rel_append hseam hrelated)

end Token

/-! ### Compiling -/

/-- The automata start and accept in the same state and have the same states, with the same
transitions in the same order. -/
structure Nfa.SameStates (nfa nfa' : Nfa) : Prop where
  start_eq : nfa'.start = nfa.start
  accept_eq : nfa'.accept = nfa.accept
  arena_eq : nfa'.arena = nfa.arena

/-- The pattern and the pattern with dots fail alike: for want of an operand of the same operator,
or over the same parenthesis. -/
inductive SameFailure (pattern : String) : CompileError → CompileError → Prop where
  | missingOperand {operator : Option Char} {o o' : Nat} :
      SameFailure pattern (.missingOperand operator o) (.missingOperand operator o')
  | unmatchedParenthesis {o o' : Nat} :
      SameParenthesis pattern o o' →
      SameFailure pattern (.parsing (.unmatchedParenthesis o)) (.parsing (.unmatchedParenthesis o'))

/-- Tokens in postfix order are evaluated by their kinds alone, if they hold no parenthesis and
leave at most one fragment. -/
theorem Nfa.compile_related_of_kinds {flags flags' : Flags} {pattern pattern' : String}
    {out out' : List Token} (hparse : (parse flags pattern).result = .ok out)
    (hparse' : (parse flags' pattern').result = .ok out')
    (hkind : out'.map Token.kind = out.map Token.kind)
    (hparen : ∀ t ∈ out, t.kind.isParen = false)
    (hlength : ∀ es, Expr.read (out.map Token.kind) [] = some es → es.length ≤ 1) :
    Related (SameFailure pattern) SameStates (compile flags pattern)
      (compile flags' pattern') := by
  cases hread : Expr.read (out.map Token.kind) [] with
  -- Both evaluations stop at tokens of the same kind.
  | none =>
      obtain ⟨t, ht, u, -, hu, herror, herror'⟩ := Arena.evaluateFrom_of_read_none
        pattern.utf8ByteSize pattern'.utf8ByteSize {} hkind hread
      have hresult : (Arena.evaluate {} out pattern.utf8ByteSize).outcome.result =
          .error (.missingOperand (some t.char) t.offset) := by
        rw [Arena.evaluationError, hparen t ht] at herror
        exact herror
      have hresult' : (Arena.evaluate {} out' pattern'.utf8ByteSize).outcome.result =
          .error (.missingOperand (some t.char) u.offset) := by
        rw [Arena.evaluationError, hu, hparen t ht, Token.char, hu] at herror'
        exact herror'
      rw [compile_of_parse_ok hparse, compile_of_parse_ok hparse', hresult, hresult']
      exact .error .missingOperand
  | some es =>
      have hle := hlength es hread
      rcases es with _ | ⟨e, _ | ⟨e', es⟩⟩
      -- There was nothing to evaluate.
      · have hread' : Expr.read (out'.map Token.kind) [] = some [] := hkind ▸ hread
        have hresult : (Arena.evaluate {} out pattern.utf8ByteSize).outcome.result =
            .error (.missingOperand none pattern.utf8ByteSize) :=
          (Arena.evaluateFrom_of_read pattern.utf8ByteSize {} hread).2
        have hresult' : (Arena.evaluate {} out' pattern'.utf8ByteSize).outcome.result =
            .error (.missingOperand none pattern'.utf8ByteSize) :=
          (Arena.evaluateFrom_of_read pattern'.utf8ByteSize {} hread').2
        rw [compile_of_parse_ok hparse, compile_of_parse_ok hparse', hresult, hresult']
        exact .error .missingOperand
      -- Both evaluations build the same expression.
      · have hout : out.map Token.kind = e.postorder := by
          simpa [Expr.postorders] using (Expr.postorders_of_read hread).symm
        rw [compile_of_postorder hparse hout, compile_of_postorder hparse' (hkind.trans hout)]
        exact .ok ⟨rfl, rfl, rfl⟩
      · rw [List.length_cons, List.length_cons] at hle
        omega

/-- A pattern without written concatenations and the pattern with all of them written are put into
the same postfix order, or fail over the same parenthesis. -/
theorem parse_addConcat {pattern : String} {ts : List Token}
    (h : Token.scan {} pattern = .ok ts) :
    Related (ParseError.Alike (SameParenthesis pattern))
      (List.Forall₂ (Token.Alike (SameParenthesis pattern))) (parse {} pattern).result
      (parse { explicitConcat := true } (addConcat pattern)).result := by
  obtain ⟨us, hus, halike⟩ := Token.scanFrom_addConcatChars (Aligned.start pattern) h
  have hscan : Token.scan { explicitConcat := true } (addConcat pattern) = .ok us := by
    rw [Token.scan, addConcat, String.toList_ofList]
    exact hus
  rw [parse_result_of_scan h, parse_result_of_scan hscan]
  exact Token.toPostfixFrom_alike .nil halike

/-- A pattern without written concatenations and the pattern with all of them written compile to
the same states, or fail alike. -/
theorem compile_addConcat {pattern : String} {ts : List Token}
    (h : Token.scan {} pattern = .ok ts) :
    Related (SameFailure pattern) Nfa.SameStates (Nfa.compile {} pattern)
      (Nfa.compile { explicitConcat := true } (addConcat pattern)) := by
  obtain ⟨-, hspelt⟩ := Token.scanFrom_eq_ok h
  rcases (parse_addConcat h).exists_or with
    ⟨out, out', hparse, hparse', hrelated⟩ | ⟨cause, cause', hcause, hcause', hrelated⟩
  · have hout : Token.toPostfix (Token.expand ts) = .ok out := by
      rw [parse_result, h] at hparse
      exact hparse
    refine Nfa.compile_related_of_kinds hparse hparse' (Token.map_kind_of_alike hrelated)
      (fun t ht => (Token.mem_of_mem_toPostfix hout ht).2) ?_
    intro es hread
    have hlength := Token.length_add_gaps hspelt hout hread
    omega
  · cases hrelated with
    | unmatchedParenthesis hsame =>
        rw [Nfa.compile_of_parse_error hcause, Nfa.compile_of_parse_error hcause']
        exact .error (.unmatchedParenthesis hsame)

/-- The bar lacks no operand in either text. Only the letters next to each other get a dot between
them. -/
theorem compile_addConcat_of_union :
    Related (SameFailure "ab|c") Nfa.SameStates (Nfa.compile {} "ab|c")
      (Nfa.compile { explicitConcat := true } (addConcat "ab|c")) := by
  have hscan : Token.scan {} "ab|c" =
      .ok [⟨.symbol 'a', 0⟩, ⟨.symbol 'b', 1⟩, ⟨.union, 2⟩, ⟨.symbol 'c', 3⟩] := by decide
  exact compile_addConcat hscan

end PatternNfa
