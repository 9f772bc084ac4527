import PatternNfa.Proofs.Acceptance
import PatternNfa.Proofs.Reading
import PatternNfa.Proofs.Recognition

/-!
# `PatternNfa.Proofs.Compile`: the automaton of a pattern of the grammar

A compilation scans, spells concatenations out, puts operators behind their operands and evaluates.
Here the stages come together. A pattern that is derived from the grammar compiles to the automaton
that building its tree leaves (`Nfa.compile_of_derives`), and everything that compiles at all
compiles to the automaton of some tree (`Nfa.exists_postorder_of_compile`). The automaton of a tree
accepts the language of the tree (`Expr.automaton_accepts`), so a pattern means what the grammar
says it means (`Nfa.compile_accepts_language`). What does not compile fails in one of the stages
(`Nfa.rounds_of_compile_eq_error`).
-/

set_option autoImplicit false

namespace PatternNfa

/-- The automaton that building an expression in an empty arena leaves. -/
def Expr.automaton (e : Expr) (pattern : String) : Nfa :=
  let built := e.build {}
  built.arena.finish pattern built.fragment

/-- An automaton of an expression accepts the language of the expression. -/
theorem Expr.automaton_accepts (e : Expr) (pattern input : String) :
    (e.automaton pattern).accepts input = true ↔ input.toList ∈ e.language := by
  rw [Nfa.accepts_iff_path]
  exact Arena.build_recognizes {} e input.toList

/-- A text has at most one tree, since the tokens of the tree in postfix order are what the text
is parsed to. -/
theorem Derives.unique {explicitConcat : Bool} {cs : List Char} {e e' : Expr}
    (h : Derives explicitConcat .expr cs e) (h' : Derives explicitConcat .expr cs e') : e = e' := by
  -- The text is parsed to the postfix order of both trees, and a tree can be read off it.
  let flags : Flags := { explicitConcat }
  rw [← String.toList_ofList (l := cs)] at h h'
  obtain ⟨out, hparse, hout⟩ := @parse_of_derives flags _ _ h
  obtain ⟨out', hparse', hout'⟩ := @parse_of_derives flags _ _ h'
  cases hparse.symm.trans hparse'
  exact Expr.postorder_injective (hout.symm.trans hout')

namespace Nfa

variable {flags : Flags} {pattern : String} {e : Expr}

/-- A pattern that is not parsed does not compile. -/
theorem compile_of_parse_error {cause : ParseError}
    (hparse : (parse flags pattern).result = .error cause) :
    compile flags pattern = .error (.parsing cause) := by
  rw [compile_eq, hparse]

/-- A pattern that is parsed compiles to what its tokens are evaluated to. -/
theorem compile_of_parse_ok {out : List Token} (hparse : (parse flags pattern).result = .ok out) :
    compile flags pattern =
      (Arena.evaluate {} out pattern.utf8ByteSize).outcome.result.map
        ((Arena.evaluate {} out pattern.utf8ByteSize).arena.finish pattern) := by
  rw [compile_eq, hparse]

/-- A compilation that fails does so in one of three rounds: scanning, putting the tokens into
postfix order, and evaluating them. -/
theorem rounds_of_compile_eq_error {cause : CompileError}
    (h : compile flags pattern = .error cause) :
    (∃ scanning, Token.scan flags pattern = .error scanning ∧ cause = .parsing scanning) ∨
      ∃ ts, Token.scan flags pattern = .ok ts ∧
        ((∃ ordering, Token.toPostfix (Token.spellOut flags ts) = .error ordering ∧
            cause = .parsing ordering) ∨
          ∃ out, Token.toPostfix (Token.spellOut flags ts) = .ok out ∧
            (Arena.evaluate {} out pattern.utf8ByteSize).outcome.result = .error cause) := by
  cases hscan : Token.scan flags pattern with
  | error scanning =>
      rw [compile_of_parse_error (parse_result_of_scan_error hscan)] at h
      exact .inl ⟨scanning, rfl, (Except.error.inj h).symm⟩
  | ok ts =>
      have hparse := parse_result_of_scan hscan
      refine .inr ⟨ts, rfl, ?_⟩
      cases hout : Token.toPostfix (Token.spellOut flags ts) with
      | error ordering =>
          rw [compile_of_parse_error (hparse.trans hout)] at h
          exact .inl ⟨ordering, rfl, (Except.error.inj h).symm⟩
      | ok out =>
          rw [compile_of_parse_ok (hparse.trans hout)] at h
          refine .inr ⟨out, rfl, ?_⟩
          cases hresult : (Arena.evaluate {} out pattern.utf8ByteSize).outcome.result with
          | ok fragment =>
              rw [hresult] at h
              cases h
          | error evaluating =>
              rw [hresult] at h
              cases h
              rfl

/-- Tokens that come in the postfix order of an expression compile to its automaton. -/
theorem compile_of_postorder {out : List Token} (hparse : (parse flags pattern).result = .ok out)
    (hout : out.map Token.kind = e.postorder) :
    compile flags pattern = .ok (e.automaton pattern) := by
  obtain ⟨harena, hresult⟩ := Arena.evaluate_of_postorder {} pattern.utf8ByteSize hout
  rw [compile_of_parse_ok hparse, hresult, harena]
  rfl

/-- What the grammar derives compiles to the automaton of its tree. -/
theorem compile_of_derives (h : Derives flags.explicitConcat .expr pattern.toList e) :
    compile flags pattern = .ok (e.automaton pattern) := by
  obtain ⟨out, hparse, hout⟩ := parse_of_derives h
  exact compile_of_postorder hparse hout

/-- Whatever compiles was put into the postfix order of an expression. -/
theorem exists_postorder_of_compile {nfa : Nfa} (h : compile flags pattern = .ok nfa) :
    ∃ out e, (parse flags pattern).result = .ok out ∧ out.map Token.kind = Expr.postorder e ∧
      nfa = e.automaton pattern := by
  cases hparse : (parse flags pattern).result with
  | error cause =>
      rw [compile_of_parse_error hparse] at h
      cases h
  | ok out =>
      obtain ⟨fragment, hfragment, -⟩ :=
        Except.exists_of_map_eq_ok ((compile_of_parse_ok hparse).symm.trans h)
      obtain ⟨e, he⟩ := Arena.exists_postorder_of_evaluate hfragment
      have hautomaton := compile_of_postorder hparse he
      exact ⟨out, e, rfl, he, Except.ok.inj (h.symm.trans hautomaton)⟩

/-- A pattern of the grammar compiles, and its automaton accepts the language of its tree. -/
theorem compile_accepts_language (h : Derives flags.explicitConcat .expr pattern.toList e) :
    ∃ nfa, compile flags pattern = .ok nfa ∧
      ∀ input, nfa.accepts input = true ↔ input.toList ∈ e.language :=
  ⟨e.automaton pattern, compile_of_derives h, e.automaton_accepts pattern⟩

/-- A star behind a group, with a bar in it, and a symbol behind the star. -/
theorem compile_accepts_language_of_group :
    ∃ nfa, compile {} "(a|b)*c" = .ok nfa ∧ ∀ input, nfa.accepts input = true ↔ input.toList ∈
      (Expr.concat (.star (.union (.symbol 'a') (.symbol 'b'))) (.symbol 'c')).language := by
  have ha : Derives false .term ['a'] (.symbol 'a') :=
    .ofFactor (.ofAtom (.symbol (by decide)))
  have hb : Derives false .term ['b'] (.symbol 'b') :=
    .ofFactor (.ofAtom (.symbol (by decide)))
  have hc : Derives false .factor ['c'] (.symbol 'c') := .ofAtom (.symbol (by decide))
  have hstar := Derives.star (.ofAtom (.group (.union (.ofTerm ha) hb)))
  exact compile_accepts_language (.ofTerm (.concat (.ofFactor hstar) hc))

end Nfa

end PatternNfa
