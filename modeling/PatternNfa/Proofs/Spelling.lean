import PatternNfa.Proofs.Agreement

/-!
# `PatternNfa.Proofs.Spelling`: the first half of a compilation, on texts and on tokens

The stages in front of the evaluation also exist as functions on texts. `addConcat` is told only
characters and `Token.expand` looks at nothing else, so it makes no difference whether tokens are
spelt out first and then written, or the other way round (`Token.text_expand`). That holds of any
tokens, also of symbols that hold an operator's character.

`toPostfixText` has to scan what `addConcat` wrote, and gets the kinds back from the characters. So
a pattern that scans has the same postfix order on either way. If it has none, both ways stop at the
same parenthesis, and the text with the dots has it further on.
-/

set_option autoImplicit false

namespace PatternNfa

namespace Token

/-- A dot is written between two characters where a token is put between their tokens. -/
theorem map_char_seam (t : Token) (ts : List Token) :
    (seam [t] ts).map char = dots t.char (ts.map char) := by
  cases ts with
  | nil => rfl
  | cons u us =>
      show (between t u).map char = if needsConcat t.char u.char then ['.'] else []
      rw [between]
      split <;> rfl

/-- Spelling tokens out writes what is written between their characters. -/
theorem map_char_expand (ts : List Token) :
    (expand ts).map char = addConcatChars (ts.map char) := by
  induction ts with
  | nil => rfl
  | cons t ts ih =>
      have hexpand := expand_append [t] ts
      rw [List.singleton_append] at hexpand
      rw [hexpand, List.map_append, List.map_append, map_char_seam, ih, List.map_cons,
        addConcatChars_cons]
      rfl

/-- The text of spelt-out tokens is the text with its concatenations written. -/
theorem text_expand (ts : List Token) : text (expand ts) = addConcat (text ts) := by
  rw [text, map_char_expand, addConcat, text, String.toList_ofList]

end Token

/-- The postfix text of a pattern is the text of its postfix tokens. -/
theorem toPostfixText_eq (pattern : String) :
    toPostfixText pattern =
      (parse { explicitConcat := true } pattern).result.map Token.text := by
  rw [toPostfixText, parse_result]
  cases Token.scan { explicitConcat := true } pattern <;> rfl

/-- Tokens that are alike are written alike. -/
theorem Token.text_of_alike {Q : Nat → Nat → Prop} {ts us : List Token}
    (h : List.Forall₂ (Alike Q) ts us) : text us = text ts := by
  have hchars : ∀ vs : List Token, vs.map char = (vs.map kind).map Kind.char :=
    fun vs => (List.map_map).symm
  rw [text, text, hchars us, map_kind_of_alike h, hchars ts]

/-- Spelling concatenations out comes to the same on tokens and on their text, whatever the tokens.
A pattern that scans has the same postfix order as a text and as tokens, or fails on either way over
the same parenthesis. -/
theorem textForms_agree :
    (∀ ts, Token.text (Token.expand ts) = addConcat (Token.text ts)) ∧
      ∀ pattern ts, Token.scan {} pattern = .ok ts →
        Related (ParseError.Alike (SameParenthesis pattern)) (· = ·)
          ((parse {} pattern).result.map Token.text) (toPostfixText (addConcat pattern)) := by
  refine ⟨Token.text_expand, fun pattern ts hscan => ?_⟩
  rw [toPostfixText_eq]
  exact (parse_addConcat hscan).map fun _ _ halike => (Token.text_of_alike halike).symm

/-- A symbol that holds a parenthesis, and a pattern that leaves one open. -/
theorem textForms_agree_of_open_group :
    Token.text (Token.expand [⟨.symbol '(', 0⟩, ⟨.symbol 'a', 1⟩]) = addConcat "(a" ∧
      Token.scan {} "a(b" = .ok [⟨.symbol 'a', 0⟩, ⟨.leftParen, 1⟩, ⟨.symbol 'b', 2⟩] ∧
      Related (ParseError.Alike (SameParenthesis "a(b")) (· = ·)
        ((parse {} "a(b").result.map Token.text) (toPostfixText (addConcat "a(b")) := by
  have hscan : Token.scan {} "a(b" =
      .ok [⟨.symbol 'a', 0⟩, ⟨.leftParen, 1⟩, ⟨.symbol 'b', 2⟩] := by decide
  obtain ⟨hexpand, hpostfix⟩ := textForms_agree
  exact ⟨hexpand _, hscan, hpostfix "a(b" _ hscan⟩

end PatternNfa
