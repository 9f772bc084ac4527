import PatternNfa.Log
import PatternNfa.Token.Expansion
import PatternNfa.Token.Postfix
import PatternNfa.Token.Scan

/-!
# `PatternNfa.Parse`: from a pattern to tokens in postfix order

The first half of a compilation scans the pattern, writes its concatenations out unless the
pattern already does, and puts the tokens into postfix order. Each of the three stages reports.

`parse_result` says what is left of the first half without its reports.
-/

set_option autoImplicit false

namespace PatternNfa

/-- The tokens with their concatenations written out, which they already are if the options say
so. -/
def Token.spellOut (flags : Flags) (ts : List Token) : List Token :=
  if flags.explicitConcat then ts else expand ts

/-- The tokens of a pattern in postfix order. -/
def parse (flags : Flags) (pattern : String) : Logged ParseError (List Token) := do
  let tokens ← Logged.ofExcept (Token.scan flags pattern)
  Logged.report .trace (.tokenized pattern tokens.length)
  let expanded := Token.spellOut flags tokens
  Logged.report flags.stageLevel (.expanded pattern (Token.text expanded))
  let ordered ← Logged.ofExcept (Token.toPostfix expanded)
  Logged.report flags.stageLevel (.ordered pattern (Token.text ordered))
  return ordered

/-- The stages hand their results on, whatever they report. -/
theorem parse_result (flags : Flags) (pattern : String) :
    (parse flags pattern).result =
      (Token.scan flags pattern).bind fun ts => Token.toPostfix (Token.spellOut flags ts) := by
  simp only [parse, Logged.result_bind, Logged.result_ofExcept, Logged.result_report,
    Logged.result_pure]
  cases Token.scan flags pattern with
  | error e => rfl
  | ok ts =>
      simp only [Except.bind]
      cases Token.toPostfix (Token.spellOut flags ts) <;> rfl

section

variable {flags : Flags} {pattern : String}

/-- A pattern that cannot be scanned is not parsed. -/
theorem parse_result_of_scan_error {cause : ParseError}
    (hscan : Token.scan flags pattern = .error cause) :
    (parse flags pattern).result = .error cause := by
  rw [parse_result, hscan]
  rfl

/-- Scanned tokens are spelt out and put into postfix order. -/
theorem parse_result_of_scan {ts : List Token} (hscan : Token.scan flags pattern = .ok ts) :
    (parse flags pattern).result = Token.toPostfix (Token.spellOut flags ts) := by
  rw [parse_result, hscan]
  rfl

end

/-- The postfix order of a pattern that writes its concatenations out, as a text. -/
def toPostfixText (pattern : String) : Except ParseError String :=
  (Token.scan { explicitConcat := true } pattern).bind fun ts =>
    (Token.toPostfix ts).map Token.text

end PatternNfa
