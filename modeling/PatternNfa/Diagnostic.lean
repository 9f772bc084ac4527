import PatternNfa.Error
import PatternNfa.Text.Column
import PatternNfa.Text.Style

/-!
# `PatternNfa.Diagnostic`: an error shown against its pattern

A diagnostic has three lines: the number and the words of the error, the pattern, and a caret
under the place of the error. Errors are placed by bytes and the caret by characters. An offset
that lies beyond the pattern or inside a character puts the caret after the whole pattern, and so
does an error that stands nowhere.
-/

set_option autoImplicit false

namespace PatternNfa

namespace Diagnostic

/-- The three digits of an error's number between brackets. -/
def tag (code : Nat) : String :=
  let digits := Nat.toDigits 10 code
  String.ofList ('[' :: List.replicate (3 - digits.length) '0' ++ digits ++ [']'])

/-- The three lines of a diagnostic, with the caret at `column`. -/
def render (coloured : Bool) (code : Nat) (message pattern : String) (column : Nat) : String :=
  Text.Style.redBold.paint coloured (tag code) ++ " " ++ message ++ ":\n | " ++ pattern ++
    "\n | " ++ String.ofList (List.replicate column ' ') ++
    Text.Style.green.paint coloured "^"

end Diagnostic

/-- The error shown against a pattern. -/
def ParseError.diagnostic (coloured : Bool) (e : ParseError) (pattern : String) : String :=
  Diagnostic.render coloured e.code e.message pattern (Text.column pattern e.offset)

/-- The error shown against a pattern. One that stands nowhere is shown at the pattern's end. -/
def CompileError.diagnostic (coloured : Bool) (e : CompileError) (pattern : String) : String :=
  match e with
  | .parsing cause => cause.diagnostic coloured pattern
  | .missingOperand _ offset =>
      Diagnostic.render coloured e.code e.message pattern (Text.column pattern offset)
  | .excessOperands _ =>
      Diagnostic.render coloured e.code e.message pattern
        (Text.column pattern pattern.utf8ByteSize)

/-- Whatever the error, its diagnostic is its number and its words over the place of the error. -/
theorem CompileError.diagnostic_eq_render (coloured : Bool) (e : CompileError) (pattern : String) :
    e.diagnostic coloured pattern =
      Diagnostic.render coloured e.code e.message pattern
        (Text.column pattern (e.offset?.getD pattern.utf8ByteSize)) := by
  cases e <;> rfl

end PatternNfa
