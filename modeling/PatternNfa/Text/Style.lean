/-!
# `PatternNfa.Text.Style`: coloured text on a terminal

A terminal switches its style at an escape sequence: the escape character, `[`, numbers separated
by `;`, and `m`. The number 0 goes back to plain text. `Style.paint` puts a text between the
sequence that opens a style and the one that ends every style. A text may hold that last sequence
itself, and would then show its rest plain, so the style is opened anew after each of them.
-/

set_option autoImplicit false

namespace PatternNfa.Text

/-- A terminal style, given by the numbers of its escape sequence. -/
structure Style where
  /-- The numbers, separated by `;`. -/
  codes : String
deriving DecidableEq, Repr, Inhabited

namespace Style

/-- Red and bold. -/
def redBold : Style := ⟨"1;31"⟩

/-- Green. -/
def green : Style := ⟨"32"⟩

/-- Blue. -/
def blue : Style := ⟨"34"⟩

/-- Bold. -/
def bold : Style := ⟨"1"⟩

/-- The sequence that opens a style. -/
def opening (style : Style) : String := "\x1b[" ++ style.codes ++ "m"

/-- The sequence that ends every style. -/
def reset : String := "\x1b[0m"

/-- Writes `again` after each sequence that ends every style. -/
def reopen (again : List Char) : List Char → List Char
  | '\x1b' :: '[' :: '0' :: 'm' :: rest =>
      '\x1b' :: '[' :: '0' :: 'm' :: (again ++ reopen again rest)
  | c :: rest => c :: reopen again rest
  | [] => []

/-- The text in the style, or as it is if the output has no colours. -/
def paint (style : Style) (coloured : Bool) (text : String) : String :=
  if coloured then
    style.opening ++ String.ofList (reopen style.opening.toList text.toList) ++ reset
  else text

end Style

end PatternNfa.Text
