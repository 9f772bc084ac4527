import PatternNfa.Text.Printable

/-!
# `PatternNfa.Text.Quoted`: characters and texts between quotation marks

Messages show a character as `'c'` and a pattern as `"…"`. Inside, the five characters that have a
short escape are written with it, the backslash included, and so is the mark that closes the
quotation; the other mark stands for itself. A character that cannot be shown on its own is
written by its code point, in lower-case hexadecimal digits between braces.
-/

set_option autoImplicit false

namespace PatternNfa.Text

/-- The escape of a character by its code point. -/
def codePointEscape (c : Char) : List Char :=
  '\\' :: 'u' :: '\x7b' :: Nat.toDigits 16 c.toNat ++ ['\x7d']

/-- A character as it stands between two marks `mark`. -/
def escape (mark c : Char) : List Char :=
  if c = '\x00' then ['\\', '0']
  else if c = '\t' then ['\\', 't']
  else if c = '\r' then ['\\', 'r']
  else if c = '\n' then ['\\', 'n']
  else if c = '\\' then ['\\', '\\']
  else if c = mark then ['\\', mark]
  else if isPrintable c then [c]
  else codePointEscape c

/-- Characters between two marks. -/
def quoteWith (mark : Char) (cs : List Char) : String :=
  String.ofList (mark :: cs.flatMap (escape mark) ++ [mark])

/-- A character between single marks. -/
def quoteChar (c : Char) : String := quoteWith '\'' [c]

/-- A text between double marks. -/
def quote (s : String) : String := quoteWith '"' s.toList

end PatternNfa.Text
