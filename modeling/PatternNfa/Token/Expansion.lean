import PatternNfa.Token

/-!
# `PatternNfa.Token.Expansion`: concatenations written out

Two neighbours in a pattern are concatenated without an operator between them. Whether they are
depends on their characters only: the first one ends an operand, or could, unless it opens a group
or is the union bar, and the second one begins an operand unless it closes a group or is the star
or the bar. `addConcat` writes a dot between such neighbours of a text and `expand` a token between
such neighbours of a token list. Neither checks that operands and operators alternate.
-/

set_option autoImplicit false

namespace PatternNfa

/-- An operand may begin after the character, and cannot end with it. -/
def opensContext (c : Char) : Bool := c == '(' || c == '|'

/-- An operand may end before the character, and cannot begin with it. -/
def closesContext (c : Char) : Bool := c == ')' || c == '*' || c == '|'

/-- A concatenation is meant between the two neighbours. -/
def needsConcat (current next : Char) : Bool := !opensContext current && !closesContext next

/-- Writes every concatenation of the characters as a dot. -/
def addConcatChars : List Char → List Char
  | [] => []
  | [c] => [c]
  | c :: next :: rest =>
      if needsConcat c next then c :: '.' :: addConcatChars (next :: rest)
      else c :: addConcatChars (next :: rest)

/-- Writes every concatenation of a pattern as a dot. -/
def addConcat (pattern : String) : String := String.ofList (addConcatChars pattern.toList)

/-- Puts a token into every concatenation of a token list. It has the offset of the token after
it. -/
def Token.expand : List Token → List Token
  | [] => []
  | [t] => [t]
  | t :: next :: rest =>
      if needsConcat t.char next.char then
        t :: { kind := .concat, offset := next.offset } :: expand (next :: rest)
      else t :: expand (next :: rest)

end PatternNfa
