import PatternNfa.Error
import PatternNfa.Flags
import PatternNfa.Token

/-!
# `PatternNfa.Token.Scan`: the tokens of a text

Scanning reads a pattern character by character. Every character is a token of its own, so the
only things to find out are what it stands for and at which byte it begins. The first character
that stands for nothing ends the scan with an error.
-/

set_option autoImplicit false

namespace PatternNfa.Token

/-- The tokens of the characters that begin at byte `offset` of a pattern. -/
def scanFrom (flags : Flags) (offset : Nat) : List Char → Except ParseError (List Token)
  | [] => .ok []
  | c :: cs =>
      match Kind.ofChar? flags.explicitConcat c with
      | none => .error (.invalidCharacter c offset)
      | some kind => (scanFrom flags (offset + c.utf8Size) cs).map ({ kind, offset } :: ·)

/-- The tokens of a pattern, or the first character that is none. -/
def scan (flags : Flags) (pattern : String) : Except ParseError (List Token) :=
  scanFrom flags 0 pattern.toList

end PatternNfa.Token
