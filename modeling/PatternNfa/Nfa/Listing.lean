import PatternNfa.Nfa.Walk
import PatternNfa.Text.Style

/-!
# `PatternNfa.Nfa.Listing`: an automaton in words

The listing has a line for each edge, in the order of a walk from the start. The summary is a
single line with the pattern and the sizes.
-/

set_option autoImplicit false

namespace PatternNfa.Nfa

/-- The lines of the listing, without its heading. -/
def lines (nfa : Nfa) : List String := nfa.edges.toList.map Edge.text

/-- The heading and the edges, a line each. An automaton without edges has an empty line. -/
def listing (nfa : Nfa) : String :=
  "NFA Transitions:\n" ++ "\n".intercalate nfa.lines ++ "\n"

/-- The pattern, the number of states, and the states where the automaton starts and accepts. -/
def summary (coloured : Bool) (nfa : Nfa) : String :=
  Text.Style.bold.paint coloured nfa.pattern ++ " " ++ toString nfa.arena.size ++
    " states, start " ++ Text.Style.green.paint coloured (toString nfa.start) ++
    ", accept " ++ Text.Style.blue.paint coloured (toString nfa.accept)

end PatternNfa.Nfa
