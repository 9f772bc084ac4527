import PatternNfa.Nfa.Walk

/-!
# `PatternNfa.Nfa.Drawing`: an automaton as a graph in the DOT language

The drawing declares every state before the first edge that leads to it, the start first of all,
and has the edges in the order of a walk from the start. The start is green and the accepting state
has a double border; a state that is both counts as the start. An edge that reads nothing is
dashed.

A drawing of states that do not exist is refused: the start and every target of the walk have to
be states of the arena.
-/

set_option autoImplicit false

namespace PatternNfa

namespace Drawing

/-- How a state is drawn. -/
inductive Role where
  | start
  | accept
  | inner
deriving DecidableEq, Repr, Inhabited

/-- A statement of the drawing. -/
inductive Line where
  /-- Declares a state. -/
  | node (id : StateId) (role : Role)
  /-- Draws an edge. -/
  | edge (e : Edge)
deriving DecidableEq, Repr, Inhabited

/-- The attributes by which a role shows. They begin inside the bracket that holds the label. -/
def Role.attributes : Role → String
  | start => "][fillcolor=green]"
  | accept => " shape=doublecircle]"
  | inner => "][fillcolor=\"#EEEEEE\" fontcolor=\"#888888\"]"

/-- The statement in the DOT language. -/
def Line.text : Line → String
  | node id role => s!"node_{id}[label=\"" ++ toString id ++ "\"" ++ role.attributes
  | edge e =>
      s!"node_{e.source} -> node_{e.target}" ++
        match e.label with
        | .epsilon => "[style=dashed]"
        | .symbol c => "[label=\"" ++ c.toString ++ "\"]"

/-- The settings that come before the statements. -/
def header : String :=
  "digraph G \x7b  rankdir=\"LR\" graph [fontname = \"Courier New\"];\n" ++
  "                node [fontname = \"verdana\", style = rounded];\n" ++
  "                edge [fontname = \"verdana\"];\n" ++
  "                \x7b\n"

/-- How nodes look unless they say otherwise. -/
def nodeDefaults : String :=
  "node [shape=circle style=filled fillcolor=\"#4385f5\" fontcolor=\"#FFFFFF\" " ++
  "color=white penwidth=5.0 margin=0.1 width=0.5 height=0.5 fixedsize=true]\n"

/-- The statements between the settings and the closing braces. -/
def render (lines : List Line) : String :=
  header ++ nodeDefaults ++ String.join (lines.map (·.text ++ "\n")) ++ "\n\x7d\x7d"

end Drawing

namespace Nfa

open Drawing

/-- How the state with the id is drawn. -/
def role (nfa : Nfa) (id : StateId) : Role :=
  if id = nfa.start then .start else if id = nfa.accept then .accept else .inner

/-- The statements for edges of the walk, where `drawn` are the states that are declared. -/
def drawEdges? (nfa : Nfa) (drawn : List StateId) : List Edge → Option (List Line)
  | [] => some []
  | e :: es =>
      if e.target < nfa.arena.size then
        if e.target ∈ drawn then (drawEdges? nfa drawn es).map (.edge e :: ·)
        else
          (drawEdges? nfa (e.target :: drawn) es).map
            (.node e.target (nfa.role e.target) :: .edge e :: ·)
      else none

/-- The statements of the drawing, if it only has states that exist. -/
def drawing? (nfa : Nfa) : Option (List Line) :=
  if nfa.start < nfa.arena.size then
    (nfa.drawEdges? [nfa.start] nfa.edges.toList).map (.node nfa.start (nfa.role nfa.start) :: ·)
  else none

/-- The automaton in the DOT language, if its drawing only has states that exist. -/
def dot? (nfa : Nfa) : Option String := nfa.drawing?.map render

end Nfa

end PatternNfa
