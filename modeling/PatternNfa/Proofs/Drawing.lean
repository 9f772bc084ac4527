import PatternNfa.Proofs.DepthFirst
import PatternNfa.Proofs.Lines
import PatternNfa.Proofs.Size

/-!
# `PatternNfa.Proofs.Drawing`: a drawing shows the automaton

A drawing declares a state when an edge leads to it for the first time. So it says of no state that
it comes before the edges that leave it, and of none that it is declared at all. Both follow from
how the edges are found: every edge of a walk leaves from the start or from where an edge before it
led, and in a compiled automaton every state but the start is the target of an edge of the walk.

`Nfa.Drawn` is what drawing the edges one by one comes to. What holds of every list of edges is
shown there, and `Nfa.Structured.draws` puts it together with what holds of the walk.
`compile_drawing` says what is left in the text: each statement is a line of its own, which tells
the statement.
-/

set_option autoImplicit false

namespace PatternNfa

namespace Drawing

namespace Line

/-- The state that the statement declares, and how it is drawn. -/
def node? : Line → Option (StateId × Role)
  | node id role => some (id, role)
  | edge _ => none

/-- The edge that the statement draws. -/
def edge? : Line → Option Edge
  | node _ _ => none
  | edge e => some e

/-- An edge that reads nothing is dashed. -/
theorem text_epsilon (p q : StateId) :
    (edge ⟨p, .epsilon, q⟩).text = s!"node_{p} -> node_{q}[style=dashed]" := rfl

/-- An edge that reads a symbol is labelled with it. -/
theorem text_symbol (p q : StateId) (c : Char) :
    (edge ⟨p, .symbol c, q⟩).text = s!"node_{p} -> node_{q}[label=\"{c}\"]" := by
  show s!"node_{p} -> node_{q}" ++ ("[label=\"" ++ toString c ++ "\"]") = _
  rw [← String.append_assoc, ← String.append_assoc]
  rfl

/-- Statements differ if the declarations do and the edges do. -/
theorem nodup_of_parts {ls : List Line} (hnodes : (ls.filterMap node?).Nodup)
    (hedges : (ls.filterMap edge?).Nodup) : ls.Nodup := by
  induction ls with
  | nil => exact List.nodup_nil
  | cons l ls ih =>
      cases l with
      | node id role =>
          obtain ⟨hnew, hnodes⟩ := List.nodup_cons.mp hnodes
          refine List.nodup_cons.mpr ⟨fun hmem => hnew ?_, ih hnodes hedges⟩
          exact List.mem_filterMap.mpr ⟨_, hmem, rfl⟩
      | edge e =>
          obtain ⟨hnew, hedges⟩ := List.nodup_cons.mp hedges
          refine List.nodup_cons.mpr ⟨fun hmem => hnew ?_, ih hnodes hedges⟩
          exact List.mem_filterMap.mpr ⟨_, hmem, rfl⟩

end Line

/-- Statements that are one line each are the lines between the settings and the closing braces. -/
theorem exists_body {ls : List Line} (h : ∀ l ∈ ls, OneLine l.text) :
    ∃ body, render ls = header ++ nodeDefaults ++ body ∧
      Text.lines body = ls.map Line.text ++ ["", "\x7d\x7d"] := by
  refine ⟨String.join (ls.map (·.text ++ "\n")) ++ "\n\x7d\x7d", ?_, ?_⟩
  · rw [render, String.append_assoc]
  · have hlines : ∀ s ∈ ls.map Line.text, OneLine s := List.forall_mem_map.mpr h
    have hend : Text.lines "\n\x7d\x7d" = ["", "\x7d\x7d"] := rfl
    have hbody := Text.lines_append hlines "\n\x7d\x7d"
    rwa [List.map_map, hend] at hbody

end Drawing

namespace Nfa

open Drawing

/-! ### Edge by edge -/

/-- Every edge leaves from a known state or from where an edge before it led. -/
def Follow (known : List StateId) (es : List Edge) : Prop :=
  ∀ before e after, es = before ++ e :: after →
    e.source ∈ known ∨ ∃ e' ∈ before, e'.target = e.source

/-- Every edge comes after the statements that declare its ends, unless these are known. States are
declared as what they are. -/
def Declared (nfa : Nfa) : List StateId → List Line → Prop
  | _, [] => True
  | known, .node id role :: ls => role = nfa.role id ∧ Declared nfa (id :: known) ls
  | known, .edge e :: ls => e.source ∈ known ∧ e.target ∈ known ∧ Declared nfa known ls

/-- The statements that edges lead to if some states are declared before. -/
inductive Drawn (nfa : Nfa) : List StateId → List Edge → List Line → Prop where
  | nil (drawn : List StateId) : Drawn nfa drawn [] []
  | old {drawn : List StateId} {e : Edge} {es : List Edge} {ls : List Line} :
      e.target ∈ drawn → Drawn nfa drawn es ls → Drawn nfa drawn (e :: es) (.edge e :: ls)
  | new {drawn : List StateId} {e : Edge} {es : List Edge} {ls : List Line} :
      e.target ∉ drawn → Drawn nfa (e.target :: drawn) es ls →
      Drawn nfa drawn (e :: es) (.node e.target (nfa.role e.target) :: .edge e :: ls)

variable {nfa : Nfa} {known drawn : List StateId} {e : Edge} {es : List Edge}
  {ls before after : List Line}

namespace Follow

/-- The first edge leaves from a known state. -/
theorem head (h : Follow known (e :: es)) : e.source ∈ known :=
  (h [] e es rfl).resolve_right (by simp)

/-- The other edges may leave from where the first one leads as well. -/
theorem tail (h : Follow known (e :: es)) : Follow (e.target :: known) es := by
  intro before e' after hes
  rcases h (e :: before) e' after (congrArg _ hes) with hknown | ⟨e'', he'', htarget⟩
  · exact .inl (List.mem_cons_of_mem _ hknown)
  · rcases List.mem_cons.mp he'' with rfl | he''
    · exact .inl (htarget ▸ List.mem_cons_self)
    · exact .inr ⟨e'', he'', htarget⟩

/-- Edges that follow known states follow more of them. -/
theorem mono {known' : List StateId} (hknown : known ⊆ known') (h : Follow known es) :
    Follow known' es :=
  fun before e after hes => (h before e after hes).imp_left fun hsource => hknown hsource

end Follow

/-- What an edge joins is known or declared before it. -/
theorem Declared.mem_before (h : nfa.Declared known (before ++ .edge e :: after)) :
    (e.source ∈ known ∨ .node e.source (nfa.role e.source) ∈ before) ∧
      (e.target ∈ known ∨ .node e.target (nfa.role e.target) ∈ before) := by
  induction before generalizing known with
  | nil => exact ⟨.inl h.1, .inl h.2.1⟩
  | cons l before ih =>
      cases l with
      | node id role =>
          obtain ⟨rfl, hrest⟩ := h
          have hknown : ∀ p, p ∈ id :: known ∨ .node p (nfa.role p) ∈ before →
              p ∈ known ∨ .node p (nfa.role p) ∈ Line.node id (nfa.role id) :: before := by
            rintro p (hp | hp)
            · rcases List.mem_cons.mp hp with rfl | hp
              · exact .inr List.mem_cons_self
              · exact .inl hp
            · exact .inr (List.mem_cons_of_mem _ hp)
          exact (ih hrest).imp (hknown _) (hknown _)
      | edge e' =>
          exact (ih h.2.2).imp (.imp_right (List.mem_cons_of_mem _))
            (.imp_right (List.mem_cons_of_mem _))

/-- Edges that lead to states that exist can be drawn. -/
theorem exists_drawEdges? (drawn : List StateId)
    (h : ∀ e ∈ es, e.target < nfa.arena.size) : ∃ lines, nfa.drawEdges? drawn es = some lines := by
  induction es generalizing drawn with
  | nil => exact ⟨[], rfl⟩
  | cons e es ih =>
      rw [List.forall_mem_cons] at h
      rw [drawEdges?, if_pos h.1]
      split
      · obtain ⟨lines, hlines⟩ := ih drawn h.2
        exact ⟨_, by rw [hlines]; rfl⟩
      · obtain ⟨lines, hlines⟩ := ih (e.target :: drawn) h.2
        exact ⟨_, by rw [hlines]; rfl⟩

/-- Drawing edges gives the statements that they lead to. -/
theorem drawn_of_drawEdges? (h : nfa.drawEdges? drawn es = some ls) : nfa.Drawn drawn es ls := by
  induction es generalizing drawn ls with
  | nil =>
      cases h
      exact .nil drawn
  | cons e es ih =>
      rw [drawEdges?] at h
      split at h
      · split at h
        · rename_i htarget
          obtain ⟨rest, hrest, rfl⟩ := Option.map_eq_some_iff.mp h
          exact .old htarget (ih hrest)
        · rename_i htarget
          obtain ⟨rest, hrest, rfl⟩ := Option.map_eq_some_iff.mp h
          exact .new htarget (ih hrest)
      · cases h

namespace Drawn

/-- Every edge is drawn, in its place. -/
theorem edges_eq (h : nfa.Drawn drawn es ls) : ls.filterMap Line.edge? = es := by
  induction h with
  | nil => rfl
  | old _ _ ih => exact congrArg _ ih
  | new _ _ ih => exact congrArg _ ih

/-- The targets that were not declared before are declared, each once. -/
theorem exists_nodes (h : nfa.Drawn drawn es ls) :
    ∃ ids : List StateId, ls.filterMap Line.node? = ids.map (fun id => (id, nfa.role id)) ∧
      ids.Nodup ∧ ∀ id, id ∈ ids ↔ id ∉ drawn ∧ ∃ e ∈ es, e.target = id := by
  induction h with
  | nil => exact ⟨[], rfl, List.nodup_nil, by simp⟩
  | @old drawn e es ls htarget _ ih =>
      obtain ⟨ids, hids, hnodup, hmem⟩ := ih
      refine ⟨ids, hids, hnodup, fun id => ?_⟩
      rw [hmem, List.exists_mem_cons_iff]
      -- The first edge leads to no state that is new.
      constructor
      · rintro ⟨hnew, hedge⟩
        exact ⟨hnew, .inr hedge⟩
      · rintro ⟨hnew, rfl | hedge⟩
        · exact absurd htarget hnew
        · exact ⟨hnew, hedge⟩
  | @new drawn e es ls htarget _ ih =>
      obtain ⟨ids, hids, hnodup, hmem⟩ := ih
      refine ⟨e.target :: ids, congrArg _ hids, ?_, fun id => ?_⟩
      · exact List.nodup_cons.mpr ⟨fun hnew => ((hmem _).mp hnew).1 List.mem_cons_self, hnodup⟩
      · rw [List.mem_cons, hmem, List.exists_mem_cons_iff, List.mem_cons, not_or]
        constructor
        · rintro (rfl | ⟨⟨-, hnew⟩, hedge⟩)
          · exact ⟨htarget, .inl rfl⟩
          · exact ⟨hnew, .inr hedge⟩
        · rintro ⟨hnew, rfl | hedge⟩
          · exact .inl rfl
          · by_cases hid : id = e.target
            · exact .inl hid
            · exact .inr ⟨⟨hid, hnew⟩, hedge⟩

/-- If the edges follow what is declared before, the ends of every edge are declared before it. -/
theorem declared (h : nfa.Drawn drawn es ls) (hfollow : Follow drawn es) :
    nfa.Declared drawn ls := by
  induction h with
  | nil => trivial
  | @old drawn e es ls htarget _ ih =>
      have hknown : e.target :: drawn ⊆ drawn := List.cons_subset.mpr ⟨htarget, List.Subset.refl _⟩
      exact ⟨hfollow.head, htarget, ih (hfollow.tail.mono hknown)⟩
  | @new drawn e es ls htarget _ ih =>
      exact ⟨rfl, List.mem_cons_of_mem _ hfollow.head, List.mem_cons_self, ih hfollow.tail⟩

end Drawn

/-! ### The whole drawing -/

/-- The statements show the automaton. -/
structure Draws (nfa : Nfa) (lines : List Line) : Prop where
  /-- Every state is declared once, as what it is. -/
  nodes : (lines.filterMap Line.node?).Perm
    ((List.range nfa.arena.size).map fun id => (id, nfa.role id))
  /-- The edges are those of the walk, in its order. -/
  edges : lines.filterMap Line.edge? = nfa.edges.toList
  /-- No edge comes before the states that it joins. -/
  declared : ∀ before e after, lines = before ++ .edge e :: after →
    .node e.source (nfa.role e.source) ∈ before ∧ .node e.target (nfa.role e.target) ∈ before

/-- The start is green, the accepting state has a double border, and the others are grey. -/
theorem text_node (nfa : Nfa) (id : StateId) :
    (Line.node id (nfa.role id)).text = s!"node_{id}[label=\"{id}\"" ++
      if id = nfa.start then "][fillcolor=green]"
      else if id = nfa.accept then " shape=doublecircle]"
      else "][fillcolor=\"#EEEEEE\" fontcolor=\"#888888\"]" := by
  rw [role]
  split_ifs <;> rfl

/-- Every edge of a walk leaves from the start or from where an edge before it led. -/
theorem follow_edges (nfa : Nfa) : Follow [nfa.start] nfa.edges.toList :=
  fun _ _ _ hsplit => (Arena.source_of_walk_split hsplit).imp_left List.mem_singleton.mpr

namespace Structured

/-- The edges of the walk lead to states that exist. -/
theorem target_lt_of_mem_edges (h : nfa.Structured) (he : e ∈ nfa.edges.toList) :
    e.target < nfa.arena.size :=
  h.target_lt e (Arena.mem_walk_iff.mp he).1

/-- Every state but the start is the target of an edge of the walk. -/
theorem exists_edge_to (h : nfa.Structured) {id : StateId} (hid : id < nfa.arena.size) :
    id = nfa.start ∨ ∃ e ∈ nfa.edges.toList, e.target = id := by
  obtain ⟨w, hpath⟩ := (h.reaches id hid).1
  refine hpath.mem_of_closed (S := fun id => id = nfa.start ∨ ∃ e ∈ nfa.edges.toList, e.target = id)
    (fun e he _ => .inr ⟨e, ?_, rfl⟩) (.inl rfl)
  exact Arena.mem_walk_iff.mpr ⟨he, (h.reaches e.source he.source_lt).1⟩

/-- An edge of the walk reads a symbol or nothing, and no line feed. -/
theorem char_ne_newline (h : nfa.Structured) (he : e ∈ nfa.edges.toList) :
    e.label.char ≠ '\n' := by
  rcases e with ⟨source, label, target⟩
  cases label with
  | epsilon => exact show 'ε' ≠ '\n' by decide
  | symbol c =>
      have hc := (h.edgesOf_eq (Arena.mem_walk_iff.mp he).1).1
      rintro rfl
      exact absurd hc (by decide)

/-- An automaton whose states all exist can be drawn. -/
theorem exists_drawing? (h : nfa.Structured) : ∃ lines, nfa.drawing? = some lines := by
  obtain ⟨lines, hlines⟩ := exists_drawEdges? [nfa.start] fun e he => h.target_lt_of_mem_edges he
  exact ⟨_, by rw [drawing?, if_pos h.start_lt, hlines]; rfl⟩

/-- The drawing of a compiled automaton shows it: the start is declared first and every other state
when an edge leads to it for the first time. -/
theorem draws (h : nfa.Structured) (hdrawing : nfa.drawing? = some ls) : nfa.Draws ls := by
  rw [drawing?, if_pos h.start_lt] at hdrawing
  obtain ⟨rest, hrest, rfl⟩ := Option.map_eq_some_iff.mp hdrawing
  have hdrawn := drawn_of_drawEdges? hrest
  constructor
  · obtain ⟨ids, hids, hnodup, hmem⟩ := hdrawn.exists_nodes
    simp only [List.mem_singleton] at hmem
    have hstart : nfa.start ∉ ids := fun hstart => ((hmem _).mp hstart).1 rfl
    have hperm : (nfa.start :: ids).Perm (List.range nfa.arena.size) := by
      rw [List.perm_ext_iff_of_nodup (List.nodup_cons.mpr ⟨hstart, hnodup⟩) List.nodup_range]
      intro id
      rw [List.mem_cons, hmem, List.mem_range]
      constructor
      · rintro (rfl | ⟨-, e, he, rfl⟩)
        · exact h.start_lt
        · exact h.target_lt_of_mem_edges he
      · intro hid
        rcases h.exists_edge_to hid with hid | hedge
        · exact .inl hid
        · by_cases hid : id = nfa.start
          · exact .inl hid
          · exact .inr ⟨hid, hedge⟩
    have hnodes : (Line.node nfa.start (nfa.role nfa.start) :: rest).filterMap Line.node? =
        (nfa.start :: ids).map fun id => (id, nfa.role id) := by
      rw [List.map_cons, ← hids]
      rfl
    rw [hnodes]
    exact hperm.map _
  · exact hdrawn.edges_eq
  · intro before e after hsplit
    have hdeclared : nfa.Declared [] (.node nfa.start (nfa.role nfa.start) :: rest) :=
      ⟨rfl, hdrawn.declared (follow_edges nfa)⟩
    rw [hsplit] at hdeclared
    obtain ⟨hsource, htarget⟩ := hdeclared.mem_before
    exact ⟨hsource.resolve_left List.not_mem_nil, htarget.resolve_left List.not_mem_nil⟩

end Structured

/-- No statement comes twice, since no state is declared twice and no edge is drawn twice. -/
theorem Draws.nodup (h : nfa.Draws ls) (hedges : nfa.edges.toList.Nodup) : ls.Nodup := by
  refine Line.nodup_of_parts (h.nodes.nodup_iff.mpr ?_) (h.edges ▸ hedges)
  exact List.nodup_range.map fun p q hpq => congrArg Prod.fst hpq

/-- Symbols are no line feeds, so every statement is one line. -/
theorem Draws.oneLine (h : nfa.Draws ls) (hstructured : nfa.Structured) :
    ∀ l ∈ ls, OneLine l.text := by
  intro l hl
  cases l with
  | node id role => exact Line.oneLine_text_node id role
  | edge e =>
      have he : e ∈ nfa.edges.toList := by
        rw [← h.edges]
        exact List.mem_filterMap.mpr ⟨_, hl, rfl⟩
      exact Line.oneLine_text_edge (hstructured.char_ne_newline he)

end Nfa

/-! ### Compiled automata -/

open Drawing

/-- Whatever compiles can be drawn, and the drawing shows the automaton: every state is declared
once, the edges are those of the walk in their order, and no edge comes before the states that it
joins. In the text, each statement has a line of its own between the settings and the closing
braces, and no two lines of statements are alike. The start is green, the accepting state has a
double border, the others are grey, and an edge is dashed or labelled with its symbol. -/
theorem compile_drawing {flags : Flags} {pattern : String} {nfa : Nfa}
    (h : Nfa.compile flags pattern = .ok nfa) :
    (∃ lines body, nfa.drawing? = some lines ∧ nfa.dot? = some (header ++ nodeDefaults ++ body) ∧
      Text.lines body = lines.map Line.text ++ ["", "\x7d\x7d"] ∧ (lines.map Line.text).Nodup ∧
      nfa.Draws lines) ∧
    nfa.start ≠ nfa.accept ∧
    (∀ id, (Line.node id (nfa.role id)).text = s!"node_{id}[label=\"{id}\"" ++
      if id = nfa.start then "][fillcolor=green]"
      else if id = nfa.accept then " shape=doublecircle]"
      else "][fillcolor=\"#EEEEEE\" fontcolor=\"#888888\"]") ∧
    ∀ p q, (Line.edge ⟨p, .epsilon, q⟩).text = s!"node_{p} -> node_{q}[style=dashed]" ∧
      ∀ c, (Line.edge ⟨p, .symbol c, q⟩).text = s!"node_{p} -> node_{q}[label=\"{c}\"]" := by
  have hstructured : nfa.Structured := .of_compile h
  obtain ⟨lines, hlines⟩ := hstructured.exists_drawing?
  have hdraws := hstructured.draws hlines
  obtain ⟨body, hrender, hbody⟩ := exists_body (hdraws.oneLine hstructured)
  have htext : nfa.dot? = some (header ++ nodeDefaults ++ body) := by
    rw [Nfa.dot?, hlines, ← hrender]
    rfl
  have hnodup : (lines.map Line.text).Nodup :=
    (hdraws.nodup hstructured.nodup_edges).map Line.text_injective
  exact ⟨⟨lines, body, hlines, htext, hbody, hnodup, hdraws⟩, hstructured.start_ne_accept,
    Nfa.text_node _, fun p q => ⟨Line.text_epsilon p q, Line.text_symbol p q⟩⟩

/-- The start of a star is declared first, and each other state right before the edge that leads to
it. -/
theorem compile_drawing_of_star :
    let lines : List Line :=
      [.node 2 .start, .node 0 .inner, .edge ⟨2, .epsilon, 0⟩, .node 3 .accept,
        .edge ⟨2, .epsilon, 3⟩, .node 1 .inner, .edge ⟨0, .symbol 'a', 1⟩, .edge ⟨1, .epsilon, 0⟩,
        .edge ⟨1, .epsilon, 3⟩]
    ∃ nfa body, Nfa.compile {} "a*" = .ok nfa ∧
      nfa.dot? = some (header ++ nodeDefaults ++ body) ∧
      Text.lines body = lines.map Line.text ++ ["", "\x7d\x7d"] ∧ nfa.Draws lines := by
  intro lines
  let states : List State :=
    [{ transitions := [('a', [1])] }, { epsilon := [0, 3] }, { epsilon := [0, 3] }, {}]
  let nfa : Nfa := { pattern := "a*", arena := { states }, start := 2, accept := 3 }
  have hcompile : Nfa.compile {} "a*" = .ok nfa := by decide
  have hlines : nfa.drawing? = some lines := by cbv
  obtain ⟨⟨lines', body, hlines', htext, hbody, -, hdraws⟩, -⟩ := compile_drawing hcompile
  cases hlines.symm.trans hlines'
  exact ⟨nfa, body, hcompile, htext, hbody, hdraws⟩

end PatternNfa
