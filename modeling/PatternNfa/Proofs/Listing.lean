import PatternNfa.Nfa.Listing
import PatternNfa.Proofs.Cycles
import PatternNfa.Proofs.Drawing

/-!
# `PatternNfa.Proofs.Listing`: which edges have the same line

A listing is a heading and the edges of a walk in their order, a line each (`Nfa.listing_eq`). No
edge of a compiled automaton takes up two lines, so its listing has these lines and no others
(`Nfa.Structured.lines_listing`).

The line of an edge tells its ends and a character. The character tells the label unless it is an
epsilon: a pattern can have that letter as a symbol, and it is shown like an edge that reads
nothing. So the question is which ends the two kinds of edges have.

States are made two at a time, so a start has an even id and a stop an odd one. Symbols lead from an
even id to the next one. An edge that reads nothing does so only if it leads past what a star
repeats (`Expr.Makes`, `Arena.build_numbered`). In one automaton the two never share a source, and a
pattern has one automaton whichever options it is compiled with (`Nfa.compile_unique`). What is left
are the edges of two patterns, one with a star and one with the letter (`Lookalike`), and
`compile_edge_text` says that no others are confused.
-/

set_option autoImplicit false

namespace PatternNfa

/-! ### The lines of a listing -/

namespace Nfa

/-- The heading, and the edges of the walk in its order, a line each. An automaton without edges has
an empty line instead. -/
theorem listing_eq (nfa : Nfa) :
    nfa.listing = "NFA Transitions:\n" ++
      if nfa.edges.toList = [] then "\n"
      else String.join (nfa.edges.toList.map fun e =>
        s!"{e.source} -- {e.label.text} --> {e.target}\n") := by
  have hbody : "\n".intercalate nfa.lines ++ "\n" =
      if nfa.edges.toList = [] then "\n"
      else String.join (nfa.edges.toList.map (·.text ++ "\n")) := by
    rw [lines]
    split_ifs with hnil
    · rw [hnil, List.map_nil, String.intercalate_nil, String.empty_append]
    · rw [Text.intercalate_append_newline (mt List.map_eq_nil_iff.mp hnil), List.map_map]
      rfl
  exact String.append_assoc.trans (congrArg _ hbody)

namespace Structured

variable {nfa : Nfa}

/-- The accepting state is not the start, so an edge of the walk leads to it. -/
theorem edges_ne_nil (h : nfa.Structured) : nfa.edges.toList ≠ [] := by
  intro hnil
  rcases h.exists_edge_to h.accept_lt with haccept | ⟨e, he, -⟩
  · exact h.start_ne_accept haccept.symm
  · rw [hnil] at he
    exact List.not_mem_nil he

/-- There is a line for each edge, and none for want of edges. -/
theorem listing_eq (h : nfa.Structured) :
    nfa.listing = "NFA Transitions:\n" ++
      String.join (nfa.edges.toList.map fun e =>
        s!"{e.source} -- {e.label.text} --> {e.target}\n") := by
  rw [Nfa.listing_eq, if_neg h.edges_ne_nil]

/-- The lines of a listing are its heading and those of the edges. -/
theorem lines_listing (h : nfa.Structured) :
    Text.lines nfa.listing = "NFA Transitions:" :: (nfa.edges.toList.map Edge.text ++ [""]) := by
  have hlines : ∀ s ∈ nfa.edges.toList.map Edge.text, OneLine s :=
    List.forall_mem_map.mpr fun e he => Edge.oneLine_text (h.char_ne_newline he)
  have hbody := Text.lines_append hlines ""
  rw [List.map_map, String.append_empty] at hbody
  have hheading := Text.lines_append_line "NFA Transitions:"
    (String.join (nfa.edges.toList.map fun e => e.text ++ "\n"))
  rw [h.listing_eq]
  exact hheading.trans (congrArg _ hbody)

end Structured

end Nfa

/-! ### Both ways of writing -/

/-- A character that is allowed where concatenations are not written stands for the same kind where
they are. -/
theorem Kind.ofChar?_of_implicit {c : Char} {k : Kind} (h : ofChar? false c = some k)
    (explicitConcat : Bool) : ofChar? explicitConcat c = some k := by
  have hspelt : Token.Spelt false { kind := k, offset := 0 } := by
    rw [Token.Spelt, Token.char, char_of_ofChar? h, h]
  cases explicitConcat with
  | false => exact h
  | true =>
      have hexplicit := hspelt.explicit
      rwa [Token.Spelt, Token.char, char_of_ofChar? h] at hexplicit

namespace Token

/-- Scanning without written concatenations gives what scanning gives with any options. -/
theorem scanFrom_of_implicit {flags : Flags} (hflags : flags.explicitConcat = false)
    (flags' : Flags) {offset : Nat} {cs : List Char} {ts : List Token}
    (h : scanFrom flags offset cs = .ok ts) : scanFrom flags' offset cs = .ok ts := by
  induction cs generalizing offset ts with
  | nil => exact h
  | cons c cs ih =>
      rw [scanFrom] at h
      split at h
      · cases h
      · rename_i k hk
        obtain ⟨rest, hrest, rfl⟩ := Except.exists_of_map_eq_ok h
        rw [hflags] at hk
        exact scanFrom_cons (Kind.ofChar?_of_implicit hk _) (ih hrest)

/-- Spelling out keeps the tokens in their order. -/
theorem sublist_expand (ts : List Token) : ts.Sublist (expand ts) := by
  induction ts with
  | nil => exact List.Sublist.refl []
  | cons t ts ih =>
      cases ts with
      | nil => exact List.Sublist.refl [t]
      | cons u us =>
          rw [expand_cons_cons, List.cons_append]
          exact (ih.trans (List.sublist_append_right _ _)).cons_cons t

/-- Spelling concatenations out changes nothing if it adds no operator. -/
theorem expand_eq_self {ts : List Token} (h : binaries (expand ts) = binaries ts) :
    expand ts = ts := by
  have hothers : ((expand ts).countP fun t => !t.kind.isBinary) =
      ts.countP fun t => !t.kind.isBinary := countP_expand (p := fun k => !k.isBinary) rfl ts
  have hlength : ∀ us : List Token,
      us.length = binaries us + us.countP fun t => !t.kind.isBinary := by
    intro us
    simpa [binaries] using List.length_eq_countP_add_countP (fun t : Token => t.kind.isBinary)
  refine ((sublist_expand ts).eq_of_length ?_).symm
  rw [hlength, hlength, h, hothers]

/-- Tokens that are put into the postfix order of an expression have one symbol more than operators
with two operands. -/
theorem symbols_of_toPostfix {ts out : List Token} {e : Expr} (hordered : toPostfix ts = .ok out)
    (hout : out.map kind = e.postorder) : symbols ts = binaries ts + 1 := by
  have hcount := Expr.length_of_read e.read_postorder_self
  rw [← hout, List.countP_map, List.countP_map] at hcount
  have hsymbols : symbols out = symbols ts :=
    countP_of_toPostfix (fun _ => Kind.isSymbol_of_isParen) hordered
  have hbinaries : binaries out = binaries ts :=
    countP_of_toPostfix (fun _ => Kind.isBinary_of_isParen) hordered
  have hcount : 0 + symbols out = 1 + binaries out := hcount
  omega

end Token

namespace Nfa

variable {flags flags' : Flags} {pattern : String} {nfa nfa' : Nfa}

/-- Where no concatenation is written, a pattern that compiles either way has none. -/
theorem compile_unique_of_implicit (hflags : flags.explicitConcat = false)
    (hflags' : flags'.explicitConcat = true) (h : compile flags pattern = .ok nfa)
    (h' : compile flags' pattern = .ok nfa') : nfa = nfa' := by
  obtain ⟨out, e, hparse, hout, rfl⟩ := exists_postorder_of_compile h
  obtain ⟨out', e', hparse', hout', rfl⟩ := exists_postorder_of_compile h'
  obtain ⟨ts, hscan, hordered⟩ := exists_scan_of_parse hparse
  obtain ⟨ts', hscan', hordered'⟩ := exists_scan_of_parse hparse'
  cases (Token.scanFrom_of_implicit hflags flags' hscan).symm.trans hscan'
  rw [Token.spellOut, hflags, if_neg Bool.false_ne_true] at hordered
  rw [Token.spellOut, hflags', if_pos rfl] at hordered'
  -- The count is right with and without the concatenations that are spelt out, so there are none.
  have hsymbols : Token.symbols (Token.expand ts) = Token.symbols ts :=
    Token.countP_expand (p := Kind.isSymbol) rfl ts
  have hcount := Token.symbols_of_toPostfix hordered hout
  have hcount' := Token.symbols_of_toPostfix hordered' hout'
  rw [Token.expand_eq_self (by omega)] at hordered
  cases hordered.symm.trans hordered'
  rw [Expr.postorder_injective (hout.symm.trans hout')]

/-- A pattern has one automaton, whichever options it is compiled with. -/
theorem compile_unique (h : compile flags pattern = .ok nfa)
    (h' : compile flags' pattern = .ok nfa') : nfa = nfa' := by
  by_cases hflags : flags.explicitConcat = flags'.explicitConcat
  · rw [compile_congr hflags] at h
    exact Except.ok.inj (h.symm.trans h')
  · -- Of two different options, one is to leave concatenations unwritten.
    cases hexplicit : flags.explicitConcat with
    | false =>
        have hexplicit' : flags'.explicitConcat = true :=
          Bool.eq_true_of_not_eq_false fun hfalse => hflags (hexplicit.trans hfalse.symm)
        exact compile_unique_of_implicit hexplicit hexplicit' h h'
    | true =>
        have hexplicit' : flags'.explicitConcat = false :=
          Bool.eq_false_of_not_eq_true fun htrue => hflags (hexplicit.trans htrue.symm)
        exact (compile_unique_of_implicit hexplicit' hexplicit h' h).symm

end Nfa

/-- The symbols of the tree of a pattern are characters of the pattern. -/
theorem Expr.mem_of_symbol_mem_postorder {flags : Flags} {pattern : String} {out : List Token}
    {e : Expr} {c : Char} (hparse : (parse flags pattern).result = .ok out)
    (hout : out.map Token.kind = e.postorder) (hc : Kind.symbol c ∈ e.postorder) :
    c ∈ pattern.toList := by
  obtain ⟨ts, hscan, hordered⟩ := exists_scan_of_parse hparse
  rw [← hout] at hc
  obtain ⟨t, ht, hkind⟩ := List.mem_map.mp hc
  have hmem : t ∈ ts := by
    have hspellOut := (Token.mem_of_mem_toPostfix hordered ht).1
    rw [Token.spellOut] at hspellOut
    split at hspellOut
    · exact hspellOut
    · refine (Token.mem_expand hspellOut).resolve_right fun hconcat => ?_
      cases hkind.symm.trans hconcat
  rw [← (Token.scanFrom_eq_ok hscan).1]
  exact List.mem_map.mpr ⟨t, hmem, congrArg Kind.char hkind⟩

/-! ### Ids -/

/-- An edge that building the expression can make, by its ids. -/
inductive Expr.Makes (e : Expr) : Edge → Prop where
  | symbol {n : Nat} {c : Char} :
      n % 2 = 0 → Kind.symbol c ∈ e.postorder → Makes e ⟨n, .symbol c, n + 1⟩
  /-- The way past what a star repeats. -/
  | bypass {n : Nat} : Kind.star ∈ e.postorder → Makes e ⟨n, .epsilon, n + 1⟩
  | link {p q : Nat} : (p % 2 = 0 → q ≠ p + 1) → Makes e ⟨p, .epsilon, q⟩

namespace Expr.Makes

variable {e e' : Expr} {edge : Edge}

/-- What an expression makes, one with all its kinds makes as well. -/
theorem mono (h : e.Makes edge) (hsub : e.postorder ⊆ e'.postorder) : e'.Makes edge := by
  cases h with
  | symbol hn hc => exact .symbol hn (hsub hc)
  | bypass hstar => exact .bypass (hsub hstar)
  | link hne => exact .link hne

/-- An odd id may lead anywhere without reading. -/
theorem of_odd {p q : StateId} (hp : p % 2 = 1) : e.Makes ⟨p, .epsilon, q⟩ :=
  .link fun heven => absurd (heven.symm.trans hp) Nat.zero_ne_one

/-- An id may lead back without reading. -/
theorem of_lt {p q : StateId} (hlt : q < p) : e.Makes ⟨p, .epsilon, q⟩ :=
  .link fun _ => Nat.ne_of_lt (Nat.lt_succ_of_lt hlt)

/-- Edges of both kinds with the same ends lead to the next id, and the one that reads nothing leads
past what a star repeats. -/
theorem of_same_ends {p q : StateId} {c : Char} (h : e.Makes ⟨p, .epsilon, q⟩)
    (h' : e'.Makes ⟨p, .symbol c, q⟩) :
    q = p + 1 ∧ Kind.star ∈ e.postorder ∧ Kind.symbol c ∈ e'.postorder := by
  cases h' with
  | symbol hn hc =>
      cases h with
      | bypass hstar => exact ⟨rfl, hstar, hc⟩
      | link hne => exact absurd rfl (hne hn)

end Expr.Makes

namespace Arena

/-- The block ends before an even id, its start is even and its stop is odd, and its edges are some
that building the expression can make. -/
structure Numbered (a : Arena) (e : Expr) (lo hi : Nat) (f : Fragment) : Prop where
  hi_even : hi % 2 = 0
  start_even : f.start % 2 = 0
  stop_odd : f.stop % 2 = 1
  makes : ∀ edge, a.HasEdge edge → Inside lo hi edge.source → e.Makes edge

namespace Numbered

variable {a b : Arena} {e l r : Expr} {lo mid hi : Nat} {f left right : Fragment}

/-- States behind a block do not change its edges. -/
theorem of_extends (hblock : a.Block lo hi f) (hab : a.Extends b) (h : a.Numbered e lo hi f) :
    b.Numbered e lo hi f where
  hi_even := h.hi_even
  start_even := h.start_even
  stop_odd := h.stop_odd
  makes edge hedge hin :=
    h.makes edge ((hab.hasEdge_iff (Nat.lt_of_lt_of_le hin.2 hblock.hi_le)).mp hedge) hin

/-- Two fresh ids behind an even number of states are the start and the stop of a block. -/
theorem around {n : Nat} (heven : n % 2 = 0)
    (hmakes : ∀ edge, a.HasEdge edge → Inside lo (n + 2) edge.source → e.Makes edge) :
    a.Numbered e lo (n + 2) ⟨n, n + 1⟩ where
  hi_even := by omega
  start_even := heven
  stop_odd := show (n + 1) % 2 = 1 by omega
  makes := hmakes

/-- The edges of two blocks that follow one another are edges of any expression that has both. -/
theorem makes_append (hl : a.Numbered l lo mid left) (hr : a.Numbered r mid hi right)
    (hlsub : l.postorder ⊆ e.postorder) (hrsub : r.postorder ⊆ e.postorder) {edge : Edge}
    (hedge : a.HasEdge edge) (hin : Inside lo hi edge.source) : e.Makes edge := by
  cases hin.split mid with
  | inl hin => exact (hl.makes edge hedge hin).mono hlsub
  | inr hin => exact (hr.makes edge hedge hin).mono hrsub

/-- A literal behind an even number of states has an even start and an odd stop. -/
theorem literal (a : Arena) (c : Char) (heven : a.size % 2 = 0) :
    (a.literal c).arena.Numbered (.symbol c) a.size (a.size + 2) (a.literal c).fragment := by
  refine around heven fun edge hedge hin => ?_
  rcases hasEdge_literal.mp hedge with hold | rfl
  · exact absurd hin (hold.not_inside_fresh _)
  · exact .symbol heven List.mem_cons_self

/-- The link leaves from an odd id. -/
theorem concatenate (hbl : a.Block lo mid left) (hl : a.Numbered l lo mid left)
    (hr : a.Numbered r mid hi right) :
    (a.concatenate left right).arena.Numbered (.concat l r) lo hi
      (a.concatenate left right).fragment where
  hi_even := hr.hi_even
  start_even := hl.start_even
  stop_odd := hr.stop_odd
  makes edge hedge hin := by
    rcases (hasEdge_concatenate hbl.stop_lt).mp hedge with hold | rfl
    · exact makes_append hl hr (by simp [Expr.postorder]) (by simp [Expr.postorder]) hold hin
    · exact .of_odd hl.stop_odd

/-- The links leave from the fresh start to ids before it, or from odd ids. -/
theorem union (hbl : a.Block lo mid left) (hbr : a.Block mid a.size right)
    (hl : a.Numbered l lo mid left) (hr : a.Numbered r mid a.size right) :
    (a.union left right).arena.Numbered (.union l r) lo (a.size + 2)
      (a.union left right).fragment := by
  refine around hr.hi_even fun edge hedge hin => ?_
  rcases (hasEdge_union hbl.stop_lt hbr.stop_lt).mp hedge with hold | rfl | rfl | rfl | rfl
  · exact makes_append hl hr (by simp [Expr.postorder]) (by simp [Expr.postorder]) hold
      ⟨hin.1, hold.source_lt⟩
  · exact .of_lt (Nat.lt_trans hbl.start_inside.2 hbr.lt)
  · exact .of_lt hbr.start_inside.2
  · exact .of_odd hl.stop_odd
  · exact .of_odd hr.stop_odd

/-- Of the links, only the one between the fresh states leads from an even id to the next one. -/
theorem closure (hblock : a.Block lo a.size f) (h : a.Numbered e lo a.size f) :
    (a.closure f).arena.Numbered (.star e) lo (a.size + 2) (a.closure f).fragment := by
  refine around h.hi_even fun edge hedge hin => ?_
  rcases (hasEdge_closure hblock.stop_lt).mp hedge with hold | rfl | rfl | rfl | rfl
  · exact (h.makes edge hold ⟨hin.1, hold.source_lt⟩).mono (by simp [Expr.postorder])
  · exact .of_lt hblock.start_inside.2
  · exact .bypass (Expr.star_mem_postorder_star e)
  · exact .of_odd h.stop_odd
  · exact .of_odd h.stop_odd

end Numbered

/-- Building an expression behind an even number of states. -/
theorem build_numbered (a : Arena) (e : Expr) (heven : a.size % 2 = 0) :
    (e.build a).arena.Numbered e a.size (e.build a).arena.size (e.build a).fragment := by
  refine build_induction (P := fun e a lo hi f => lo % 2 = 0 → a.Numbered e lo hi f)
    ?_ ?_ ?_ ?_ ?_ a e heven
  · exact fun hblock hab h hlo => .of_extends hblock hab (h hlo)
  · exact fun a c hlo => .literal a c hlo
  · exact fun hbl _ hl hr hlo => .concatenate hbl (hl hlo) (hr (hl hlo).hi_even)
  · exact fun hbl hbr hl hr hlo => .union hbl hbr (hl hlo) (hr (hl hlo).hi_even)
  · exact fun hblock h hlo => .closure hblock (h hlo)

end Arena

/-- Every edge of an automaton is one that its expression can make. -/
theorem Expr.makes_of_mem_edges {e : Expr} {pattern : String} {edge : Edge}
    (h : edge ∈ (e.automaton pattern).edges.toList) : e.Makes edge := by
  have hedge : (e.build {}).arena.HasEdge edge := (Arena.mem_walk_iff.mp h).1
  exact (Arena.build_numbered {} e rfl).makes edge hedge ⟨Nat.zero_le _, hedge.source_lt⟩

/-! ### Lines of a listing -/

/-- The first edge leads past what a star of its pattern repeats, and the second one reads the
letter that the first one is shown with. -/
def Lookalike (pattern : String) (e : Edge) (pattern' : String) (e' : Edge) : Prop :=
  ∃ n, e = ⟨n, .epsilon, n + 1⟩ ∧ '*' ∈ pattern.toList ∧
    e' = ⟨n, .symbol 'ε', n + 1⟩ ∧ 'ε' ∈ pattern'.toList

/-- Lookalikes have the same line. -/
theorem Lookalike.text_eq {pattern pattern' : String} {e e' : Edge}
    (h : Lookalike pattern e pattern' e') : e.text = e'.text := by
  obtain ⟨n, rfl, -, rfl, -⟩ := h
  exact Edge.text_eq_iff.mpr ⟨rfl, rfl, rfl⟩

/-- In compiled automata, edges of both kinds with the same ends are lookalikes of two patterns. -/
theorem lookalike_of_same_ends {flags flags' : Flags} {pattern pattern' : String} {nfa nfa' : Nfa}
    (h : Nfa.compile flags pattern = .ok nfa) (h' : Nfa.compile flags' pattern' = .ok nfa')
    {p q : StateId} (hedge : ⟨p, .epsilon, q⟩ ∈ nfa.edges.toList)
    (hedge' : ⟨p, .symbol 'ε', q⟩ ∈ nfa'.edges.toList) :
    pattern ≠ pattern' ∧ Lookalike pattern ⟨p, .epsilon, q⟩ pattern' ⟨p, .symbol 'ε', q⟩ := by
  constructor
  · rintro rfl
    obtain rfl : nfa = nfa' := Nfa.compile_unique h h'
    have hstructured : nfa.Structured := .of_compile h
    -- The state with the symbol has no other edge.
    have honly := (hstructured.edgesOf_eq (Arena.mem_walk_iff.mp hedge').1).2
    have hepsilon : (⟨p, .epsilon, q⟩ : Edge) ∈ nfa.arena.edgesOf p :=
      (Arena.mem_walk_iff.mp hedge).1
    rw [honly] at hepsilon
    cases List.mem_singleton.mp hepsilon
  · obtain ⟨out, e, hparse, hout, rfl⟩ := Nfa.exists_postorder_of_compile h
    obtain ⟨out', e', hparse', hout', rfl⟩ := Nfa.exists_postorder_of_compile h'
    obtain ⟨rfl, hstar, hletter⟩ :=
      (Expr.makes_of_mem_edges hedge).of_same_ends (Expr.makes_of_mem_edges hedge')
    exact ⟨p, rfl, (Expr.star_mem_postorder_iff hparse hout).mp hstar, rfl,
      Expr.mem_of_symbol_mem_postorder hparse' hout' hletter⟩

/-- Edges of two compiled patterns have the same line exactly if they are the same edge, or if the
patterns are two and the edges are lookalikes: one of them leads past what a star of its pattern
repeats, and the other reads the letter that nothing is shown as. -/
theorem compile_edge_text {flags flags' : Flags} {pattern pattern' : String} {nfa nfa' : Nfa}
    (h : Nfa.compile flags pattern = .ok nfa) (h' : Nfa.compile flags' pattern' = .ok nfa')
    {e e' : Edge} (he : e ∈ nfa.edges.toList) (he' : e' ∈ nfa'.edges.toList) :
    e.text = e'.text ↔ e = e' ∨ pattern ≠ pattern' ∧
      (Lookalike pattern e pattern' e' ∨ Lookalike pattern' e' pattern e) := by
  constructor
  · intro htext
    rcases e with ⟨p, label, q⟩
    rcases e' with ⟨p', label', q'⟩
    obtain ⟨hsource, hchar, htarget⟩ := Edge.text_eq_iff.mp htext
    obtain rfl : p = p' := hsource
    obtain rfl : q = q' := htarget
    rcases Label.char_eq_iff.mp hchar with hlabel | ⟨hlabel, hlabel'⟩ | ⟨hlabel, hlabel'⟩
    · exact .inl (congrArg (Edge.mk p · q) hlabel)
    · obtain rfl : label = .epsilon := hlabel
      obtain rfl : label' = .symbol 'ε' := hlabel'
      exact .inr ((lookalike_of_same_ends h h' he he').imp_right .inl)
    · obtain rfl : label = .symbol 'ε' := hlabel
      obtain rfl : label' = .epsilon := hlabel'
      obtain ⟨hne, hlookalike⟩ := lookalike_of_same_ends h' h he' he
      exact .inr ⟨hne.symm, .inr hlookalike⟩
  · rintro (rfl | ⟨-, hlookalike | hlookalike⟩)
    · rfl
    · exact hlookalike.text_eq
    · exact hlookalike.text_eq.symm

/-- The way past a star and the way through the letter have the same line. -/
theorem edge_text_of_star_and_letter :
    ∃ nfa nfa', Nfa.compile {} "a*" = .ok nfa ∧ Nfa.compile {} "aε" = .ok nfa' ∧
      ∃ e ∈ nfa.edges.toList, ∃ e' ∈ nfa'.edges.toList, e.text = e'.text ∧ e ≠ e' := by
  let states : List State :=
    [{ transitions := [('a', [1])] }, { epsilon := [0, 3] }, { epsilon := [0, 3] }, {}]
  let nfa : Nfa := { pattern := "a*", arena := { states }, start := 2, accept := 3 }
  let states' : List State :=
    [{ transitions := [('a', [1])] }, { epsilon := [2] }, { transitions := [('ε', [3])] }, {}]
  let nfa' : Nfa := { pattern := "aε", arena := { states := states' }, start := 0, accept := 3 }
  have hcompile : Nfa.compile {} "a*" = .ok nfa := by decide
  have hcompile' : Nfa.compile {} "aε" = .ok nfa' := by decide
  have hedges : nfa.edges.toList = [⟨2, .epsilon, 0⟩, ⟨2, .epsilon, 3⟩, ⟨0, .symbol 'a', 1⟩,
      ⟨1, .epsilon, 0⟩, ⟨1, .epsilon, 3⟩] := by cbv
  have hedges' : nfa'.edges.toList =
      [⟨0, .symbol 'a', 1⟩, ⟨1, .epsilon, 2⟩, ⟨2, .symbol 'ε', 3⟩] := by cbv
  refine ⟨nfa, nfa', hcompile, hcompile', ⟨2, .epsilon, 3⟩, ?_, ⟨2, .symbol 'ε', 3⟩, ?_, ?_, ?_⟩
  · rw [hedges]
    decide
  · rw [hedges']
    decide
  · exact Edge.text_eq_iff.mpr ⟨rfl, rfl, rfl⟩
  · decide

/-- A star in one pattern and the letter in the other: both automata have the same line for
different edges. -/
theorem compile_edge_text_of_letters :
    ∃ nfa nfa', Nfa.compile { explicitConcat := true } "ε*" = .ok nfa ∧
      Nfa.compile {} "εε" = .ok nfa' ∧
      ∃ e ∈ nfa.edges.toList, ∃ e' ∈ nfa'.edges.toList, e.text = e'.text ∧
        (Lookalike "ε*" e "εε" e' ∨ Lookalike "εε" e' "ε*" e) := by
  let states : List State :=
    [{ transitions := [('ε', [1])] }, { epsilon := [0, 3] }, { epsilon := [0, 3] }, {}]
  let nfa : Nfa := { pattern := "ε*", arena := { states }, start := 2, accept := 3 }
  let states' : List State :=
    [{ transitions := [('ε', [1])] }, { epsilon := [2] }, { transitions := [('ε', [3])] }, {}]
  let nfa' : Nfa := { pattern := "εε", arena := { states := states' }, start := 0, accept := 3 }
  let e : Edge := ⟨2, .epsilon, 3⟩
  let e' : Edge := ⟨2, .symbol 'ε', 3⟩
  have hcompile : Nfa.compile { explicitConcat := true } "ε*" = .ok nfa := by decide
  have hcompile' : Nfa.compile {} "εε" = .ok nfa' := by decide
  have hedges : nfa.edges.toList = [⟨2, .epsilon, 0⟩, e, ⟨0, .symbol 'ε', 1⟩, ⟨1, .epsilon, 0⟩,
      ⟨1, .epsilon, 3⟩] := by cbv
  have hedges' : nfa'.edges.toList = [⟨0, .symbol 'ε', 1⟩, ⟨1, .epsilon, 2⟩, e'] := by cbv
  have he : e ∈ nfa.edges.toList := by
    rw [hedges]
    decide
  have he' : e' ∈ nfa'.edges.toList := by
    rw [hedges']
    decide
  have htext : e.text = e'.text := Edge.text_eq_iff.mpr ⟨rfl, rfl, rfl⟩
  have hlookalike :=
    ((compile_edge_text hcompile hcompile' he he').mp htext).resolve_left (by decide)
  exact ⟨nfa, nfa', hcompile, hcompile', e, he, e', he', htext, hlookalike.2⟩

end PatternNfa
