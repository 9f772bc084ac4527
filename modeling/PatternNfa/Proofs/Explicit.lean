import Mathlib.Data.List.Chain
import PatternNfa.Proofs.Arrangement

/-!
# `PatternNfa.Proofs.Explicit`: which texts with written concatenations compile

Where concatenations are written, two neighbours of a text, put between parentheses, go together if
exactly one of them is an edge of an operand: an operand begins behind the first or ends before the
second, but not both. Both is a missing operand and neither is a missing operator. A text without
either (`Complete`, `Separated`) is one that the grammar derives, if its characters are in place and
its parentheses have partners (`Arranges.derives`).

The evaluation only counts. A missing operand leaves one fragment less on the stack and a missing
operator one more (`Token.length_add_misses`). As long as only one of the two occurs, the count is
wrong and the text is rejected. Where both occur they can make up for each other, since operators
were moved behind what follows them, and then a text compiles that the grammar does not derive.
`compile_explicit_eq_ok_iff` says exactly when, and `compile_explicit_trailing_bar` is such a text.
-/

set_option autoImplicit false

namespace PatternNfa

/-! ### Edges of operands -/

/-- An operand has to begin after the character. -/
def opensOperand (c : Char) : Bool := opensContext c || c == '.'

/-- An operand has to end before the character. -/
def closesOperand (c : Char) : Bool := closesContext c || c == '.'

/-- An operand is missing between the two neighbours. -/
def missesOperand (x y : Char) : Bool := opensOperand x && closesOperand y

/-- An operator is missing between the two neighbours. -/
def missesOperator (x y : Char) : Bool := !opensOperand x && !closesOperand y

/-- No operand is missing: no group and no side of an operator is empty. -/
def Complete (cs : List Char) : Prop :=
  (enclosed cs).IsChain fun x y => missesOperand x y = false

/-- No operator is missing: no two operands stand next to each other. -/
def Separated (cs : List Char) : Prop :=
  (enclosed cs).IsChain fun x y => missesOperator x y = false

/-- The two neighbours go together. -/
def Fits (x y : Char) : Prop := opensOperand x = !closesOperand y

/-- A symbol needs no operand behind it. -/
theorem opensOperand_of_isAlphanumeric {c : Char} (h : Text.isAlphanumeric c = true) :
    opensOperand c = false := by
  rw [opensOperand, opensContext_of_isAlphanumeric h, Bool.false_or, beq_eq_false_iff_ne]
  rintro rfl
  exact absurd h (by decide)

/-- A symbol needs no operand before it. -/
theorem closesOperand_of_isAlphanumeric {c : Char} (h : Text.isAlphanumeric c = true) :
    closesOperand c = false := by
  rw [closesOperand, closesContext_of_isAlphanumeric h, Bool.false_or, beq_eq_false_iff_ne]
  rintro rfl
  exact absurd h (by decide)

/-- Neighbours go together if neither an operand nor an operator is missing between them. -/
theorem fits_iff (x y : Char) :
    Fits x y ↔ missesOperand x y = false ∧ missesOperator x y = false := by
  rw [Fits, missesOperand, missesOperator]
  cases opensOperand x <;> cases closesOperand y <;> simp

/-- All neighbours go together exactly if nothing is missing anywhere. -/
theorem isChain_fits_iff (cs : List Char) :
    (enclosed cs).IsChain Fits ↔ Complete cs ∧ Separated cs := by
  constructor
  · exact fun h => ⟨h.imp fun x y hxy => ((fits_iff x y).mp hxy).1,
      h.imp fun x y hxy => ((fits_iff x y).mp hxy).2⟩
  · rintro ⟨hcomplete, hseparated⟩
    rw [Complete, List.isChain_iff_getElem] at hcomplete
    rw [Separated, List.isChain_iff_getElem] at hseparated
    rw [List.isChain_iff_getElem]
    exact fun i hi => (fits_iff _ _).mpr ⟨hcomplete i hi, hseparated i hi⟩

/-! ### The grammar -/

/-- The neighbours in a derived text fit, and so do its ends if something stands around it. -/
theorem Derives.isChain_fits {level : Level} {u : List Char} {e : Expr}
    (h : Derives true level u e) {x y : Char} (hx : opensOperand x = true)
    (hy : closesOperand y = true) : (x :: (u ++ [y])).IsChain Fits := by
  induction h generalizing x y with
  | @union u v _ _ _ _ ihl ihr =>
      rw [List.append_assoc, List.cons_append, ← List.cons_append, List.isChain_split]
      exact ⟨ihl hx rfl, ihr rfl hy⟩
  | @concat u v _ _ _ _ ihl ihr =>
      rw [juxtaposition, if_pos rfl, List.append_assoc, List.append_assoc, List.singleton_append,
        ← List.cons_append, List.isChain_split]
      exact ⟨ihl hx rfl, ihr rfl hy⟩
  | @star u _ _ ih =>
      rw [List.append_assoc, List.singleton_append, ← List.cons_append, List.isChain_split,
        List.isChain_pair]
      refine ⟨ih hx rfl, ?_⟩
      rw [Fits, hy]
      rfl
  | ofTerm _ ih | ofFactor _ ih | ofAtom _ ih => exact ih hx hy
  | symbol hc =>
      rw [List.singleton_append, List.isChain_cons_cons, List.isChain_pair, Fits, Fits, hx, hy,
        opensOperand_of_isAlphanumeric hc, closesOperand_of_isAlphanumeric hc]
      exact ⟨rfl, rfl⟩
  | @group u _ _ ih =>
      rw [List.append_assoc, List.cons_append, List.singleton_append, List.isChain_cons_cons,
        ← List.cons_append, List.isChain_split, List.isChain_pair, Fits, Fits, hx, hy]
      exact ⟨rfl, ih rfl rfl, rfl⟩

/-- A row begins as an operand does. -/
theorem Arranges.closesOperand_head {u : List Char} {ks : List Kind} (h : Arranges .atom u ks) :
    ∀ c ∈ u.head?, closesOperand c = false := by
  -- What comes behind a row that is not empty leaves its head as it is.
  have happend : ∀ {w : List Char} {c : Char} (v : List Char), closesOperand c = false →
      (∀ d ∈ w.head?, closesOperand d = false) →
      ∀ d ∈ (w ++ c :: v).head?, closesOperand d = false := by
    intro w c v hc hw
    cases w with
    | nil => simpa using hc
    | cons d w => exact hw
  generalize hlevel : Level.atom = level at h
  induction h with
  | nil => simp
  | symbol _ hc ih => exact happend [] (closesOperand_of_isAlphanumeric hc) (ih hlevel)
  | group _ _ ih _ => exact happend _ rfl (ih hlevel)
  | union | ofTerm | concat | ofFactor | star | ofRow => cases hlevel

/-- A row ends as an operand does. -/
theorem Arranges.opensOperand_getLast {u : List Char} {ks : List Kind}
    (h : Arranges .atom u ks) : ∀ c ∈ u.getLast?, opensOperand c = false := by
  cases h with
  | nil => simp
  | symbol _ hc => simpa using opensOperand_of_isAlphanumeric hc
  | group _ _ =>
      intro c hc
      rw [← List.cons_append, ← List.append_assoc, List.getLast?_concat,
        Option.mem_some_iff] at hc
      rw [← hc]
      rfl

/-- Where neighbours fit, nothing stands between an operator and a row but the row's operand. -/
theorem Arranges.eq_nil_of_isChain {u w : List Char} {ks : List Kind} {c : Char}
    (h : Arranges .atom u ks) (hc : closesOperand c = false)
    (hchain : (u ++ c :: w).IsChain Fits) : u = [] := by
  rcases List.eq_nil_or_concat u with rfl | ⟨v, d, rfl⟩
  · rfl
  · have hd : opensOperand d = false := h.opensOperand_getLast d (by simp)
    rw [List.concat_eq_append, List.append_assoc, List.singleton_append,
      List.isChain_append_cons_cons, Fits, hd, hc] at hchain
    exact absurd hchain.2.1 (by decide)

/-- A text whose neighbours fit is derived by the grammar: its rows have one operand each. -/
theorem Arranges.derives {level : Level} {u : List Char} {ks : List Kind}
    (h : Arranges level u ks) {x y : Char} (hx : opensOperand x = true)
    (hy : closesOperand y = true) (hchain : (x :: (u ++ [y])).IsChain Fits) :
    ∃ e, Derives true level u e := by
  induction h generalizing x y with
  | @union u v _ _ _ _ ihl ihr =>
      rw [List.append_assoc, List.cons_append, ← List.cons_append, List.isChain_split] at hchain
      obtain ⟨l, hl⟩ := ihl hx rfl hchain.1
      obtain ⟨r, hr⟩ := ihr rfl hy hchain.2
      exact ⟨_, .union hl hr⟩
  | @concat u v _ _ _ _ ihl ihr =>
      rw [List.append_assoc, List.cons_append, ← List.cons_append, List.isChain_split] at hchain
      obtain ⟨l, hl⟩ := ihl hx rfl hchain.1
      obtain ⟨r, hr⟩ := ihr rfl hy hchain.2
      have hconcat := Derives.concat hl hr
      rw [juxtaposition, if_pos rfl, List.append_assoc, List.singleton_append] at hconcat
      exact ⟨_, hconcat⟩
  | @star u v _ _ _ hrow ihl _ =>
      rw [List.append_assoc, List.cons_append, ← List.cons_append, List.isChain_split] at hchain
      obtain ⟨l, hl⟩ := ihl hx rfl hchain.1
      -- An operand cannot follow the star, so the row behind it is empty.
      cases v with
      | nil => exact ⟨_, .star hl⟩
      | cons d v =>
          have hfits := (List.isChain_cons_cons.mp hchain.2).1
          rw [Fits, hrow.closesOperand_head d rfl] at hfits
          cases hfits
  | ofTerm _ ih => exact (ih hx hy hchain).imp fun _ => .ofTerm
  | ofFactor _ ih => exact (ih hx hy hchain).imp fun _ => .ofFactor
  | ofRow _ ih => exact (ih hx hy hchain).imp fun _ => .ofAtom
  | nil =>
      have hfits := List.isChain_pair.mp hchain
      rw [Fits, hx, hy] at hfits
      cases hfits
  | @symbol u _ c hrow hc _ =>
      rw [List.append_assoc, List.singleton_append] at hchain
      have hnil := hrow.eq_nil_of_isChain (closesOperand_of_isAlphanumeric hc) hchain.tail
      subst hnil
      exact ⟨_, .symbol hc⟩
  | @group u v _ _ hrow _ _ ihv =>
      rw [List.append_assoc, List.cons_append] at hchain
      have hnil := hrow.eq_nil_of_isChain rfl hchain.tail
      subst hnil
      rw [List.nil_append, List.append_assoc, List.singleton_append] at hchain
      have hinside : (('(' :: v) ++ [')']).IsChain Fits := (List.isChain_split.mp hchain.tail).1
      obtain ⟨e, he⟩ := ihv rfl rfl hinside
      exact ⟨e, .group he⟩

/-! ### Counting -/

namespace Token

/-- The tokens of a pattern with written concatenations. -/
theorem Spelt.borders_explicit {t : Token} (h : Spelt true t) :
    Borders opensOperand closesOperand t := by
  refine .of_spelt h (fun c hc => ?_) fun hsymbol => ?_
  · exact ⟨opensOperand_of_isAlphanumeric hc, closesOperand_of_isAlphanumeric hc⟩
  · rcases t with ⟨kind, offset⟩
    cases kind with
    | symbol => cases hsymbol
    | leftParen | rightParen | union | star | concat => rfl

/-- The expressions left on the stack are as many as the missing operators and one more, less the
missing operands. -/
theorem length_add_misses {ts out : List Token} {es : List Expr}
    (hspelt : ∀ t ∈ ts, Spelt true t) (hout : toPostfix ts = .ok out)
    (hread : Expr.read (out.map kind) [] = some es) :
    es.length + neighbours missesOperand (enclosed (ts.map char)) =
      1 + neighbours missesOperator (enclosed (ts.map char)) := by
  have hlength := length_add_binaries hout hread
  have hcount : neighbours missesOperator (enclosed (ts.map char)) + 1 + binaries ts =
      symbols ts + neighbours missesOperand (enclosed (ts.map char)) :=
    neighbours_enclosed (fun t ht => (hspelt t ht).borders_explicit) rfl rfl
  omega

end Token

/-! ### Compiling -/

/-- The pattern with written concatenations has an automaton. -/
def CompilesExplicit (pattern : String) : Prop :=
  ∃ nfa, Nfa.compile { explicitConcat := true } pattern = .ok nfa

/-- The grammar with written concatenations derives the pattern. -/
def DerivesExplicit (pattern : String) : Prop := ∃ e, Derives true .expr pattern.toList e

/-- In a pattern that compiles as many operands are missing as operators. -/
theorem CompilesExplicit.misses_eq {pattern : String} (h : CompilesExplicit pattern) :
    neighbours missesOperand (enclosed pattern.toList) =
      neighbours missesOperator (enclosed pattern.toList) := by
  obtain ⟨nfa, hnfa⟩ := h
  obtain ⟨out, e, hparse, hout, -⟩ := Nfa.exists_postorder_of_compile hnfa
  obtain ⟨ts, hscan, hordered⟩ := exists_scan_of_parse hparse
  obtain ⟨hchars, hspelt⟩ := Token.scanFrom_eq_ok hscan
  have hread : Expr.read (out.map Token.kind) [] = some [e] := by
    rw [hout, Expr.read_postorder_self]
  have hcount := Token.length_add_misses hspelt hordered hread
  rw [hchars] at hcount
  exact Nat.add_left_cancel hcount

/-- In a pattern that compiles, an operand is missing exactly if an operator is. -/
theorem CompilesExplicit.complete_iff_separated {pattern : String} (h : CompilesExplicit pattern) :
    Complete pattern.toList ↔ Separated pattern.toList := by
  rw [Complete, Separated, ← neighbours_eq_zero_iff, ← neighbours_eq_zero_iff, h.misses_eq]

/-- The grammar derives what compiles without a missing operator. -/
theorem derivesExplicit_iff (pattern : String) :
    DerivesExplicit pattern ↔ CompilesExplicit pattern ∧ Separated pattern.toList := by
  constructor
  · rintro ⟨e, he⟩
    have hcompile : CompilesExplicit pattern := ⟨_, Nfa.compile_of_derives he⟩
    have hfits : (enclosed pattern.toList).IsChain Fits := he.isChain_fits rfl rfl
    exact ⟨hcompile, ((isChain_fits_iff _).mp hfits).2⟩
  · rintro ⟨hcompile, hseparated⟩
    have hcomplete := hcompile.complete_iff_separated.mpr hseparated
    have hfits := (isChain_fits_iff _).mpr ⟨hcomplete, hseparated⟩
    obtain ⟨nfa, hnfa⟩ := hcompile
    obtain ⟨e, he, -⟩ := compile_explicit_iff_arranges.mp hnfa
    exact he.derives rfl rfl hfits

/-- What compiles with written concatenations, and how far that is what the grammar derives. A
pattern compiles if it is arranged to the postfix order of an expression. The grammar derives those
of them that miss no operator, and they are the ones that miss no operand. So either fault by itself
is refused. What compiles and what is derived differ exactly at the patterns that are arranged to an
expression in spite of a missing operator. -/
theorem compile_explicit_eq_ok_iff (pattern : String) :
    (CompilesExplicit pattern ↔ ∃ e : Expr, Arranges .expr pattern.toList e.postorder) ∧
      (DerivesExplicit pattern ↔ CompilesExplicit pattern ∧ Separated pattern.toList) ∧
      (DerivesExplicit pattern ↔ CompilesExplicit pattern ∧ Complete pattern.toList) ∧
      ((CompilesExplicit pattern ↔ DerivesExplicit pattern) ∧
          (CompilesExplicit pattern → Complete pattern.toList ∧ Separated pattern.toList) ↔
        ((∃ e : Expr, Arranges .expr pattern.toList e.postorder) → Separated pattern.toList)) := by
  have harranged :
      CompilesExplicit pattern ↔ ∃ e : Expr, Arranges .expr pattern.toList e.postorder := by
    constructor
    · rintro ⟨nfa, hnfa⟩
      obtain ⟨e, he, -⟩ := compile_explicit_iff_arranges.mp hnfa
      exact ⟨e, he⟩
    · rintro ⟨e, he⟩
      exact ⟨_, compile_explicit_iff_arranges.mpr ⟨e, he, rfl⟩⟩
  have hderives := derivesExplicit_iff pattern
  have hcomplete : CompilesExplicit pattern →
      (Complete pattern.toList ↔ Separated pattern.toList) := fun h => h.complete_iff_separated
  refine ⟨harranged, hderives, ?_, ?_⟩
  · rw [hderives]
    exact and_congr_right fun h => (hcomplete h).symm
  · rw [← harranged, hderives]
    constructor
    · exact fun h hcompile => (h.2 hcompile).2
    · intro h
      refine ⟨⟨fun hcompile => ⟨hcompile, h hcompile⟩, And.left⟩, fun hcompile => ?_⟩
      exact ⟨(hcomplete hcompile).mpr (h hcompile), h hcompile⟩

/-- The bar has no right operand and the symbols no operator between them, but in postfix order the
bar stands behind both of them. Where concatenations are not written, the same text is refused. -/
theorem compile_explicit_trailing_bar :
    CompilesExplicit "ab|" ∧ ¬ DerivesExplicit "ab|" ∧ ¬ Complete "ab|".toList ∧
      ¬ Separated "ab|".toList ∧
      Nfa.compile {} "ab|" = .error (.missingOperand (some '|') 2) := by
  let states : List State :=
    [{ transitions := [('a', [1])] }, { epsilon := [5] }, { transitions := [('b', [3])] },
      { epsilon := [5] }, { epsilon := [0, 2] }, {}]
  have hcompile : Nfa.compile { explicitConcat := true } "ab|" =
      .ok { pattern := "ab|", arena := { states }, start := 4, accept := 5 } := by decide
  have hseparated : ¬ Separated "ab|".toList := by
    rw [Separated]
    decide
  refine ⟨⟨_, hcompile⟩, ?_, ?_, hseparated, by decide⟩
  · exact fun h => hseparated ((derivesExplicit_iff "ab|").mp h).2
  · rw [Complete]
    decide

end PatternNfa
