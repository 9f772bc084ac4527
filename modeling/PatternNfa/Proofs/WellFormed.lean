import PatternNfa.Proofs.Compile
import PatternNfa.Proofs.Counting
import PatternNfa.Proofs.Parentheses

/-!
# `PatternNfa.Proofs.WellFormed`: which patterns compile

Where concatenations are not written, three things can be wrong with a text: a character that is no
part of a pattern, a parenthesis without a partner, and a missing operand. A text with none of them
is well formed (`WellFormed`), and the well-formed texts are the ones that the grammar derives.

No stage looks at the grammar. Scanning refuses the characters, putting tokens into postfix order
refuses the parentheses (`depthAfter_of_toPostfix`), and the evaluation refuses the missing
operands, since each of them leaves one fragment less on the stack (`Token.length_add_gaps`). So
what compiles is well formed. A well-formed text is derived from left to right: at every point it
is a row of texts, each inside an open group of the one before, that a factor can be put to
(`InProgress`, `derives_of_inProgress`).
-/

set_option autoImplicit false

namespace PatternNfa

/-! ### Well-formed texts -/

/-- Nothing is wrong with the text as a pattern without written concatenations. -/
structure WellFormed (cs : List Char) : Prop where
  /-- Every character is a symbol, a parenthesis, a bar or a star. -/
  allowed : ∀ c ∈ cs, (Kind.ofChar? false c).isSome
  /-- Every parenthesis has a partner. -/
  balanced : openAfter 0 cs = some 0
  /-- The text being put between parentheses, no `(` or `|` stands right before a `)`, `*` or `|`:
  no group and no alternative is empty, and no star is without operand. -/
  noGap : (enclosed cs).IsChain fun x y => ¬ (opensContext x = true ∧ closesContext y = true)

/-- What compiles is well formed. -/
theorem wellFormed_of_compile {flags : Flags} {pattern : String} {nfa : Nfa}
    (hflags : flags.explicitConcat = false) (h : Nfa.compile flags pattern = .ok nfa) :
    WellFormed pattern.toList := by
  obtain ⟨out, e, hparse, hout, -⟩ := Nfa.exists_postorder_of_compile h
  -- The tokens that are put in order are those of the text with dots between them.
  obtain ⟨ts, hscan, hordered⟩ := exists_scan_of_parse hparse
  obtain ⟨hchars, hspelt⟩ := Token.scanFrom_eq_ok hscan
  have hexpand : Token.spellOut flags ts = Token.expand ts := by
    rw [Token.spellOut, hflags, if_neg Bool.false_ne_true]
  rw [hexpand] at hordered
  rw [hflags] at hspelt
  have hread : Expr.read (out.map Token.kind) [] = some [e] := by
    rw [hout, Expr.read_postorder_self]
  have hgaps := Token.length_add_gaps hspelt hordered hread
  rw [← hchars]
  refine ⟨?_, ?_, (gaps_eq_zero_iff _).mp (Nat.add_left_cancel hgaps)⟩
  · intro c hc
    obtain ⟨t, ht, rfl⟩ := List.mem_map.mp hc
    rw [hspelt t ht]
    rfl
  · exact Token.openAfter_of_toPostfix_expand hspelt hordered

/-! ### From left to right -/

/-- A text that a factor can be put to: nothing yet, an expression with a bar behind it, or an
expression. -/
inductive Begun : List Char → Prop where
  | nil : Begun []
  | bar {u : List Char} {e : Expr} : Derives false .expr u e → Begun (u ++ ['|'])
  | derived {u : List Char} {e : Expr} : Derives false .expr u e → Begun u

/-- The factor becomes the first one of a term or the last one of the term that is there. -/
theorem Begun.append_factor {u v : List Char} {e : Expr} (hu : Begun u)
    (hv : Derives false .factor v e) : ∃ e', Derives false .expr (u ++ v) e' := by
  have hterm : ∀ {w l}, Derives false .term w l → Derives false .term (w ++ v) (.concat l e) := by
    intro w l hw
    have happend := Derives.concat hw hv
    rwa [juxtaposition, if_neg Bool.false_ne_true, List.append_nil] at happend
  cases hu with
  | nil => exact ⟨e, .ofTerm (.ofFactor hv)⟩
  | bar hu =>
      rw [List.append_assoc]
      exact ⟨_, .union hu (.ofFactor hv)⟩
  | derived hu =>
      cases hu with
      | union hl hr =>
          rw [List.append_assoc, List.cons_append]
          exact ⟨_, .union hl (hterm hr)⟩
      | ofTerm hu => exact ⟨_, .ofTerm (hterm hu)⟩

/-- A star can be put behind every expression, and belongs to its last factor. -/
theorem Derives.append_star {u : List Char} {e : Expr} (h : Derives false .expr u e) :
    ∃ e', Derives false .expr (u ++ ['*']) e' := by
  have hterm : ∀ {w l}, Derives false .term w l → ∃ l', Derives false .term (w ++ ['*']) l' := by
    intro w l hw
    cases hw with
    | concat hl hr =>
        rw [List.append_assoc]
        exact ⟨_, .concat hl (.star hr)⟩
    | ofFactor hw => exact ⟨_, .ofFactor (.star hw)⟩
  cases h with
  | union hl hr =>
      obtain ⟨r, hr⟩ := hterm hr
      rw [List.append_assoc, List.cons_append]
      exact ⟨_, .union hl hr⟩
  | ofTerm h =>
      obtain ⟨l, hl⟩ := hterm h
      exact ⟨l, .ofTerm hl⟩

/-- The texts of open groups, the innermost first, each continued by a parenthesis and the text
inside it. -/
def inGroups : List (List Char) → List Char → List Char
  | [], w => w
  | u :: stack, w => inGroups stack (u ++ '(' :: w)

/-- What is read next goes to the end of the whole text. -/
theorem inGroups_append (stack : List (List Char)) (w v : List Char) :
    inGroups stack (w ++ v) = inGroups stack w ++ v := by
  induction stack generalizing w with
  | nil => rfl
  | cons u stack ih =>
      rw [inGroups, inGroups, ← ih, List.append_assoc, List.cons_append]

/-- What is read next goes to the end of the innermost text. -/
theorem inGroups_append_cons (stack : List (List Char)) (w : List Char) (c : Char)
    (cs : List Char) : inGroups stack w ++ c :: cs = inGroups stack (w ++ [c]) ++ cs := by
  rw [inGroups_append, List.append_assoc, List.singleton_append]

/-- What has been read of a text, up to the character `x`. The texts of the open groups and the one
inside the innermost group are begun, and the latter is an expression unless an operand has to
follow `x`. -/
structure InProgress (stack : List (List Char)) (w : List Char) (x : Char) : Prop where
  stack_begun : ∀ u ∈ stack, Begun u
  begun : Begun w
  derived : opensContext x = false → ∃ e, Derives false .expr w e

namespace InProgress

variable {stack : List (List Char)} {u w : List Char} {x : Char}

/-- A text that is an expression is in progress, whichever character it ends with. -/
theorem of_derives (hstack : ∀ u ∈ stack, Begun u) (x : Char)
    (hw : ∃ e, Derives false .expr w e) : InProgress stack w x := by
  obtain ⟨e, he⟩ := hw
  exact ⟨hstack, .derived he, fun _ => ⟨e, he⟩⟩

/-- A symbol is a factor of the innermost text. -/
theorem symbol (h : InProgress stack w x) {c : Char} (hc : Text.isAlphanumeric c = true) :
    InProgress stack (w ++ [c]) c :=
  .of_derives h.stack_begun c (h.begun.append_factor (.ofAtom (.symbol hc)))

/-- A new text begins inside a group. -/
theorem leftParen (h : InProgress stack w x) : InProgress (w :: stack) [] '(' where
  stack_begun := List.forall_mem_cons.mpr ⟨h.begun, h.stack_begun⟩
  begun := .nil
  derived := fun hx => absurd hx (by decide)

/-- A group that ends with an expression inside is a factor of the text around it. -/
theorem rightParen (h : InProgress (u :: stack) w x) (hx : opensContext x = false) :
    InProgress stack (u ++ '(' :: (w ++ [')'])) ')' := by
  obtain ⟨e, he⟩ := h.derived hx
  obtain ⟨hu, hstack⟩ := List.forall_mem_cons.mp h.stack_begun
  exact .of_derives hstack ')' (hu.append_factor (.ofAtom (.group he)))

/-- After a bar another term has to follow. -/
theorem union (h : InProgress stack w x) (hx : opensContext x = false) :
    InProgress stack (w ++ ['|']) '|' where
  stack_begun := h.stack_begun
  begun := (h.derived hx).elim fun _ he => .bar he
  derived := fun hx => absurd hx (by decide)

/-- A star belongs to the last factor. -/
theorem star (h : InProgress stack w x) (hx : opensContext x = false) :
    InProgress stack (w ++ ['*']) '*' := by
  obtain ⟨e, he⟩ := h.derived hx
  exact .of_derives h.stack_begun '*' he.append_star

end InProgress

/-- The rest of a well-formed text completes what is in progress. -/
theorem derives_of_inProgress {cs w : List Char} {stack : List (List Char)} {x : Char}
    (hallowed : ∀ c ∈ cs, (Kind.ofChar? false c).isSome)
    (hopen : openAfter stack.length cs = some 0)
    (hgap : (x :: cs ++ [')']).IsChain fun x y =>
      ¬ (opensContext x = true ∧ closesContext y = true))
    (h : InProgress stack w x) : ∃ e, Derives false .expr (inGroups stack w ++ cs) e := by
  induction cs generalizing stack w x with
  | nil =>
      have hclosed : stack = [] := List.length_eq_zero_iff.mp (Option.some.inj hopen)
      subst hclosed
      have hend : opensContext x = false := by
        simpa [closesContext] using (List.isChain_cons_cons.mp hgap).1
      rw [List.append_nil]
      exact h.derived hend
  | cons c cs ih =>
      rw [List.forall_mem_cons] at hallowed
      rw [List.cons_append, List.cons_append, List.isChain_cons_cons] at hgap
      obtain ⟨k, hk⟩ := Option.isSome_iff_exists.mp hallowed.1
      have hchar : k.char = c := Kind.char_of_ofChar? hk
      subst hchar
      -- Before a character that closes a context no operand is missing.
      have hbefore : closesContext k.char = true → opensContext x = false :=
        fun hclose => Bool.eq_false_of_not_eq_true fun hx => hgap.1 ⟨hx, hclose⟩
      rw [inGroups_append_cons]
      cases k with
      | symbol d =>
          let t : Token := { kind := .symbol d, offset := 0 }
          have hskip := Token.openAfter_cons_of_not_paren (t := t) hk rfl stack.length cs
          exact ih hallowed.2 (hskip.symm.trans hopen) hgap.2
            (h.symbol (Kind.isAlphanumeric_of_ofChar? hk))
      | leftParen =>
          rw [Kind.char, openAfter_leftParen, ← List.length_cons (a := w)] at hopen
          have hinside := ih hallowed.2 hopen hgap.2 h.leftParen
          rwa [inGroups] at hinside
      | rightParen =>
          -- There is a group to be closed, or the rest could not close all of them.
          cases stack with
          | nil => cases hopen
          | cons u stack =>
              rw [Kind.char, List.length_cons, openAfter_rightParen] at hopen
              have haround := ih hallowed.2 hopen hgap.2 (h.rightParen (hbefore rfl))
              rwa [inGroups]
      | union => exact ih hallowed.2 hopen hgap.2 (h.union (hbefore rfl))
      | star => exact ih hallowed.2 hopen hgap.2 (h.star (hbefore rfl))
      | concat => cases hk

/-- The grammar derives every well-formed text. -/
theorem WellFormed.derives {cs : List Char} (h : WellFormed cs) :
    ∃ e, Derives false .expr cs e := by
  have hopen : openAfter ([] : List (List Char)).length cs = some 0 := h.balanced
  have hstart : InProgress [] [] '(' := ⟨by simp, .nil, fun hx => absurd hx (by decide)⟩
  exact derives_of_inProgress h.allowed hopen h.noGap hstart

/-- A pattern without written concatenations compiles exactly if the grammar derives it, and that
is exactly if it is well formed: no character is out of place, no parenthesis lacks its partner, no
group and no alternative is empty, and no star lacks its operand. -/
theorem compile_isOk_iff_derives (pattern : String) :
    ((∃ nfa, Nfa.compile {} pattern = .ok nfa) ↔ ∃ e, Derives false .expr pattern.toList e) ∧
      ((∃ nfa, Nfa.compile {} pattern = .ok nfa) ↔ WellFormed pattern.toList) := by
  have hderives : (∃ e, Derives false .expr pattern.toList e) →
      ∃ nfa, Nfa.compile {} pattern = .ok nfa := by
    rintro ⟨e, he⟩
    exact ⟨_, Nfa.compile_of_derives he⟩
  have hformed : (∃ nfa, Nfa.compile {} pattern = .ok nfa) → WellFormed pattern.toList := by
    rintro ⟨nfa, hnfa⟩
    exact wellFormed_of_compile rfl hnfa
  exact ⟨⟨fun h => (hformed h).derives, hderives⟩, hformed, fun h => hderives h.derives⟩

end PatternNfa
