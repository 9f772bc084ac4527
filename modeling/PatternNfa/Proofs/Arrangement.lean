import PatternNfa.Proofs.WellFormed

/-!
# `PatternNfa.Proofs.Arrangement`: the postfix order of texts outside the grammar

Putting tokens into postfix order does not ask whether operators stand between their operands. A
text need not be a pattern to have a postfix order: all that is needed is that every character
means something and every parenthesis has a partner. `Arranges` says what the order is then. It is
the grammar of `PatternNfa.Proofs.Grammar` with written concatenations, except that a row of any
number of operands, none included, may stand where the grammar wants one. What stands to the right
of an operator comes before it in the order, so a star waits for the row that follows it, too.

`Arranges.toPostfix` says that this order is the one that the stack of waiting operators computes,
and `exists_arranges` that every text without foreign characters and unmatched parentheses has one.
So a text with written concatenations compiles exactly if the kinds that it is arranged to are the
postfix order of some expression (`compile_explicit_iff_arranges`).
-/

set_option autoImplicit false

namespace PatternNfa

/-- At a level of the grammar, the text is a row of what the next level has, with the operators of
the level in between, and `ks` is its postfix order. On the lowest level it is a row of symbols and
groups with nothing in between. -/
inductive Arranges : Level → List Char → List Kind → Prop where
  | union {u v : List Char} {ks ls : List Kind} :
      Arranges .expr u ks → Arranges .term v ls →
      Arranges .expr (u ++ '|' :: v) (ks ++ ls ++ [.union])
  | ofTerm {u : List Char} {ks : List Kind} : Arranges .term u ks → Arranges .expr u ks
  | concat {u v : List Char} {ks ls : List Kind} :
      Arranges .term u ks → Arranges .factor v ls →
      Arranges .term (u ++ '.' :: v) (ks ++ ls ++ [.concat])
  | ofFactor {u : List Char} {ks : List Kind} : Arranges .factor u ks → Arranges .term u ks
  | star {u v : List Char} {ks ls : List Kind} :
      Arranges .factor u ks → Arranges .atom v ls →
      Arranges .factor (u ++ '*' :: v) (ks ++ ls ++ [.star])
  | ofRow {u : List Char} {ks : List Kind} : Arranges .atom u ks → Arranges .factor u ks
  | nil : Arranges .atom [] []
  | symbol {u : List Char} {ks : List Kind} {c : Char} :
      Arranges .atom u ks → Text.isAlphanumeric c = true →
      Arranges .atom (u ++ [c]) (ks ++ [.symbol c])
  | group {u v : List Char} {ks ls : List Kind} :
      Arranges .atom u ks → Arranges .expr v ls →
      Arranges .atom (u ++ '(' :: (v ++ [')'])) (ks ++ ls)

/-! ### The order that the stack computes -/

namespace Token

/-- A token that is written as a symbol is one. -/
theorem kind_of_isAlphanumeric {t : Token} {c : Char} (h : Spelt true t)
    (hc : Text.isAlphanumeric c = true) (htc : t.char = c) : t.kind = .symbol c := by
  rw [Spelt, htc, Kind.ofChar?_of_isAlphanumeric true hc] at h
  exact (Option.some.inj h).symm

/-- No operator binds more tightly than the star. -/
theorem precedence_le (t : Token) : t.precedence ≤ 3 := by
  unfold Token.precedence PatternNfa.precedence
  split <;> decide

/-- Rows that are put one after the other are ordered one after the other, since a row leaves no
operator waiting. -/
theorem Passes.append {bound : Nat} (hbound : 3 < bound) {ts us outl outr : List Token}
    (hl : Passes bound ts outl) (hr : Passes bound us outr) :
    Passes bound (ts ++ us) (outl ++ outr) := by
  intro stack hstack
  obtain ⟨sentl, waitingl, rfl, hwl, hrunl⟩ := hl stack hstack
  obtain ⟨sentr, waitingr, rfl, hwr, hrunr⟩ := hr stack hstack
  have hnone : waitingl = [] := by
    rw [List.eq_nil_iff_forall_not_mem]
    intro t ht
    have hle := hwl t ht
    have hlt := precedence_le t
    omega
  subst hnone
  refine ⟨sentl ++ sentr, waitingr, by simp, hwr, fun rest => ?_⟩
  rw [List.append_assoc, hrunl, List.nil_append, hrunr]
  simp only [Except.map_comp, List.append_assoc]

/-- The tokens of the text pass over a stack that binds less tightly than `bound`, whatever their
offsets, and their order is `ks`. -/
def Orders (bound : Nat) (cs : List Char) (ks : List Kind) : Prop :=
  ∀ ts : List Token, ts.map char = cs → (∀ t ∈ ts, Spelt true t) →
    ∃ out, Passes bound ts out ∧ out.map kind = ks

namespace Orders

variable {m n bound : Nat} {u v : List Char} {ks ls : List Kind}

/-- A stack that binds less tightly still is passed over as well. -/
theorem mono (h : Orders n u ks) (hmn : m ≤ n) : Orders m u ks := by
  intro ts hts hspelt
  obtain ⟨out, hpass, hkind⟩ := h ts hts hspelt
  exact ⟨out, hpass.mono hmn, hkind⟩

/-- An operator comes behind both of its sides, of which the right one binds more tightly. -/
theorem operator {k : Kind} (hk : k.isOperator = true)
    (hl : Orders (PatternNfa.precedence k.char) u ks)
    (hr : Orders (PatternNfa.precedence k.char + 1) v ls) :
    Orders (PatternNfa.precedence k.char) (u ++ k.char :: v) (ks ++ ls ++ [k]) := by
  intro ts hts hspelt
  obtain ⟨us, vs, rfl, hus, hvs⟩ := List.map_eq_append_iff.mp hts
  obtain ⟨t, vs, rfl, htc, hvs⟩ := List.map_eq_cons_iff.mp hvs
  rw [List.forall_mem_append, List.forall_mem_cons] at hspelt
  have ht : t.kind = k := kind_of_char hspelt.2.1 (Kind.isSymbol_of_isOperator hk) htc
  obtain ⟨outl, hpassl, hkindl⟩ := hl us hus hspelt.1
  obtain ⟨outr, hpassr, hkindr⟩ := hr vs hvs hspelt.2.2
  refine ⟨outl ++ outr ++ [t], .operator (by rw [ht, hk]) (precedence_eq ht) hpassl hpassr, ?_⟩
  rw [List.map_append, List.map_append, hkindl, hkindr, List.map_singleton, ht]

/-- Where nothing is read, nothing is sent out. -/
theorem nil (bound : Nat) : Orders bound [] [] := by
  intro ts hts _
  rw [List.map_eq_nil_iff] at hts
  subst hts
  exact ⟨[], passes_nil bound, rfl⟩

/-- Two operands in a row are read one after the other. -/
theorem append (hbound : 3 < bound) (hl : Orders bound u ks) (hr : Orders bound v ls) :
    Orders bound (u ++ v) (ks ++ ls) := by
  intro ts hts hspelt
  obtain ⟨us, vs, rfl, hus, hvs⟩ := List.map_eq_append_iff.mp hts
  rw [List.forall_mem_append] at hspelt
  obtain ⟨outl, hpassl, hkindl⟩ := hl us hus hspelt.1
  obtain ⟨outr, hpassr, hkindr⟩ := hr vs hvs hspelt.2
  exact ⟨outl ++ outr, hpassl.append hbound hpassr, by rw [List.map_append, hkindl, hkindr]⟩

/-- A symbol is sent out at once. -/
theorem symbol {c : Char} (hc : Text.isAlphanumeric c = true) (bound : Nat) :
    Orders bound [c] [.symbol c] := by
  intro ts hts hspelt
  obtain ⟨t, rfl, htc⟩ := List.map_eq_singleton_iff.mp hts
  have ht : t.kind = .symbol c :=
    kind_of_isAlphanumeric (hspelt t List.mem_cons_self) hc htc
  exact ⟨[t], passes_symbol ht bound, by rw [List.map_singleton, ht]⟩

/-- A group is sent out as a whole when it is closed. -/
theorem group (h : Orders 1 v ls) (bound : Nat) : Orders bound ('(' :: (v ++ [')'])) ls := by
  intro ts hts hspelt
  obtain ⟨l, ts, rfl, hlc, hts⟩ := List.map_eq_cons_iff.mp hts
  obtain ⟨vs, rs, rfl, hvs, hrs⟩ := List.map_eq_append_iff.mp hts
  obtain ⟨r, rfl, hrc⟩ := List.map_eq_singleton_iff.mp hrs
  rw [List.forall_mem_cons, List.forall_mem_append] at hspelt
  have hl : l.kind = .leftParen := kind_of_char hspelt.1 rfl hlc
  have hr : r.kind = .rightParen :=
    kind_of_char (hspelt.2.2 r List.mem_cons_self) rfl hrc
  obtain ⟨out, hpass, hkind⟩ := h vs hvs hspelt.2.1
  exact ⟨out, hpass.group hl hr bound, hkind⟩

end Orders

end Token

namespace Arranges

variable {level : Level} {u v : List Char} {ks : List Kind}

/-- A text is put into the order that it is arranged to. -/
theorem orders (h : Arranges level u ks) : Token.Orders level.bound u ks := by
  induction h with
  | union _ _ ihl ihr => exact .operator (k := .union) rfl ihl ihr
  | concat _ _ ihl ihr => exact .operator (k := .concat) rfl ihl ihr
  | star _ _ ihl ihr => exact .operator (k := .star) rfl ihl ihr
  | ofTerm _ ih | ofFactor _ ih | ofRow _ ih => exact ih.mono (by decide)
  | nil => exact .nil _
  | symbol _ hc ih => exact ih.append (by decide) (.symbol hc _)
  | group _ _ ihu ihv => exact ihu.append (by decide) (ihv.group _)

/-- The tokens of an arranged text are put into the order that it is arranged to. -/
theorem toPostfix (h : Arranges .expr u ks) {ts : List Token} (hts : ts.map Token.char = u)
    (hspelt : ∀ t ∈ ts, Token.Spelt true t) :
    ∃ out, Token.toPostfix ts = .ok out ∧ out.map Token.kind = ks := by
  obtain ⟨out, hpass, hkind⟩ := h.orders ts hts hspelt
  exact ⟨out, hpass.toPostfix, hkind⟩

/-- An arranged text has no character that is out of place. -/
theorem allowed (h : Arranges level u ks) : ∀ c ∈ u, (Kind.ofChar? true c).isSome := by
  induction h with
  | union _ _ ihl ihr | concat _ _ ihl ihr | star _ _ ihl ihr =>
      rw [List.forall_mem_append, List.forall_mem_cons]
      exact ⟨ihl, rfl, ihr⟩
  | ofTerm _ ih | ofFactor _ ih | ofRow _ ih => exact ih
  | nil => simp
  | symbol _ hc ih =>
      rw [List.forall_mem_append, List.forall_mem_singleton, Kind.ofChar?_of_isAlphanumeric true hc]
      exact ⟨ih, rfl⟩
  | group _ _ ihu ihv =>
      rw [List.forall_mem_append, List.forall_mem_cons, List.forall_mem_append,
        List.forall_mem_singleton]
      exact ⟨ihu, rfl, ihv, rfl⟩

/-! ### From left to right -/

/-- What can be put behind every row can be put behind every text, whose last row it continues. -/
theorem append_of_row (hrow : ∀ u ks, Arranges .atom u ks → ∃ ls, Arranges .atom (u ++ v) ls)
    (h : Arranges level u ks) : ∃ ls, Arranges level (u ++ v) ls := by
  induction h with
  | union hl _ _ ihr =>
      obtain ⟨ls, hr⟩ := ihr
      rw [List.append_assoc]
      exact ⟨_, .union hl hr⟩
  | concat hl _ _ ihr =>
      obtain ⟨ls, hr⟩ := ihr
      rw [List.append_assoc]
      exact ⟨_, .concat hl hr⟩
  | star hl _ _ ihr =>
      obtain ⟨ls, hr⟩ := ihr
      rw [List.append_assoc]
      exact ⟨_, .star hl hr⟩
  | ofTerm _ ih => exact ih.imp fun _ => .ofTerm
  | ofFactor _ ih => exact ih.imp fun _ => .ofFactor
  | ofRow _ ih => exact ih.imp fun _ => .ofRow
  | nil => exact hrow _ _ .nil
  | symbol hu hc _ => exact hrow _ _ (.symbol hu hc)
  | group hu hv _ _ => exact hrow _ _ (.group hu hv)

/-- A symbol can be added at the end of any text. -/
theorem append_symbol (h : Arranges level u ks) {c : Char} (hc : Text.isAlphanumeric c = true) :
    ∃ ls, Arranges level (u ++ [c]) ls :=
  h.append_of_row fun _ _ hu => ⟨_, hu.symbol hc⟩

/-- A group can be added at the end of any text. -/
theorem append_group (h : Arranges level u ks) (hv : ∃ ls, Arranges .expr v ls) :
    ∃ ls, Arranges level (u ++ '(' :: (v ++ [')'])) ls := by
  obtain ⟨ls, hv⟩ := hv
  exact h.append_of_row fun _ _ hu => ⟨_, hu.group hv⟩

/-- Behind a bar nothing has to follow yet. -/
theorem append_bar (h : Arranges .expr u ks) : ∃ ls, Arranges .expr (u ++ ['|']) ls :=
  ⟨_, h.union (.ofFactor (.ofRow .nil))⟩

/-- A dot can be added at the end of any text. -/
theorem append_dot (h : Arranges .expr u ks) : ∃ ls, Arranges .expr (u ++ ['.']) ls := by
  cases h with
  | union hl hr =>
      rw [List.append_assoc]
      exact ⟨_, .union hl (.concat hr (.ofRow .nil))⟩
  | ofTerm h => exact ⟨_, .ofTerm (.concat h (.ofRow .nil))⟩

/-- A star can be added at the end of any text. -/
theorem append_star (h : Arranges .expr u ks) : ∃ ls, Arranges .expr (u ++ ['*']) ls := by
  have hterm : ∀ {w ms}, Arranges .term w ms → ∃ ls, Arranges .term (w ++ ['*']) ls := by
    intro w ms hw
    cases hw with
    | concat hl hr =>
        rw [List.append_assoc]
        exact ⟨_, .concat hl (.star hr .nil)⟩
    | ofFactor hw => exact ⟨_, .ofFactor (.star hw .nil)⟩
  cases h with
  | union hl hr =>
      obtain ⟨ls, hr⟩ := hterm hr
      rw [List.append_assoc]
      exact ⟨_, .union hl hr⟩
  | ofTerm h =>
      obtain ⟨ls, h⟩ := hterm h
      exact ⟨_, .ofTerm h⟩

end Arranges

/-- Texts of open groups that are arranged are completed by every rest that closes them. -/
theorem exists_arranges_of_inGroups {cs w : List Char} {stack : List (List Char)}
    (hallowed : ∀ c ∈ cs, (Kind.ofChar? true c).isSome)
    (hopen : openAfter stack.length cs = some 0)
    (hstack : ∀ u ∈ stack, ∃ ks, Arranges .expr u ks) (hw : ∃ ks, Arranges .expr w ks) :
    ∃ ks, Arranges .expr (inGroups stack w ++ cs) ks := by
  induction cs generalizing stack w with
  | nil =>
      have hclosed : stack = [] := List.length_eq_zero_iff.mp (Option.some.inj hopen)
      subst hclosed
      rw [List.append_nil]
      exact hw
  | cons c cs ih =>
      rw [List.forall_mem_cons] at hallowed
      obtain ⟨k, hk⟩ := Option.isSome_iff_exists.mp hallowed.1
      have hchar : k.char = c := Kind.char_of_ofChar? hk
      subst hchar
      obtain ⟨ks, hks⟩ := hw
      rw [inGroups_append_cons]
      -- Only parentheses change the groups, and everything else the text of the innermost one.
      have hskip : k.isParen = false → openAfter stack.length cs = some 0 := fun hparen =>
        (Token.openAfter_cons_of_not_paren (t := ⟨k, 0⟩) hk hparen _ _).symm.trans hopen
      cases k with
      | symbol d =>
          exact ih hallowed.2 (hskip rfl) hstack
            (hks.append_symbol (Kind.isAlphanumeric_of_ofChar? hk))
      | union => exact ih hallowed.2 (hskip rfl) hstack hks.append_bar
      | star => exact ih hallowed.2 (hskip rfl) hstack hks.append_star
      | concat => exact ih hallowed.2 (hskip rfl) hstack hks.append_dot
      | leftParen =>
          rw [Kind.char, openAfter_leftParen, ← List.length_cons (a := w)] at hopen
          have hinside := ih hallowed.2 hopen (List.forall_mem_cons.mpr ⟨⟨ks, hks⟩, hstack⟩)
            ⟨[], .ofTerm (.ofFactor (.ofRow .nil))⟩
          rwa [inGroups] at hinside
      | rightParen =>
          cases stack with
          | nil => cases hopen
          | cons u stack =>
              rw [Kind.char, List.length_cons, openAfter_rightParen] at hopen
              obtain ⟨⟨ms, hu⟩, hstack⟩ := List.forall_mem_cons.mp hstack
              have haround := ih hallowed.2 hopen hstack (hu.append_group ⟨ks, hks⟩)
              rwa [inGroups]

/-- A text with neither a foreign character nor an unmatched parenthesis has an order. -/
theorem exists_arranges {cs : List Char} (hallowed : ∀ c ∈ cs, (Kind.ofChar? true c).isSome)
    (hopen : openAfter 0 cs = some 0) : ∃ ks, Arranges .expr cs ks := by
  have hopen : openAfter ([] : List (List Char)).length cs = some 0 := hopen
  have hstart : ∃ ks, Arranges .expr [] ks := ⟨[], .ofTerm (.ofFactor (.ofRow .nil))⟩
  exact exists_arranges_of_inGroups hallowed hopen (by simp) hstart

/-! ### Compiling -/

/-- A text whose characters all mean something is scanned. -/
theorem Token.exists_scanFrom (flags : Flags) {cs : List Char}
    (h : ∀ c ∈ cs, (Kind.ofChar? flags.explicitConcat c).isSome) (offset : Nat) :
    ∃ ts, scanFrom flags offset cs = .ok ts := by
  induction cs generalizing offset with
  | nil => exact ⟨[], rfl⟩
  | cons c cs ih =>
      rw [List.forall_mem_cons] at h
      obtain ⟨k, hk⟩ := Option.isSome_iff_exists.mp h.1
      obtain ⟨ts, hts⟩ := ih h.2 (offset + c.utf8Size)
      exact ⟨_, scanFrom_cons hk hts⟩

/-- A text that writes its concatenations out compiles exactly if it is arranged to the postfix
order of an expression, and then to the automaton of that expression. -/
theorem compile_explicit_iff_arranges {pattern : String} {nfa : Nfa} :
    Nfa.compile { explicitConcat := true } pattern = .ok nfa ↔
      ∃ e : Expr, Arranges .expr pattern.toList e.postorder ∧ nfa = e.automaton pattern := by
  constructor
  · intro h
    obtain ⟨out, e, hparse, hout, hnfa⟩ := Nfa.exists_postorder_of_compile h
    obtain ⟨ts, hscan, hordered⟩ := exists_scan_of_parse hparse
    obtain ⟨hchars, hspelt⟩ := Token.scanFrom_eq_ok hscan
    have hallowed : ∀ c ∈ pattern.toList, (Kind.ofChar? true c).isSome := by
      rw [← hchars, List.forall_mem_map]
      intro t ht
      rw [hspelt t ht]
      rfl
    have hopen : openAfter 0 pattern.toList = some 0 := by
      rw [← hchars, Token.openAfter_map_char hspelt]
      exact Token.depthAfter_of_toPostfix hordered
    -- The text has an order, and the stack has computed one, which is that of an expression.
    obtain ⟨ks, hks⟩ := exists_arranges hallowed hopen
    obtain ⟨out', hordered', hkind⟩ := hks.toPostfix hchars hspelt
    cases hordered.symm.trans hordered'
    rw [← hkind, hout] at hks
    exact ⟨e, hks, hnfa⟩
  · rintro ⟨e, he, rfl⟩
    obtain ⟨ts, hscan⟩ := Token.exists_scanFrom { explicitConcat := true } he.allowed 0
    obtain ⟨hchars, hspelt⟩ := Token.scanFrom_eq_ok hscan
    obtain ⟨out, hordered, hkind⟩ := he.toPostfix hchars hspelt
    have hparse : (parse { explicitConcat := true } pattern).result = .ok out :=
      (parse_result_of_scan hscan).trans hordered
    exact Nfa.compile_of_postorder hparse hkind

end PatternNfa
