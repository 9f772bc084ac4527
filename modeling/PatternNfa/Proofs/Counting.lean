import PatternNfa.Proofs.Evaluation
import PatternNfa.Proofs.Reading

/-!
# `PatternNfa.Proofs.Counting`: how many operands there are, and how many are missing

No stage checks that operands and operators alternate. The evaluation finds it out by counting: a
symbol adds a fragment, and an operator with two operands takes one away (`Expr.length_of_read`).

The text of a pattern can be counted as well. Between two neighbours an operand may be missing or an
operator, and which of them it is follows from the borders of operands there: both characters are
one where an operand is missing, and neither where an operator is. A symbol is a border on no side,
an operator with two operands on both and everything else on one. So the text, put between
parentheses, has as many missing operands and symbols as missing and other binary operators and one
(`Token.neighbours_add_binaries`).

Spelling concatenations out writes just the operators that are missing (`Token.binaries_expand`),
and putting tokens into postfix order drops nothing but parentheses. So what is left on the stack in
the end and the gaps, where an operand is missing, are one altogether (`Token.length_add_gaps`):
nothing is ever left over, and one fragment is left just where there is no gap.
-/

set_option autoImplicit false

namespace PatternNfa

/-- Counting an element is adding one or nothing. -/
theorem countP_cons_eq_toNat_add {α : Type} (p : α → Bool) (a : α) (l : List α) :
    (a :: l).countP p = (p a).toNat + l.countP p := by
  rw [List.countP_cons, Nat.add_comm]
  cases p a <;> rfl

/-- Two conditions are met once, unless both are or neither is. -/
theorem toNat_not_and_not (a b : Bool) :
    (!a && !b).toNat + a.toNat + b.toNat = 1 + (a && b).toNat := by
  cases a <;> cases b <;> rfl

/-- The operator joins two operands. -/
def Kind.isBinary : Kind → Bool
  | union | concat => true
  | _ => false

/-- A parenthesis joins no operands. -/
theorem Kind.isBinary_of_isParen : ∀ {k : Kind}, k.isParen = true → k.isBinary = false
  | leftParen, _ => rfl
  | rightParen, _ => rfl

/-- A symbol adds an expression to the stack and an operator with two operands takes one away. -/
theorem Expr.length_of_push : ∀ {k : Kind} {es es' : List Expr}, push k es = some es' →
    es.length + k.isSymbol.toNat = es'.length + k.isBinary.toNat
  | .symbol _, _, _, rfl => rfl
  | .concat, _ :: _ :: _, _, rfl => rfl
  | .union, _ :: _ :: _, _, rfl => rfl
  | .star, _ :: _, _, rfl => rfl

/-- What is on the stack in the end is what was there at first and the symbols, less the binary
operators. -/
theorem Expr.length_of_read {ks : List Kind} {es es' : List Expr} (h : read ks es = some es') :
    es.length + ks.countP Kind.isSymbol = es'.length + ks.countP Kind.isBinary := by
  induction ks generalizing es with
  | nil =>
      cases h
      rfl
  | cons k ks ih =>
      obtain ⟨mid, hmid, hrest⟩ := Option.bind_eq_some_iff.mp h
      have hpush := length_of_push hmid
      have hread := ih hrest
      rw [countP_cons_eq_toNat_add, countP_cons_eq_toNat_add]
      omega

namespace Token

/-- The number of symbols. -/
def symbols (ts : List Token) : Nat := ts.countP fun t => t.kind.isSymbol

/-- The number of operators with two operands. -/
def binaries (ts : List Token) : Nat := ts.countP fun t => t.kind.isBinary

/-- The first token counts if it is a symbol. -/
@[simp]
theorem symbols_cons (t : Token) (ts : List Token) :
    symbols (t :: ts) = t.kind.isSymbol.toNat + symbols ts :=
  countP_cons_eq_toNat_add _ t ts

/-- The first token counts if it is a binary operator. -/
@[simp]
theorem binaries_cons (t : Token) (ts : List Token) :
    binaries (t :: ts) = t.kind.isBinary.toNat + binaries ts :=
  countP_cons_eq_toNat_add _ t ts

/-- The binary operators of two lists add up. -/
@[simp]
theorem binaries_append (ts us : List Token) :
    binaries (ts ++ us) = binaries ts + binaries us :=
  List.countP_append

end Token

/-! ### Gaps -/

/-- The number of neighbours of a kind. -/
def neighbours (p : Char → Char → Bool) : List Char → Nat
  | x :: y :: cs => (p x y).toNat + neighbours p (y :: cs)
  | _ => 0

/-- There are none exactly if no two neighbours are of that kind. -/
theorem neighbours_eq_zero_iff (p : Char → Char → Bool) (cs : List Char) :
    neighbours p cs = 0 ↔ cs.IsChain fun x y => p x y = false := by
  induction cs with
  | nil => simp [neighbours]
  | cons x cs ih =>
      cases cs with
      | nil => simp [neighbours]
      | cons y cs =>
          rw [neighbours, Nat.add_eq_zero_iff, ih, List.isChain_cons_cons]
          simp

/-- The number of neighbours with a missing operand between them. -/
def gaps (cs : List Char) : Nat := neighbours (fun x y => opensContext x && closesContext y) cs

/-- There is no gap where no two neighbours miss an operand. -/
theorem gaps_eq_zero_iff (cs : List Char) :
    gaps cs = 0 ↔ cs.IsChain fun x y => ¬ (opensContext x = true ∧ closesContext y = true) := by
  rw [gaps, neighbours_eq_zero_iff]
  simp only [Bool.and_eq_false_iff, not_and_or, Bool.not_eq_true]

/-- A pattern between the parentheses that it could stand between. -/
def enclosed (cs : List Char) : List Char := '(' :: cs ++ [')']

namespace Token

section Borders

variable {opens closes : Char → Bool}

/-- The character of the token is a border of operands on one side, unless it is a symbol, which is
on none, or an operator with two operands, which is on both. -/
def Borders (opens closes : Char → Bool) (t : Token) : Prop :=
  (opens t.char).toNat + (closes t.char).toNat + t.kind.isSymbol.toNat = 1 + t.kind.isBinary.toNat

/-- It is enough to look at the operators and the parentheses. -/
theorem Borders.of_spelt {explicitConcat : Bool} {t : Token} (h : Spelt explicitConcat t)
    (hsymbol : ∀ c, Text.isAlphanumeric c = true → opens c = false ∧ closes c = false)
    (hoperator : t.kind.isSymbol = false → Borders opens closes t) : Borders opens closes t := by
  rcases t with ⟨kind, offset⟩
  cases kind with
  | symbol c =>
      obtain ⟨hopens, hcloses⟩ := hsymbol c (Kind.isAlphanumeric_of_ofChar? h)
      show (opens c).toNat + (closes c).toNat + 1 = 1
      rw [hopens, hcloses]
      rfl
  | leftParen | rightParen | union | star | concat => exact hoperator rfl

/-- Missing operators and the binary ones that are there are as many as symbols and missing
operands, up to the borders at both ends. -/
theorem neighbours_add_binaries {ts : List Token} (h : ∀ t ∈ ts, Borders opens closes t)
    (x y : Char) :
    neighbours (fun x y => !opens x && !closes y) (x :: (ts.map char ++ [y])) +
        (opens x).toNat + (closes y).toNat + binaries ts =
      symbols ts + neighbours (fun x y => opens x && closes y) (x :: (ts.map char ++ [y])) + 1 := by
  induction ts generalizing x with
  | nil =>
      show (!opens x && !closes y).toNat + 0 + _ + _ + 0 = 0 + ((opens x && closes y).toNat + 0) + 1
      have hpair := toNat_not_and_not (opens x) (closes y)
      omega
  | cons t ts ih =>
      rw [List.forall_mem_cons] at h
      -- One step is about the two neighbours and about `t` alone, and the rest is about what comes
      -- after `t`. The borders at `t` are counted in both and cancel.
      have hcount := ih h.2 t.char
      have hpair := toNat_not_and_not (opens x) (closes t.char)
      have ht : (opens t.char).toNat + _ + _ = _ := h.1
      rw [List.map_cons, List.cons_append, neighbours, neighbours, symbols_cons, binaries_cons]
      omega

/-- Between parentheses, both ends are borders. -/
theorem neighbours_enclosed {ts : List Token} (h : ∀ t ∈ ts, Borders opens closes t)
    (hopens : opens '(' = true) (hcloses : closes ')' = true) :
    neighbours (fun x y => !opens x && !closes y) (enclosed (ts.map char)) + 1 + binaries ts =
      symbols ts + neighbours (fun x y => opens x && closes y) (enclosed (ts.map char)) := by
  have hcount := neighbours_add_binaries h '(' ')'
  rw [hopens, hcloses] at hcount
  exact Nat.succ.inj ((Nat.add_right_comm _ _ _).trans hcount)

end Borders

/-! ### Spelling out -/

/-- The tokens of a pattern without written concatenations. -/
theorem Spelt.borders {t : Token} (h : Spelt false t) : Borders opensContext closesContext t := by
  refine .of_spelt h (fun c hc => ?_) fun hsymbol => ?_
  · exact ⟨opensContext_of_isAlphanumeric hc, closesContext_of_isAlphanumeric hc⟩
  · rcases t with ⟨kind, offset⟩
    cases kind with
    | symbol => cases hsymbol
    | concat => cases h
    | leftParen | rightParen | union | star => rfl

/-- The binary operators behind the first token, once concatenations are spelt out. -/
theorem binaries_expand_cons (t : Token) (ts : List Token) :
    binaries (expand (t :: ts)) =
      binaries (t :: ts) + neighbours needsConcat (t.char :: (ts.map char ++ [')'])) := by
  induction ts generalizing t with
  | nil =>
      have hend : needsConcat t.char ')' = false := Bool.and_false _
      show binaries [t] = binaries [t] + ((needsConcat t.char ')').toNat + 0)
      rw [hend]
      rfl
  | cons u us ih =>
      have hbetween : binaries (between t u) = (needsConcat t.char u.char).toNat := by
        rw [between]
        cases needsConcat t.char u.char <;> rfl
      rw [expand_cons_cons, List.cons_append, binaries_cons, binaries_append, hbetween, ih,
        binaries_cons t, List.map_cons, List.cons_append, neighbours]
      omega

/-- Spelling concatenations out adds a binary operator wherever one is missing. -/
theorem binaries_expand (ts : List Token) :
    binaries (expand ts) = binaries ts + neighbours needsConcat (enclosed (ts.map char)) := by
  cases ts with
  | nil => rfl
  | cons t ts =>
      rw [binaries_expand_cons]
      exact congrArg _ (Nat.zero_add _).symm

/-- And it adds nothing else. -/
theorem countP_expand {p : Kind → Bool} (hp : p .concat = false) (ts : List Token) :
    ((expand ts).countP fun t => p t.kind) = ts.countP fun t => p t.kind := by
  induction ts with
  | nil => rfl
  | cons t ts ih =>
      cases ts with
      | nil => rfl
      | cons u us =>
          have hbetween : ((between t u).countP fun t => p t.kind) = 0 := by
            rw [between]
            cases needsConcat t.char u.char with
            | true => simp [hp]
            | false => rfl
          rw [expand_cons_cons, List.cons_append, countP_cons_eq_toNat_add, List.countP_append,
            hbetween, ih, Nat.zero_add]
          exact (countP_cons_eq_toNat_add (fun t => p t.kind) t (u :: us)).symm

/-! ### Postfix order -/

/-- Parentheses take no part in the counts, and everything else keeps its place in them. -/
theorem countP_of_toPostfix {ts out : List Token} {p : Kind → Bool}
    (hp : ∀ k, k.isParen = true → p k = false) (h : toPostfix ts = .ok out) :
    (out.countP fun t => p t.kind) = ts.countP fun t => p t.kind := by
  have hperm : out.Perm (ordered ts) := toPostfixFrom_perm h
  rw [hperm.countP_eq, ordered, List.countP_filter]
  apply List.countP_congr
  intro t _
  cases hparen : t.kind.isParen with
  | true => simp [hp _ hparen]
  | false => simp

/-- The expressions left on the stack are the symbols, less the binary operators. -/
theorem length_add_binaries {ts out : List Token} {es : List Expr} (hout : toPostfix ts = .ok out)
    (hread : Expr.read (out.map kind) [] = some es) : es.length + binaries ts = symbols ts := by
  have hsymbols : symbols out = symbols ts :=
    countP_of_toPostfix (fun _ => Kind.isSymbol_of_isParen) hout
  have hbinaries : binaries out = binaries ts :=
    countP_of_toPostfix (fun _ => Kind.isBinary_of_isParen) hout
  have hlength := Expr.length_of_read hread
  rw [List.countP_map, List.countP_map] at hlength
  have hlength : 0 + symbols out = es.length + binaries out := hlength
  omega

/-- The expressions left on the stack and the gaps of the pattern are one altogether. -/
theorem length_add_gaps {ts out : List Token} {es : List Expr} (hspelt : ∀ t ∈ ts, Spelt false t)
    (hout : toPostfix (expand ts) = .ok out) (hread : Expr.read (out.map kind) [] = some es) :
    es.length + gaps (enclosed (ts.map char)) = 1 := by
  have hsymbols : symbols (expand ts) = symbols ts := countP_expand (p := Kind.isSymbol) rfl ts
  have hlength := length_add_binaries hout hread
  rw [binaries_expand, hsymbols] at hlength
  -- The pattern and the stack count the same tokens.
  have hcount : neighbours needsConcat (enclosed (ts.map char)) + 1 + binaries ts =
      symbols ts + gaps (enclosed (ts.map char)) :=
    neighbours_enclosed (fun t ht => (hspelt t ht).borders) rfl rfl
  omega

end Token

/-! ### The tokens of a pattern -/

/-- What is counted among the tokens of a pattern in postfix order is counted in its text, unless it
is a parenthesis or a concatenation. -/
theorem countP_of_parse {flags : Flags} {pattern : String} {out : List Token} {p : Kind → Bool}
    {q : Char → Bool} (hparse : (parse flags pattern).result = .ok out)
    (hparen : ∀ k, k.isParen = true → p k = false) (hconcat : p .concat = false)
    (hq : ∀ t, Token.Spelt flags.explicitConcat t → p t.kind = q t.char) :
    (out.map Token.kind).countP p = pattern.toList.countP q := by
  obtain ⟨ts, hscan, hordered⟩ := exists_scan_of_parse hparse
  obtain ⟨hchars, hspelt⟩ := Token.scanFrom_eq_ok hscan
  have hspellOut : ((Token.spellOut flags ts).countP fun t => p t.kind) =
      ts.countP fun t => p t.kind := by
    rw [Token.spellOut]
    split
    · rfl
    · exact Token.countP_expand hconcat ts
  rw [← hchars, List.countP_map, List.countP_map]
  refine (Token.countP_of_toPostfix hparen hordered).trans (hspellOut.trans ?_)
  apply List.countP_congr
  intro t ht
  rw [hq t (hspelt t ht)]
  rfl

/-- A parenthesis is not equal to what is none. -/
theorem Kind.beq_of_isParen {k l : Kind} (hl : l.isParen = false) (hk : k.isParen = true) :
    (k == l) = false := by
  rw [beq_eq_false_iff_ne]
  rintro rfl
  rw [hk] at hl
  cases hl

/-- A token is a symbol exactly if its character is alphanumeric. -/
theorem Token.isSymbol_eq {explicitConcat : Bool} {t : Token} (h : Spelt explicitConcat t) :
    t.kind.isSymbol = Text.isAlphanumeric t.char := by
  rcases t with ⟨kind, offset⟩
  cases kind with
  | symbol c => exact (Kind.isAlphanumeric_of_ofChar? h).symm
  | leftParen | rightParen | union | star | concat => rfl

/-- A token is of a kind that is no symbol exactly if it is written as that kind is. -/
theorem Token.kind_beq {explicitConcat : Bool} {t : Token} {k : Kind}
    (h : Spelt explicitConcat t) (hk : k.isSymbol = false) :
    (t.kind == k) = (t.char == k.char) := by
  rw [Bool.eq_iff_iff, beq_iff_eq, beq_iff_eq]
  exact ⟨congrArg Kind.char, kind_of_char h hk⟩

end PatternNfa
