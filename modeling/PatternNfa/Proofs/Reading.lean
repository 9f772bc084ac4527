import PatternNfa.Parse
import PatternNfa.Proofs.Postfix
import PatternNfa.Text.Column

/-!
# `PatternNfa.Proofs.Reading`: from the text of a pattern to its tokens

Scanning gives one token for each character (`scanFrom_eq_ok`), and scanning a text in two parts
gives the tokens of both (`scanFrom_append`). Writing the concatenations out goes by neighbours, so
it works on two parts as well, up to what stands at the seam (`spellOut_append`).

`Derives.reads` puts these together: the tokens of a text that the grammar derives spell the
expression that the grammar derives for it, in either way of writing concatenations.
-/

set_option autoImplicit false

namespace PatternNfa

/-! ### Characters -/

/-- A symbol is no operator and no parenthesis, so it stands for itself. -/
theorem Kind.ofChar?_of_isAlphanumeric {c : Char} (explicitConcat : Bool)
    (h : Text.isAlphanumeric c = true) : ofChar? explicitConcat c = some (symbol c) := by
  unfold ofChar?
  split <;> first | exact absurd h (by decide) | exact if_pos h

/-- A kind that a character stands for is written as that character. -/
theorem Kind.char_of_ofChar? {explicitConcat : Bool} {c : Char} {k : Kind}
    (h : ofChar? explicitConcat c = some k) : k.char = c := by
  unfold ofChar? at h
  split at h
  case h_5 =>
    split at h
    · cases h; rfl
    · cases h
  case h_6 =>
    split at h
    · cases h; rfl
    · cases h
  all_goals cases h; rfl

/-- Only alphanumeric characters stand for symbols. -/
theorem Kind.isAlphanumeric_of_ofChar? {explicitConcat : Bool} {c d : Char}
    (h : ofChar? explicitConcat c = some (symbol d)) : Text.isAlphanumeric d = true := by
  have hchar : d = c := char_of_ofChar? h
  subst hchar
  unfold ofChar? at h
  split at h
  case h_5 => split at h <;> cases h
  case h_6 =>
    split at h
    · assumption
    · cases h
  all_goals cases h

namespace Token

/-! ### Scanning -/

/-- The token is of the kind that its character stands for. -/
def Spelt (explicitConcat : Bool) (t : Token) : Prop :=
  Kind.ofChar? explicitConcat t.char = some t.kind

/-- A character that stands for something is a token, and the scan goes on behind its bytes. -/
theorem scanFrom_cons {flags : Flags} {offset : Nat} {c : Char} {k : Kind} {cs : List Char}
    {ts : List Token} (hk : Kind.ofChar? flags.explicitConcat c = some k)
    (hts : scanFrom flags (offset + c.utf8Size) cs = .ok ts) :
    scanFrom flags offset (c :: cs) = .ok ({ kind := k, offset } :: ts) := by
  simp only [scanFrom, hk, hts]
  rfl

/-- Scanning two parts one after the other gives the tokens of both. -/
theorem scanFrom_append {flags : Flags} {offset : Nat} {u v : List Char} {ts us : List Token}
    (hu : scanFrom flags offset u = .ok ts)
    (hv : scanFrom flags (offset + Text.utf8Size u) v = .ok us) :
    scanFrom flags offset (u ++ v) = .ok (ts ++ us) := by
  induction u generalizing offset ts with
  | nil =>
      cases hu
      exact hv
  | cons c cs ih =>
      rw [scanFrom] at hu
      split at hu
      · cases hu
      · rename_i k hk
        obtain ⟨rest, hrest, rfl⟩ := Except.exists_of_map_eq_ok hu
        rw [Text.utf8Size, ← Nat.add_assoc] at hv
        exact scanFrom_cons hk (ih hrest hv)

/-- A scan that succeeds has one token for each character, of the kind that it stands for. -/
theorem scanFrom_eq_ok {flags : Flags} {offset : Nat} {cs : List Char} {ts : List Token}
    (h : scanFrom flags offset cs = .ok ts) :
    ts.map char = cs ∧ ∀ t ∈ ts, Spelt flags.explicitConcat t := by
  induction cs generalizing offset ts with
  | nil =>
      cases h
      exact ⟨rfl, by simp⟩
  | cons c cs ih =>
      rw [scanFrom] at h
      split at h
      · cases h
      · rename_i k hk
        obtain ⟨rest, hrest, rfl⟩ := Except.exists_of_map_eq_ok h
        obtain ⟨hmap, hspelt⟩ := ih hrest
        have hchar : k.char = c := Kind.char_of_ofChar? hk
        refine ⟨by rw [List.map_cons, hmap, Token.char, hchar], ?_⟩
        rw [List.forall_mem_cons]
        refine ⟨?_, hspelt⟩
        rw [Spelt, Token.char, hchar, hk]

/-- What a pattern is allowed to say without dots it is allowed to say with them. -/
theorem Spelt.explicit {t : Token} (h : Spelt false t) : Spelt true t := by
  rcases t with ⟨kind, offset⟩
  cases kind with
  | symbol c => exact Kind.ofChar?_of_isAlphanumeric true (Kind.isAlphanumeric_of_ofChar? h)
  | concat => cases h
  | leftParen | rightParen | union | star => rfl

/-- A token is of the kind that its character stands for, in either way of writing. -/
theorem kind_of_char {explicitConcat : Bool} {t : Token} {k : Kind} (h : Spelt explicitConcat t)
    (hk : k.isSymbol = false) (hc : t.char = k.char) : t.kind = k := by
  have hexplicit : Spelt true t := by
    cases explicitConcat with
    | true => exact h
    | false => exact h.explicit
  rw [Spelt, hc, Kind.ofChar?_char hk] at hexplicit
  exact (Option.some.inj hexplicit).symm

/-! ### Writing concatenations out -/

/-- What is written between two neighbours. -/
def between (t u : Token) : List Token :=
  if needsConcat t.char u.char then [{ kind := .concat, offset := u.offset }] else []

/-- What is written where two token lists meet. -/
def seam (ts us : List Token) : List Token :=
  match ts.getLast?, us.head? with
  | some t, some u => between t u
  | _, _ => []

/-- What is written behind the first token depends on the next one alone. -/
theorem expand_cons_cons (t u : Token) (us : List Token) :
    expand (t :: u :: us) = t :: between t u ++ expand (u :: us) := by
  rw [expand, between]
  split <;> rfl

/-- Two token lists are spelt out one by one, up to what is written where they meet. -/
theorem expand_append (ts us : List Token) :
    expand (ts ++ us) = expand ts ++ seam ts us ++ expand us := by
  induction ts with
  | nil => rfl
  | cons t ts ih =>
      cases ts with
      | nil =>
          cases us with
          | nil => rfl
          | cons u us => exact expand_cons_cons t u us
      | cons u ts =>
          have hseam : seam (t :: u :: ts) us = seam (u :: ts) us := by
            rw [seam, seam, List.getLast?_cons_cons]
          rw [List.cons_append] at ih
          rw [List.cons_append, List.cons_append, expand_cons_cons, expand_cons_cons, hseam, ih]
          simp only [List.append_assoc, List.cons_append]

/-- Spelling concatenations out adds no tokens but concatenations between neighbours, each with the
offset of the token after it. -/
theorem mem_expand_cases {t : Token} {ts : List Token} (h : t ∈ expand ts) :
    t ∈ ts ∨ ∃ us v w ws, ts = us ++ v :: w :: ws ∧ needsConcat v.char w.char = true ∧
      t = { kind := .concat, offset := w.offset } := by
  induction ts with
  | nil => cases h
  | cons u us ih =>
      cases us with
      | nil => exact .inl h
      | cons v us =>
          rw [expand_cons_cons, List.cons_append, List.mem_cons, List.mem_append] at h
          rcases h with rfl | h | h
          · exact .inl List.mem_cons_self
          · rw [between] at h
            split at h
            · rename_i hconcat
              exact .inr ⟨[], u, v, us, rfl, hconcat, List.mem_singleton.mp h⟩
            · cases h
          · rcases ih h with hmem | ⟨ws, x, y, ys, heq, hconcat, ht⟩
            · exact .inl (List.mem_cons_of_mem u hmem)
            · exact .inr ⟨u :: ws, x, y, ys, congrArg (u :: ·) heq, hconcat, ht⟩

/-- Spelling out adds concatenations only. -/
theorem mem_expand {t : Token} {ts : List Token} (h : t ∈ expand ts) :
    t ∈ ts ∨ t.kind = .concat := by
  rcases mem_expand_cases h with hmem | ⟨_, _, _, _, _, _, rfl⟩
  · exact .inl hmem
  · exact .inr rfl

/-- Whichever way concatenations are written, they are spelt out in the end. -/
theorem spelt_spellOut {flags : Flags} {ts : List Token}
    (h : ∀ t ∈ ts, Spelt flags.explicitConcat t) : ∀ t ∈ spellOut flags ts, Spelt true t := by
  intro t ht
  rw [spellOut] at ht
  split at ht
  · rename_i hflags
    exact hflags ▸ h t ht
  · rename_i hflags
    rcases mem_expand ht with hmem | hconcat
    · exact Spelt.explicit (Bool.eq_false_of_not_eq_true hflags ▸ h t hmem)
    · rw [Spelt, Token.char, hconcat]
      rfl

/-- Where no concatenation is meant at the seam, or all are written out already, two parts are
spelt out one after the other. -/
theorem spellOut_append {flags : Flags} {ts us : List Token}
    (h : ∀ t ∈ ts.getLast?, ∀ u ∈ us.head?, needsConcat t.char u.char = false) :
    spellOut flags (ts ++ us) = spellOut flags ts ++ spellOut flags us := by
  rw [spellOut, spellOut, spellOut]
  split
  · rfl
  · have hseam : seam ts us = [] := by
      rw [seam]
      split
      · rename_i t u ht hu
        rw [between, h t ht u hu]
        rfl
      · rfl
    rw [expand_append, hseam, List.append_nil]

/-- A single token has no neighbour to be concatenated with. -/
theorem spellOut_singleton (flags : Flags) (t : Token) : spellOut flags [t] = [t] := by
  rw [spellOut]
  split <;> rfl

/-- Nothing is written before a token that closes a context. -/
theorem spellOut_append_of_closesContext (flags : Flags) {u : Token}
    (hu : closesContext u.char = true) (ts us : List Token) :
    spellOut flags (ts ++ u :: us) = spellOut flags ts ++ spellOut flags (u :: us) := by
  apply spellOut_append
  intro t _ v hv
  rw [List.head?_cons, Option.mem_some_iff] at hv
  rw [needsConcat, ← hv, hu, Bool.not_true, Bool.and_false]

/-- Nothing is written behind a token that opens a context. -/
theorem spellOut_cons_of_opensContext (flags : Flags) {t : Token}
    (ht : opensContext t.char = true) (us : List Token) :
    spellOut flags (t :: us) = t :: spellOut flags us := by
  rw [← List.singleton_append, spellOut_append, spellOut_singleton, List.singleton_append]
  intro v hv u _
  rw [List.getLast?_singleton, Option.mem_some_iff] at hv
  rw [needsConcat, ← hv, ht, Bool.not_true, Bool.false_and]

end Token

/-! ### Patterns -/

/-- The text begins with a character before which an operand may end. -/
def BeginsOperand (cs : List Char) : Prop := ∃ c u, cs = c :: u ∧ closesContext c = false

/-- The text ends with a character after which an operand may begin. -/
def EndsOperand (cs : List Char) : Prop := ∃ u c, cs = u ++ [c] ∧ opensContext c = false

/-- How a text begins does not depend on what comes behind it. -/
theorem BeginsOperand.append {u : List Char} (h : BeginsOperand u) (v : List Char) :
    BeginsOperand (u ++ v) := by
  obtain ⟨c, u, rfl, hc⟩ := h
  exact ⟨c, u ++ v, rfl, hc⟩

/-- How a text ends does not depend on what comes before it. -/
theorem EndsOperand.append {v : List Char} (h : EndsOperand v) (u : List Char) :
    EndsOperand (u ++ v) := by
  obtain ⟨v, c, rfl, hc⟩ := h
  exact ⟨u ++ v, c, by rw [List.append_assoc], hc⟩

/-- A symbol opens no context. -/
theorem opensContext_of_isAlphanumeric {c : Char} (h : Text.isAlphanumeric c = true) :
    opensContext c = false := by
  rw [opensContext, Bool.or_eq_false_iff, beq_eq_false_iff_ne, beq_eq_false_iff_ne]
  constructor <;> (rintro rfl; exact absurd h (by decide))

/-- A symbol closes no context. -/
theorem closesContext_of_isAlphanumeric {c : Char} (h : Text.isAlphanumeric c = true) :
    closesContext c = false := by
  rw [closesContext, Bool.or_eq_false_iff, Bool.or_eq_false_iff, beq_eq_false_iff_ne,
    beq_eq_false_iff_ne, beq_eq_false_iff_ne]
  refine ⟨⟨?_, ?_⟩, ?_⟩ <;> (rintro rfl; exact absurd h (by decide))

/-- A concatenation is meant where one operand ends and the next one begins. -/
theorem Token.seam_of_operands {ts us : List Token} (ht : EndsOperand (ts.map char))
    (hu : BeginsOperand (us.map char)) : ∃ t, t.kind = .concat ∧ seam ts us = [t] := by
  obtain ⟨v, c, hv, hc⟩ := ht
  obtain ⟨d, w, hw, hd⟩ := hu
  obtain ⟨ts, last, rfl, -, hlast⟩ := List.map_eq_append_iff.mp hv
  obtain ⟨t, rfl, htc⟩ := List.map_eq_singleton_iff.mp hlast
  obtain ⟨u, us, rfl, huc, -⟩ := List.map_eq_cons_iff.mp hw
  refine ⟨{ kind := .concat, offset := u.offset }, rfl, ?_⟩
  rw [seam, List.getLast?_concat, List.head?_cons]
  show between t u = _
  rw [between, needsConcat, htc, huc, hc, hd]
  rfl

namespace Derives

/-- A derived text begins as an operand does and ends as one does. -/
theorem beginsOperand_and_endsOperand {explicitConcat : Bool} {level : Level} {cs : List Char}
    {e : Expr} (h : Derives explicitConcat level cs e) : BeginsOperand cs ∧ EndsOperand cs := by
  induction h with
  | @union u v _ _ _ _ ihl ihr =>
      exact ⟨ihl.1.append _, (ihr.2.append ['|']).append u⟩
  | concat _ _ ihl ihr => exact ⟨(ihl.1.append _).append _, ihr.2.append _⟩
  | @star u _ _ ih => exact ⟨ih.1.append _, u, '*', rfl, by decide⟩
  | ofTerm _ ih | ofFactor _ ih | ofAtom _ ih => exact ih
  | @symbol c hc =>
      exact ⟨⟨c, [], rfl, closesContext_of_isAlphanumeric hc⟩,
        [], c, rfl, opensContext_of_isAlphanumeric hc⟩
  | @group u _ _ _ => exact ⟨⟨'(', u ++ [')'], rfl, by decide⟩, '(' :: u, ')', rfl, by decide⟩

end Derives

/-- The text that begins at byte `offset` scans, and its tokens spell an expression once the
concatenations are written out. -/
def Reads (flags : Flags) (level : Level) (offset : Nat) (cs : List Char) (e : Expr) : Prop :=
  ∃ ts, Token.scanFrom flags offset cs = .ok ts ∧
    ∃ out, Renders level (Token.spellOut flags ts) out e

namespace Reads

variable {flags : Flags} {offset : Nat} {u v : List Char} {l r e : Expr}

/-- A bar between two texts is read between them. -/
theorem union (hl : Reads flags .expr offset u l)
    (hr : Reads flags .term (offset + Text.utf8Size u + '|'.utf8Size) v r) :
    Reads flags .expr offset (u ++ '|' :: v) (.union l r) := by
  obtain ⟨ts, hts, outl, hl⟩ := hl
  obtain ⟨us, hus, outr, hr⟩ := hr
  let bar : Token := { kind := .union, offset := offset + Text.utf8Size u }
  have hbar : Token.scanFrom flags (offset + Text.utf8Size u) ('|' :: v) = .ok (bar :: us) :=
    Token.scanFrom_cons rfl hus
  refine ⟨ts ++ bar :: us, Token.scanFrom_append hts hbar, outl ++ outr ++ [bar], ?_⟩
  rw [Token.spellOut_append_of_closesContext flags (u := bar) rfl,
    Token.spellOut_cons_of_opensContext flags (t := bar) rfl]
  exact .union hl rfl hr

/-- A dot between two factors is a token of the pattern where dots are written. -/
theorem concat_of_explicit (hflags : flags.explicitConcat = true)
    (hl : Reads flags .term offset u l)
    (hr : Reads flags .factor (offset + Text.utf8Size u + '.'.utf8Size) v r) :
    Reads flags .term offset (u ++ '.' :: v) (.concat l r) := by
  obtain ⟨ts, hts, outl, hl⟩ := hl
  obtain ⟨us, hus, outr, hr⟩ := hr
  let dot : Token := { kind := .concat, offset := offset + Text.utf8Size u }
  have hdot : Token.scanFrom flags (offset + Text.utf8Size u) ('.' :: v) = .ok (dot :: us) :=
    Token.scanFrom_cons (by rw [hflags]; rfl) hus
  refine ⟨ts ++ dot :: us, Token.scanFrom_append hts hdot, outl ++ outr ++ [dot], ?_⟩
  rw [Token.spellOut, if_pos hflags] at hl hr ⊢
  exact .concat hl rfl hr

/-- Where dots are not written, one is put between two factors that stand next to each other. -/
theorem concat_of_implicit (hflags : flags.explicitConcat = false) (hu : EndsOperand u)
    (hv : BeginsOperand v) (hl : Reads flags .term offset u l)
    (hr : Reads flags .factor (offset + Text.utf8Size u) v r) :
    Reads flags .term offset (u ++ v) (.concat l r) := by
  obtain ⟨ts, hts, outl, hl⟩ := hl
  obtain ⟨us, hus, outr, hr⟩ := hr
  rw [← (Token.scanFrom_eq_ok hts).1] at hu
  rw [← (Token.scanFrom_eq_ok hus).1] at hv
  obtain ⟨dot, hdot, hseam⟩ := Token.seam_of_operands hu hv
  refine ⟨ts ++ us, Token.scanFrom_append hts hus, outl ++ outr ++ [dot], ?_⟩
  rw [Token.spellOut, hflags, if_neg Bool.false_ne_true] at hl hr ⊢
  rw [Token.expand_append, hseam, List.append_assoc]
  exact .concat hl hdot hr

/-- A star behind a text is read behind it. -/
theorem star (h : Reads flags .factor offset u e) :
    Reads flags .factor offset (u ++ ['*']) (.star e) := by
  obtain ⟨ts, hts, out, hout⟩ := h
  let star : Token := { kind := .star, offset := offset + Text.utf8Size u }
  refine ⟨ts ++ [star], Token.scanFrom_append hts (Token.scanFrom_cons rfl rfl), out ++ [star], ?_⟩
  rw [Token.spellOut_append_of_closesContext flags (u := star) rfl, Token.spellOut_singleton]
  exact .star hout rfl

/-- A symbol is read as itself. -/
theorem symbol {c : Char} (hc : Text.isAlphanumeric c = true) :
    Reads flags .atom offset [c] (.symbol c) := by
  refine ⟨[{ kind := .symbol c, offset }], ?_, ?_⟩
  · exact Token.scanFrom_cons (Kind.ofChar?_of_isAlphanumeric _ hc) rfl
  · rw [Token.spellOut_singleton]
    exact ⟨_, .symbol rfl⟩

/-- A text between parentheses is read as the text. -/
theorem group (h : Reads flags .expr (offset + '('.utf8Size) u e) :
    Reads flags .atom offset ('(' :: u ++ [')']) e := by
  obtain ⟨ts, hts, out, hout⟩ := h
  let left : Token := { kind := .leftParen, offset }
  let right : Token := { kind := .rightParen, offset := offset + '('.utf8Size + Text.utf8Size u }
  have hright : Token.scanFrom flags (offset + '('.utf8Size) (u ++ [')']) = .ok (ts ++ [right]) :=
    Token.scanFrom_append hts (Token.scanFrom_cons rfl rfl)
  refine ⟨left :: ts ++ [right], Token.scanFrom_cons rfl hright, out, ?_⟩
  rw [Token.spellOut_append_of_closesContext flags (u := right) rfl,
    Token.spellOut_cons_of_opensContext flags (t := left) rfl, Token.spellOut_singleton]
  exact .group rfl hout rfl

/-- A level of the grammar is read as the level above it is, if it is one by itself. -/
theorem mono {level level' : Level}
    (hlevel : ∀ ts out, Renders level ts out e → Renders level' ts out e)
    (h : Reads flags level offset u e) : Reads flags level' offset u e := by
  obtain ⟨ts, hts, out, hout⟩ := h
  exact ⟨ts, hts, out, hlevel _ _ hout⟩

end Reads

/-- The tokens of a derived text spell the expression that it is derived with. -/
theorem Derives.reads {flags : Flags} {level : Level} {cs : List Char} {e : Expr}
    (h : Derives flags.explicitConcat level cs e) (offset : Nat) :
    Reads flags level offset cs e := by
  induction h generalizing offset with
  | union _ _ ihl ihr => exact .union (ihl _) (ihr _)
  | concat hu hv ihl ihr =>
      cases hflags : flags.explicitConcat with
      | true =>
          rw [juxtaposition, if_pos rfl, List.append_assoc]
          exact .concat_of_explicit hflags (ihl _) (ihr _)
      | false =>
          rw [juxtaposition, if_neg Bool.false_ne_true, List.append_nil]
          exact .concat_of_implicit hflags hu.beginsOperand_and_endsOperand.2
            hv.beginsOperand_and_endsOperand.1 (ihl _) (ihr _)
  | star _ ih => exact .star (ih _)
  | ofTerm _ ih => exact (ih _).mono fun _ _ => .ofTerm
  | ofFactor _ ih => exact (ih _).mono fun _ _ => .ofFactor
  | ofAtom _ ih => exact (ih _).mono fun _ _ => .ofAtom
  | symbol hc => exact .symbol hc
  | group _ ih => exact .group (ih _)

/-- Parsing a pattern gives the tokens of its expression in postfix order. -/
theorem parse_of_derives {flags : Flags} {pattern : String} {e : Expr}
    (h : Derives flags.explicitConcat .expr pattern.toList e) :
    ∃ out, (parse flags pattern).result = .ok out ∧ out.map Token.kind = e.postorder := by
  obtain ⟨ts, hts, out, hout⟩ := h.reads 0
  refine ⟨out, ?_, hout.map_kind⟩
  have hscan : Token.scan flags pattern = .ok ts := hts
  rw [parse_result_of_scan hscan]
  exact toPostfix_of_renders hout

/-- A pattern that is parsed was scanned, and its tokens were put into postfix order. -/
theorem exists_scan_of_parse {flags : Flags} {pattern : String} {out : List Token}
    (h : (parse flags pattern).result = .ok out) :
    ∃ ts, Token.scan flags pattern = .ok ts ∧
      Token.toPostfix (Token.spellOut flags ts) = .ok out := by
  cases hscan : Token.scan flags pattern with
  | error cause =>
      rw [parse_result_of_scan_error hscan] at h
      cases h
  | ok ts =>
      rw [parse_result_of_scan hscan] at h
      exact ⟨ts, rfl, h⟩

/-- What is parsed is spelt as in a pattern that writes its concatenations out. -/
theorem spelt_of_parse {flags : Flags} {pattern : String} {out : List Token}
    (h : (parse flags pattern).result = .ok out) : ∀ t ∈ out, Token.Spelt true t := by
  obtain ⟨ts, hscan, hout⟩ := exists_scan_of_parse h
  intro t ht
  exact Token.spelt_spellOut (Token.scanFrom_eq_ok hscan).2 t
    (Token.mem_of_mem_toPostfix hout ht).1

end PatternNfa
