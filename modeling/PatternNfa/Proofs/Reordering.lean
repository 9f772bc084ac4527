import PatternNfa.Proofs.Correspondence
import PatternNfa.Proofs.Partners

/-!
# `PatternNfa.Proofs.Reordering`: what moves where in postfix order

Any tokens are put into postfix order if their parentheses are balanced, whether they make sense or
not. Parentheses are dropped, symbols stay in their order, and an operator never moves in front of a
symbol (`toPostfix_rearranges`).

All of that comes from what a single token does (`toPostfixFrom_cons_cases`): a symbol is sent out
at once, and everything else changes the stack, which holds no symbols, and sends out part of it. So
whatever is sent out before a symbol stood before it (`toPostfixFrom_pairwise`). Two tokens can be
equal, also in their offsets, so which of them moves where can only be told by their places. To
follow the places, the tokens are numbered, and the run over the numbered tokens is compared with
the run over the tokens (`exists_places`).
-/

set_option autoImplicit false

namespace PatternNfa.Token

/-! ### One token -/

/-- No symbol waits on the stack. -/
def Waits (stack : List Token) : Prop := ∀ t ∈ stack, t.kind.isSymbol = false

/-- What waits after an operator waited before, or is the operator. -/
theorem Waits.of_subset {stack stack' : List Token} {t : Token} (h : Waits stack)
    (ht : t.kind.isSymbol = false) (hsub : stack' ⊆ t :: stack) : Waits stack' := by
  intro u hu
  cases List.mem_cons.mp (hsub hu) with
  | inl heq => rw [heq, ht]
  | inr hmem => exact h u hmem

/-- No symbol is sent out from the stack. -/
theorem Waits.filter_eq_nil {stack sent : List Token} (h : Waits stack) (hsub : sent ⊆ stack) :
    sent.filter (·.kind.isSymbol) = [] := by
  rw [List.filter_eq_nil_iff]
  intro t ht
  rw [h t (hsub ht)]
  exact Bool.false_ne_true

/-- What is sent out from the stack is no symbol, so nothing has to be said of its order. -/
theorem Waits.pairwise {R : Token → Token → Prop} {stack sent : List Token} (h : Waits stack)
    (hsub : sent ⊆ stack) : sent.Pairwise fun t u => u.kind.isSymbol = true → R t u := by
  apply List.pairwise_of_forall_mem_list
  intro t _ u hu husymbol
  rw [h u (hsub hu)] at husymbol
  cases husymbol

/-- A symbol is sent out and leaves the stack as it is. Any other token sends out a part of the
stack, and puts at most itself on it. -/
theorem toPostfixFrom_cons_cases {t : Token} {ts stack out : List Token}
    (h : toPostfixFrom stack (t :: ts) = .ok out) :
    ∃ sent rest stack', out = sent ++ rest ∧ toPostfixFrom stack' ts = .ok rest ∧
      ((t.kind.isSymbol = true ∧ sent = [t] ∧ stack' = stack) ∨
        (t.kind.isSymbol = false ∧ sent ⊆ stack ∧ stack' ⊆ t :: stack)) := by
  rcases t.kind.symbol_or_paren_or_operator with ⟨c, ht⟩ | ht | ht | ht
  · rw [toPostfixFrom_symbol ht] at h
    obtain ⟨rest, hrest, rfl⟩ := Except.exists_of_map_eq_ok h
    exact ⟨[t], rest, stack, rfl, hrest, .inl ⟨by rw [ht]; rfl, rfl, rfl⟩⟩
  · rw [toPostfixFrom_leftParen ht] at h
    exact ⟨[], out, t :: stack, rfl, h, .inr ⟨by rw [ht]; rfl, by simp, fun _ hu => hu⟩⟩
  · rw [toPostfixFrom_rightParen ht] at h
    split at h
    · cases h
    · rename_i inner outer hclose
      obtain ⟨rest, hrest, rfl⟩ := Except.exists_of_map_eq_ok h
      obtain ⟨l, -, rfl, -⟩ := closeGroup?_eq_some hclose
      exact ⟨inner, rest, outer, rfl, hrest, .inr ⟨by rw [ht]; rfl, List.subset_append_left _ _,
        fun u hu => by simp [hu]⟩⟩
  · rw [toPostfixFrom_operator ht] at h
    obtain ⟨rest, hrest, rfl⟩ := Except.exists_of_map_eq_ok h
    have hdrop : stack.dropWhile (binds t) ⊆ stack := (List.dropWhile_sublist _).subset
    exact ⟨_, rest, _, rfl, hrest, .inr ⟨Kind.isSymbol_of_isOperator ht,
      (List.takeWhile_sublist _).subset, List.cons_subset_cons t hdrop⟩⟩

/-! ### All tokens -/

/-- Symbols stay in their order. -/
theorem filter_symbols_of_toPostfixFrom {ts stack out : List Token} (hstack : Waits stack)
    (h : toPostfixFrom stack ts = .ok out) :
    out.filter (·.kind.isSymbol) = ts.filter (·.kind.isSymbol) := by
  induction ts generalizing stack out with
  | nil =>
      obtain ⟨rfl, -⟩ := flush_eq_ok h
      exact hstack.filter_eq_nil fun _ ht => ht
  | cons t ts ih =>
      obtain ⟨sent, rest, stack', rfl, hrest, ⟨ht, rfl, rfl⟩ | ⟨ht, hsent, hstack'⟩⟩ :=
        toPostfixFrom_cons_cases h
      · rw [List.filter_append, ih hstack hrest]
        simp [ht]
      · rw [List.filter_append, hstack.filter_eq_nil hsent, ih (hstack.of_subset ht hstack') hrest]
        simp [ht]

/-- What holds between each token and those behind it holds between whatever is sent out before a
symbol and the symbol. -/
theorem toPostfixFrom_pairwise {R : Token → Token → Prop} {ts stack out : List Token}
    (hstack : Waits stack) (hbefore : ∀ s ∈ stack, ∀ t ∈ ts, R s t) (hts : ts.Pairwise R)
    (h : toPostfixFrom stack ts = .ok out) :
    out.Pairwise fun t u => u.kind.isSymbol = true → R t u := by
  induction ts generalizing stack out with
  | nil =>
      obtain ⟨rfl, -⟩ := flush_eq_ok h
      exact hstack.pairwise fun _ ht => ht
  | cons t ts ih =>
      obtain ⟨htlater, hts⟩ := List.pairwise_cons.mp hts
      have hlater : ∀ s ∈ stack, ∀ u ∈ ts, R s u :=
        fun s hs u hu => hbefore s hs u (List.mem_cons_of_mem t hu)
      obtain ⟨sent, rest, stack', rfl, hrest, hstep⟩ := toPostfixFrom_cons_cases h
      have hwaits : Waits stack' := by
        rcases hstep with ⟨-, -, rfl⟩ | ⟨ht, -, hstack'⟩
        · exact hstack
        · exact hstack.of_subset ht hstack'
      -- A symbol that is sent out later is one of the tokens behind `t`.
      have hsymbol : ∀ u ∈ rest, u.kind.isSymbol = true → u ∈ ts := by
        intro u hu husymbol
        have hmem : u ∈ rest.filter (·.kind.isSymbol) := List.mem_filter.mpr ⟨hu, husymbol⟩
        rw [filter_symbols_of_toPostfixFrom hwaits hrest] at hmem
        exact (List.mem_filter.mp hmem).1
      rw [List.pairwise_append]
      rcases hstep with ⟨ht, rfl, rfl⟩ | ⟨ht, hsent, hstack'⟩
      · refine ⟨List.pairwise_singleton _ _, ih hwaits hlater hts hrest, ?_⟩
        intro s hs u hu husymbol
        rw [List.mem_singleton.mp hs]
        exact htlater u (hsymbol u hu husymbol)
      · refine ⟨hstack.pairwise hsent, ih hwaits ?_ hts hrest, ?_⟩
        · intro s hs u hu
          cases List.mem_cons.mp (hstack' hs) with
          | inl heq => rw [heq]; exact htlater u hu
          | inr hmem => exact hlater s hmem u hu
        · intro s hs u hu husymbol
          exact hlater s (hsent hs) u (hsymbol u hu husymbol)

/-! ### Places -/

/-- The tokens with their places in the list in place of their offsets. -/
def numbered (ts : List Token) : List Token := ts.mapIdx fun i t => { kind := t.kind, offset := i }

/-- The second token stands for the first one by its place. -/
def StandsFor (ts : List Token) (t u : Token) : Prop := u.kind = t.kind ∧ ts[u.offset]? = some t

/-- Every token is stood for by its place. -/
theorem standsFor_numbered (ts : List Token) : List.Forall₂ (StandsFor ts) ts (numbered ts) := by
  rw [List.forall₂_iff_get]
  refine ⟨by simp [numbered], fun i hi hi' => ?_⟩
  simp [numbered, StandsFor]

/-- Every token has one that stands for it, and nothing else is numbered. -/
theorem mem_numbered {ts : List Token} {u : Token} :
    u ∈ numbered ts ↔ ∃ t, StandsFor ts t u := by
  rw [numbered, List.mem_mapIdx]
  constructor
  · rintro ⟨i, hi, rfl⟩
    exact ⟨ts[i], rfl, List.getElem?_eq_getElem hi⟩
  · rintro ⟨t, hkind, hget⟩
    obtain ⟨hi, rfl⟩ := List.getElem?_eq_some_iff.mp hget
    exact ⟨u.offset, hi, by rw [← hkind]⟩

/-- Places increase along the list. -/
theorem numbered_pairwise (ts : List Token) :
    (numbered ts).Pairwise fun t u => t.offset < u.offset := by
  rw [List.pairwise_iff_getElem]
  intro i j hi hj hij
  simpa [numbered] using hij

/-- The places of what stands for the tokens hold the tokens. -/
theorem map_getElem?_offset {ts out out' : List Token}
    (h : List.Forall₂ (StandsFor ts) out out') :
    (out'.map Token.offset).map (ts[·]?) = out.map some := by
  induction h with
  | nil => rfl
  | cons hstands _ ih => rw [List.map_cons, List.map_cons, ih, hstands.2, List.map_cons]

/-- Of two elements one comes before the other. -/
theorem pair_sublist_or {α : Type} {l : List α} {a b : α} (ha : a ∈ l) (hb : b ∈ l) (hne : a ≠ b) :
    [a, b].Sublist l ∨ [b, a].Sublist l := by
  obtain ⟨u, v, rfl⟩ := List.append_of_mem ha
  rcases List.mem_append.mp hb with hu | hv
  · exact .inr ((List.singleton_sublist.mpr hu).append
      (List.singleton_sublist.mpr List.mem_cons_self))
  · have hv : b ∈ v := (List.mem_cons.mp hv).resolve_left hne.symm
    exact .inl (((List.singleton_sublist.mpr hv).cons_cons a).trans (List.sublist_append_right u _))

/-- The places in `ts` of the tokens of `out`, in the order of `out`: every token but the
parentheses has its place there once, and a symbol comes before everything that stands behind it. -/
structure Places (ts out : List Token) (places : List Nat) : Prop where
  tokens_eq : places.map (ts[·]?) = out.map some
  nodup : places.Nodup
  mem_iff : ∀ i, i ∈ places ↔ ∃ t, ts[i]? = some t ∧ t.kind.isParen = false
  symbol_first : ∀ {i j : Nat} {s t : Token}, ts[i]? = some s → s.kind.isSymbol = true →
    ts[j]? = some t → t.kind.isParen = false → i < j → [i, j].Sublist places

/-- The order of the numbered tokens, read as places. -/
theorem Places.of_numbered {ts out out' : List Token} (h : toPostfix (numbered ts) = .ok out')
    (hrelated : List.Forall₂ (StandsFor ts) out out') : Places ts out (out'.map Token.offset) := by
  have hperm : out'.Perm (ordered (numbered ts)) := toPostfixFrom_perm h
  have hmem : ∀ u, u ∈ out' ↔ (∃ t, StandsFor ts t u) ∧ u.kind.isParen = false := by
    intro u
    rw [hperm.mem_iff, ordered, List.mem_filter, mem_numbered, Bool.not_eq_true']
  refine ⟨map_getElem?_offset hrelated, ?_, fun i => ?_, ?_⟩
  · have hordered : (ordered (numbered ts)).Pairwise fun t u => t.offset ≠ u.offset :=
      ((numbered_pairwise ts).filter _).imp Nat.ne_of_lt
    exact (hperm.map Token.offset).nodup_iff.mpr (List.pairwise_map.mpr hordered)
  · rw [List.mem_map]
    constructor
    · rintro ⟨u, hu, rfl⟩
      obtain ⟨⟨t, hkind, hget⟩, hparen⟩ := (hmem u).mp hu
      exact ⟨t, hget, by rw [← hkind, hparen]⟩
    · rintro ⟨t, hget, hparen⟩
      exact ⟨⟨t.kind, i⟩, (hmem _).mpr ⟨⟨t, rfl, hget⟩, hparen⟩, rfl⟩
  · intro i j s t hs hsymbol ht hparen hij
    have hsparen : s.kind.isParen = false := by
      rw [Bool.eq_false_iff]
      intro hs'
      exact Bool.eq_false_iff.mp (Kind.isSymbol_of_isParen hs') hsymbol
    have hi : (⟨s.kind, i⟩ : Token) ∈ out' := (hmem _).mpr ⟨⟨s, rfl, hs⟩, hsparen⟩
    have hj : (⟨t.kind, j⟩ : Token) ∈ out' := (hmem _).mpr ⟨⟨t, rfl, ht⟩, hparen⟩
    have hne : (⟨s.kind, i⟩ : Token) ≠ ⟨t.kind, j⟩ :=
      fun heq => Nat.ne_of_lt hij (congrArg Token.offset heq)
    rcases pair_sublist_or hi hj hne with hfirst | hlast
    · exact hfirst.map Token.offset
    · -- Whatever comes before the symbol stood before it, which `j` did not.
      have hbefore := toPostfixFrom_pairwise (by simp [Waits]) (by simp) (numbered_pairwise ts) h
      have hji : j < i := List.pairwise_pair.mp (hbefore.sublist hlast) hsymbol
      exact absurd hji (Nat.lt_asymm hij)

/-- The tokens in postfix order have places. -/
theorem exists_places {ts out : List Token} (h : toPostfix ts = .ok out) :
    ∃ places, Places ts out places := by
  have hkeeps : KeepsKind (StandsFor ts) := fun _ _ hstands => hstands.1
  rcases (toPostfixFrom_related hkeeps .nil (standsFor_numbered ts)).exists_or with
    ⟨o, out', ho, hout', hrelated⟩ | ⟨e, -, he, -, -⟩
  · cases h.symm.trans ho
    exact ⟨_, .of_numbered hout' hrelated⟩
  · cases h.symm.trans he

/-! ### Any tokens -/

/-- Tokens are rejected exactly if their parentheses are not balanced. -/
theorem exists_error_iff (ts : List Token) :
    (∃ e, toPostfix ts = .error e) ↔ ¬ Balanced ts := by
  constructor
  · rintro ⟨e, he⟩
    obtain ⟨t, ht, -⟩ := unmatched_of_toPostfix he
    exact (Unpaired.of_unmatched ht).not_balanced
  · intro hbalanced
    cases h : toPostfix ts with
    | ok out => exact absurd ((balanced_iff ts).mpr (depthAfter_of_toPostfix h)) hbalanced
    | error e => exact ⟨e, rfl⟩

/-- The error is over the parenthesis without a partner that counts. -/
theorem eq_error_iff_unpaired (ts : List Token) (e : ParseError) :
    toPostfix ts = .error e ↔ ∃ t, Unpaired ts t ∧ e = .unmatchedParenthesis t.offset := by
  have hmp : ∀ e, toPostfix ts = .error e →
      ∃ t, Unpaired ts t ∧ e = .unmatchedParenthesis t.offset := by
    intro e he
    obtain ⟨t, ht, heq⟩ := unmatched_of_toPostfix he
    exact ⟨t, .of_unmatched ht, heq⟩
  refine ⟨hmp e, ?_⟩
  rintro ⟨t, ht, rfl⟩
  obtain ⟨e, he⟩ := (exists_error_iff ts).mpr ht.not_balanced
  obtain ⟨t', ht', rfl⟩ := hmp e he
  rw [he, ht.unique ht']

/-- What putting tokens into postfix order comes to, whatever the tokens are. It fails exactly if
the parentheses are not balanced, and then over the first closing parenthesis without a partner, or
over the last opening one if all closing ones have partners. Otherwise it drops the parentheses,
neither loses nor invents a token, keeps the order of the symbols, and sends each symbol out before
everything that stood behind it. -/
theorem toPostfix_rearranges (ts : List Token) :
    ((∃ e, toPostfix ts = .error e) ↔ ¬ Balanced ts) ∧
      (∀ e, toPostfix ts = .error e ↔
        ∃ t, Unpaired ts t ∧ e = .unmatchedParenthesis t.offset) ∧
      ∀ out, toPostfix ts = .ok out →
        (∀ t ∈ out, t.kind.isParen = false) ∧ out.Perm (ts.filter fun t => !t.kind.isParen) ∧
          out.filter (·.kind.isSymbol) = ts.filter (·.kind.isSymbol) ∧
          ∃ places, Places ts out places := by
  refine ⟨exists_error_iff ts, eq_error_iff_unpaired ts, fun out hout => ?_⟩
  have hperm : out.Perm (ordered ts) := toPostfixFrom_perm hout
  have hsymbols := filter_symbols_of_toPostfixFrom (by simp [Waits]) hout
  exact ⟨fun t ht => (mem_of_mem_toPostfix hout ht).2, hperm, hsymbols, exists_places hout⟩

/-- The group in `a|(*` has no end. In `|a|b` the first bar has no left operand, and all tokens are
at offset 0, so the two bars are equal. -/
theorem toPostfix_rearranges_of_malformed :
    let opened : List Token := [⟨.symbol 'a', 0⟩, ⟨.union, 1⟩, ⟨.leftParen, 2⟩, ⟨.star, 3⟩]
    let ts : List Token := [⟨.union, 0⟩, ⟨.symbol 'a', 0⟩, ⟨.union, 0⟩, ⟨.symbol 'b', 0⟩]
    let out : List Token := [⟨.symbol 'a', 0⟩, ⟨.union, 0⟩, ⟨.symbol 'b', 0⟩, ⟨.union, 0⟩]
    toPostfix opened = .error (.unmatchedParenthesis 2) ∧ toPostfix ts = .ok out ∧
      (∃ t, Unpaired opened t ∧ t.offset = 2) ∧ out.Perm ts ∧ ∃ places, Places ts out places := by
  intro opened ts out
  have herror : toPostfix opened = .error (.unmatchedParenthesis 2) := by decide
  have hok : toPostfix ts = .ok out := by decide
  obtain ⟨-, hrejected, -⟩ := toPostfix_rearranges opened
  obtain ⟨t, ht, heq⟩ := (hrejected _).mp herror
  obtain ⟨-, -, hrearranged⟩ := toPostfix_rearranges ts
  obtain ⟨-, hperm, -, hplaces⟩ := hrearranged out hok
  exact ⟨herror, hok, ⟨t, ht, (ParseError.unmatchedParenthesis.inj heq).symm⟩, hperm, hplaces⟩

end PatternNfa.Token
