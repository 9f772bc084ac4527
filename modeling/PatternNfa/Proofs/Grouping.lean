import PatternNfa.Proofs.Correspondence

/-!
# `PatternNfa.Proofs.Grouping`: a group in place of a symbol

Tokens that can be put into postfix order by themselves can also stand between parentheses, in any
place where a symbol can. What is around them, well formed or not, is ordered as it is around the
symbol, and fails as it does there. In place of the symbol stand the tokens of the group, in their
own postfix order and next to each other (`toPostfix_group`).

Two runs are compared, twice. Inside the group, the run over a stack with an open group does what
the run over the empty stack does: no operator is sent out past the opening parenthesis, and the end
of the group sends out what the end of the input does (`toPostfixFrom_group`). Around the group, the
run with the group and the run with the symbol have the same stack throughout, since both send
something out and leave the stack as it was (`toPostfixFrom_around`).
-/

set_option autoImplicit false

namespace PatternNfa.Token

section

variable {l r : Token}

/-! ### Inside the group -/

/-- An operator does not look past an open group. -/
theorem span_append_leftParen {t : Token} (ht : t.kind.isOperator = true)
    (hl : l.kind = .leftParen) (stack below : List Token) :
    (stack ++ l :: below).takeWhile (binds t) = stack.takeWhile (binds t) ∧
      (stack ++ l :: below).dropWhile (binds t) = stack.dropWhile (binds t) ++ l :: below := by
  have hbinds : binds t l = false := by
    have hpos := precedence_pos ht
    rw [binds, precedence_leftParen hl, decide_eq_false_iff_not]
    omega
  induction stack with
  | nil => simp [hbinds]
  | cons top stack ih =>
      rw [List.cons_append, List.takeWhile_cons, List.takeWhile_cons, List.dropWhile_cons,
        List.dropWhile_cons]
      cases binds t top with
      | false => simp
      | true => simp [ih]

/-- What a run does over the empty stack it does over an open group too. The end of the group sends
out what the end of the input does, and the stack below is left as it was. -/
theorem toPostfixFrom_closing (hl : l.kind = .leftParen) (hr : r.kind = .rightParen)
    {stack g out : List Token} (h : toPostfixFrom stack g = .ok out) (below rest : List Token) :
    toPostfixFrom (stack ++ l :: below) (g ++ r :: rest) =
      (toPostfixFrom below rest).map (out ++ ·) := by
  induction g generalizing stack out with
  | nil =>
      obtain ⟨rfl, hclosed⟩ := flush_eq_ok h
      rw [List.nil_append, toPostfixFrom_rightParen hr, closeGroup?_append hclosed hl]
  | cons t g ih =>
      rw [List.cons_append]
      rcases t.kind.symbol_or_paren_or_operator with ⟨c, ht⟩ | ht | ht | ht
      · rw [toPostfixFrom_symbol ht] at h ⊢
        obtain ⟨sent, hsent, rfl⟩ := Except.exists_of_map_eq_ok h
        rw [ih hsent, Except.map_comp]
        rfl
      · rw [toPostfixFrom_leftParen ht] at h ⊢
        exact ih h
      · rw [toPostfixFrom_rightParen ht] at h ⊢
        split at h
        · cases h
        · rename_i inner outer hclose
          obtain ⟨sent, hsent, rfl⟩ := Except.exists_of_map_eq_ok h
          -- The group that ends here was opened above the one that the tokens stand in.
          obtain ⟨o, ho, rfl, hinner⟩ := closeGroup?_eq_some hclose
          rw [List.append_assoc, List.cons_append, closeGroup?_append hinner ho]
          show (toPostfixFrom (outer ++ l :: below) (g ++ r :: rest)).map (inner ++ ·) = _
          rw [ih hsent, Except.map_comp]
          simp only [List.append_assoc]
      · rw [toPostfixFrom_operator ht] at h ⊢
        obtain ⟨sent, hsent, rfl⟩ := Except.exists_of_map_eq_ok h
        obtain ⟨htake, hdrop⟩ := span_append_leftParen ht hl stack below
        rw [htake, hdrop]
        show (toPostfixFrom (t :: stack.dropWhile (binds t) ++ l :: below) (g ++ r :: rest)).map
          (stack.takeWhile (binds t) ++ ·) = _
        rw [ih hsent, Except.map_comp]
        simp only [List.append_assoc]

/-- A group sends out the postfix order of its inside, over any stack, and leaves the stack as it
was. A symbol does the same with itself. -/
theorem toPostfixFrom_group (hl : l.kind = .leftParen) (hr : r.kind = .rightParen)
    {g pg : List Token} (hg : toPostfix g = .ok pg) (stack rest : List Token) :
    toPostfixFrom stack (l :: g ++ r :: rest) = (toPostfixFrom stack rest).map (pg ++ ·) := by
  rw [List.cons_append, toPostfixFrom_leftParen hl]
  show toPostfixFrom ([] ++ l :: stack) (g ++ r :: rest) = _
  exact toPostfixFrom_closing hl hr hg stack rest

end

/-! ### Around the group -/

/-- The second list is the first one with the block in place of one token. -/
def Replaced (x : Token) (block out out' : List Token) : Prop :=
  ∃ u v, out = u ++ x :: v ∧ out' = u ++ block ++ v

/-- What is sent out before does not change what is replaced behind it. -/
theorem Replaced.append {x : Token} {block out out' : List Token} (h : Replaced x block out out')
    (sent : List Token) : Replaced x block (sent ++ out) (sent ++ out') := by
  obtain ⟨u, v, rfl, rfl⟩ := h
  exact ⟨sent ++ u, v, by simp, by simp⟩

/-- Two pieces that send something out over any stack, and leave it as it was, can stand in the same
places. The runs differ in what the pieces send out. -/
theorem toPostfixFrom_around {x : Token} {piece piece' block b : List Token}
    (hx : ∀ stack, toPostfixFrom stack (piece ++ b) = (toPostfixFrom stack b).map (x :: ·))
    (hblock : ∀ stack, toPostfixFrom stack (piece' ++ b) = (toPostfixFrom stack b).map (block ++ ·))
    (a stack : List Token) :
    Related Eq (Replaced x block) (toPostfixFrom stack (a ++ (piece ++ b)))
      (toPostfixFrom stack (a ++ (piece' ++ b))) := by
  induction a generalizing stack with
  | nil =>
      rw [List.nil_append, List.nil_append, hx, hblock]
      cases toPostfixFrom stack b with
      | error e => exact .error rfl
      | ok out => exact .ok ⟨[], out, rfl, rfl⟩
  | cons t a ih =>
      rw [List.cons_append, List.cons_append]
      rcases t.kind.symbol_or_paren_or_operator with ⟨c, ht⟩ | ht | ht | ht
      · rw [toPostfixFrom_symbol ht, toPostfixFrom_symbol ht]
        exact (ih stack).map fun _ _ hrest => hrest.append [t]
      · rw [toPostfixFrom_leftParen ht, toPostfixFrom_leftParen ht]
        exact ih (t :: stack)
      · rw [toPostfixFrom_rightParen ht, toPostfixFrom_rightParen ht]
        cases closeGroup? stack with
        | none => exact .error rfl
        | some split => exact (ih split.2).map fun _ _ hrest => hrest.append split.1
      · rw [toPostfixFrom_operator ht, toPostfixFrom_operator ht]
        exact (ih _).map fun _ _ hrest => hrest.append (stack.takeWhile (binds t))

/-- A token that stands in the list once stands in its postfix order once. -/
theorem not_mem_of_toPostfix {a b u v : List Token} {x : Token} (ha : x ∉ a) (hb : x ∉ b)
    (h : toPostfix (a ++ x :: b) = .ok (u ++ x :: v)) : x ∉ u ∧ x ∉ v := by
  have hperm : (u ++ x :: v).Perm (ordered (a ++ x :: b)) := toPostfixFrom_perm h
  have hle : (ordered (a ++ x :: b)).count x ≤ (a ++ x :: b).count x :=
    List.filter_sublist.count_le x
  rw [← hperm.count_eq, List.count_append, List.count_append, List.count_cons_self,
    List.count_cons_self, List.count_eq_zero_of_not_mem ha, List.count_eq_zero_of_not_mem hb] at hle
  rw [← List.count_eq_zero, ← List.count_eq_zero]
  omega

/-- Tokens that can be put into postfix order can stand as a group where a symbol stands. The order
is the same, with the order of the group in one piece in place of the symbol, and if there is none,
it is for the same reason. Nothing is asked of the tokens around the group. -/
theorem toPostfix_group {a b g pg : List Token} {l r x : Token} {c : Char}
    (hg : toPostfix g = .ok pg) (hl : l.kind = .leftParen) (hr : r.kind = .rightParen)
    (hx : x.kind = .symbol c) (ha : x ∉ a) (hb : x ∉ b) :
    (∀ out, toPostfix (a ++ [x] ++ b) = .ok out →
      ∃ u v, out = u ++ [x] ++ v ∧ x ∉ u ∧ x ∉ v ∧
        toPostfix (a ++ [l] ++ g ++ [r] ++ b) = .ok (u ++ pg ++ v)) ∧
    ∀ e, toPostfix (a ++ [x] ++ b) = .error e →
      toPostfix (a ++ [l] ++ g ++ [r] ++ b) = .error e := by
  have hgroup : ∀ stack, toPostfixFrom stack (l :: g ++ [r] ++ b) =
      (toPostfixFrom stack b).map (pg ++ ·) := by
    intro stack
    rw [List.append_assoc]
    exact toPostfixFrom_group hl hr hg stack b
  have hsymbol : ∀ stack, toPostfixFrom stack ([x] ++ b) = (toPostfixFrom stack b).map (x :: ·) :=
    fun stack => toPostfixFrom_symbol hx stack b
  have hrelated := toPostfixFrom_around hsymbol hgroup a []
  have hpiece : a ++ [l] ++ g ++ [r] ++ b = a ++ (l :: g ++ [r] ++ b) := by simp
  rw [hpiece, List.append_assoc a]
  rcases hrelated.exists_or with ⟨out, out', hout, hout', u, v, rfl, rfl⟩ | ⟨e, e', he, he', rfl⟩
  · constructor
    · intro w hw
      cases hout.symm.trans hw
      obtain ⟨hu, hv⟩ := not_mem_of_toPostfix ha hb hout
      exact ⟨u, v, by simp, hu, hv, hout'⟩
    · intro e he
      cases hout.symm.trans he
  · constructor
    · intro w hw
      cases he.symm.trans hw
    · intro e he''
      cases he.symm.trans he''
      exact he'

/-- The group `a|b*` in place of the symbol `x` in `c*|xy.`, whose dot lacks an operand, and behind
a closing parenthesis without a partner. -/
theorem toPostfix_group_of_malformed :
    let g : List Token := [⟨.symbol 'a', 4⟩, ⟨.union, 5⟩, ⟨.symbol 'b', 6⟩, ⟨.star, 7⟩]
    let pg : List Token := [⟨.symbol 'a', 4⟩, ⟨.symbol 'b', 6⟩, ⟨.star, 7⟩, ⟨.union, 5⟩]
    let l : Token := ⟨.leftParen, 3⟩
    let r : Token := ⟨.rightParen, 8⟩
    let x : Token := ⟨.symbol 'x', 3⟩
    let a : List Token := [⟨.symbol 'c', 0⟩, ⟨.star, 1⟩, ⟨.union, 2⟩]
    let b : List Token := [⟨.symbol 'y', 9⟩, ⟨.concat, 10⟩]
    let out : List Token :=
      [⟨.symbol 'c', 0⟩, ⟨.star, 1⟩, x, ⟨.symbol 'y', 9⟩, ⟨.concat, 10⟩, ⟨.union, 2⟩]
    toPostfix g = .ok pg ∧ x ∉ a ∧ x ∉ b ∧ toPostfix (a ++ [x] ++ b) = .ok out ∧
      (∃ u v, out = u ++ [x] ++ v ∧ x ∉ u ∧ x ∉ v ∧
        toPostfix (a ++ [l] ++ g ++ [r] ++ b) = .ok (u ++ pg ++ v)) ∧
      toPostfix ([r] ++ [l] ++ g ++ [r] ++ b) = .error (.unmatchedParenthesis 8) := by
  intro g pg l r x a b out
  have hg : toPostfix g = .ok pg := by decide
  have ha : x ∉ a := by decide
  have hb : x ∉ b := by decide
  have hout : toPostfix (a ++ [x] ++ b) = .ok out := by decide
  obtain ⟨hok, -⟩ := toPostfix_group (l := l) (r := r) (c := 'x') hg rfl rfl rfl ha hb
  obtain ⟨-, herror⟩ := toPostfix_group (a := [r]) (l := l) (r := r) (x := x) (c := 'x') hg rfl rfl
    rfl (by decide) hb
  exact ⟨hg, ha, hb, hout, hok out hout, herror _ (by decide)⟩

end PatternNfa.Token
