import PatternNfa.Proofs.Reading

/-!
# `PatternNfa.Proofs.Parentheses`: parentheses and their partners

Reading from left to right, every parenthesis changes the number of open groups by one. A closing
one without a partner is found at once, where no group is open. An opening one without a partner is
found at the end, and then it is the last of them: what stands behind it closes every group that it
opens, and no other (`Token.Unmatched`).

Putting tokens into postfix order keeps the open groups on the stack. It fails exactly where the
parentheses do not match, and over that parenthesis (`toPostfixFrom_byParentheses`). This holds of
every token list. Only parentheses count, so nothing changes when concatenations are spelt out or
other tokens are left away (`depthAfter_filter`, `Unmatched.filter`).
-/

set_option autoImplicit false

namespace PatternNfa

/-! ### Open groups in a text -/

/-- The number of groups that are open after the characters if `n` are open before them, unless one
is closed that was not open. -/
def openAfter : Nat → List Char → Option Nat
  | n, [] => some n
  | n, c :: cs =>
      if c = '(' then openAfter (n + 1) cs
      else if c = ')' then
        if n = 0 then none else openAfter (n - 1) cs
      else openAfter n cs

/-- What is no parenthesis leaves the number of open groups as it is. -/
theorem openAfter_cons_of_ne {c : Char} (hleft : c ≠ '(') (hright : c ≠ ')') (n : Nat)
    (cs : List Char) : openAfter n (c :: cs) = openAfter n cs := by
  rw [openAfter, if_neg hleft, if_neg hright]

/-- An opening parenthesis opens one group more. -/
theorem openAfter_leftParen (n : Nat) (cs : List Char) :
    openAfter n ('(' :: cs) = openAfter (n + 1) cs := by
  rw [openAfter, if_pos rfl]

/-- A closing parenthesis closes one group. -/
theorem openAfter_rightParen (n : Nat) (cs : List Char) :
    openAfter (n + 1) (')' :: cs) = openAfter n cs := by
  rw [openAfter, if_neg (by decide), if_pos rfl, if_neg (Nat.succ_ne_zero n), Nat.add_sub_cancel]

/-- A closing parenthesis needs an open group. -/
theorem openAfter_rightParen_zero (cs : List Char) : openAfter 0 (')' :: cs) = none := by
  rw [openAfter, if_neg (by decide), if_pos rfl, if_pos rfl]

namespace Token

/-- A token that is no parenthesis is not written as one, so it opens and closes nothing. -/
theorem openAfter_cons_of_not_paren {explicitConcat : Bool} {t : Token}
    (h : Spelt explicitConcat t) (hparen : t.kind.isParen = false) (n : Nat) (cs : List Char) :
    openAfter n (t.char :: cs) = openAfter n cs := by
  apply openAfter_cons_of_ne
  · intro hc
    rw [kind_of_char (k := .leftParen) h rfl hc] at hparen
    cases hparen
  · intro hc
    rw [kind_of_char (k := .rightParen) h rfl hc] at hparen
    cases hparen

/-! ### Open groups among tokens -/

/-- The number of groups that are open after the tokens if `n` are open before them, unless one is
closed that was not open. The kinds count, whatever character a symbol holds. -/
def depthAfter : Nat → List Token → Option Nat
  | n, [] => some n
  | n, t :: ts =>
      if t.kind = .leftParen then depthAfter (n + 1) ts
      else if t.kind = .rightParen then
        if n = 0 then none else depthAfter (n - 1) ts
      else depthAfter n ts

section

variable {t : Token}

/-- An opening parenthesis opens one group more. -/
theorem depthAfter_leftParen (ht : t.kind = .leftParen) (n : Nat) (ts : List Token) :
    depthAfter n (t :: ts) = depthAfter (n + 1) ts := by
  rw [depthAfter, if_pos ht]

/-- A closing parenthesis closes one group. -/
theorem depthAfter_rightParen (ht : t.kind = .rightParen) (n : Nat) (ts : List Token) :
    depthAfter (n + 1) (t :: ts) = depthAfter n ts := by
  rw [depthAfter, ht, if_neg (by decide), if_pos rfl, if_neg (Nat.succ_ne_zero n),
    Nat.add_sub_cancel]

/-- A closing parenthesis fails where no group is open. -/
theorem depthAfter_rightParen_zero (ht : t.kind = .rightParen) (ts : List Token) :
    depthAfter 0 (t :: ts) = none := by
  rw [depthAfter, ht, if_neg (by decide), if_pos rfl, if_pos rfl]

/-- A token that is no parenthesis leaves the depth as it is. -/
theorem depthAfter_of_not_paren (ht : t.kind.isParen = false) (n : Nat) (ts : List Token) :
    depthAfter n (t :: ts) = depthAfter n ts := by
  rw [depthAfter, if_neg, if_neg]
  · intro h
    rw [h] at ht
    cases ht
  · intro h
    rw [h] at ht
    cases ht

end

/-- The depth after two lists is the depth after the second one, from where the first one ended. -/
theorem depthAfter_append (n : Nat) (us vs : List Token) :
    depthAfter n (us ++ vs) = (depthAfter n us).bind fun m => depthAfter m vs := by
  induction us generalizing n with
  | nil => rfl
  | cons t us ih =>
      rw [List.cons_append, depthAfter, depthAfter, ih, ih, ih]
      split
      · rfl
      · split
        · split <;> rfl
        · rfl

/-- Among the tokens of a text the same groups are open as in the text. -/
theorem openAfter_map_char {explicitConcat : Bool} {ts : List Token}
    (h : ∀ t ∈ ts, Spelt explicitConcat t) (n : Nat) :
    openAfter n (ts.map char) = depthAfter n ts := by
  induction ts generalizing n with
  | nil => rfl
  | cons t ts ih =>
      rw [List.forall_mem_cons] at h
      have hleft : t.char = '(' ↔ t.kind = .leftParen :=
        ⟨kind_of_char (k := .leftParen) h.1 rfl, congrArg Kind.char⟩
      have hright : t.char = ')' ↔ t.kind = .rightParen :=
        ⟨kind_of_char (k := .rightParen) h.1 rfl, congrArg Kind.char⟩
      rw [List.map_cons, openAfter, depthAfter, ih h.2, ih h.2, ih h.2]
      simp only [hleft, hright]

/-- Tokens that are no parentheses can be left away. -/
theorem depthAfter_filter {p : Token → Bool} (hp : ∀ t : Token, t.kind.isParen = true → p t = true)
    (ts : List Token) (n : Nat) : depthAfter n (ts.filter p) = depthAfter n ts := by
  induction ts generalizing n with
  | nil => rfl
  | cons t ts ih =>
      cases ht : p t with
      | true => rw [List.filter_cons_of_pos ht, depthAfter, depthAfter, ih, ih, ih]
      | false =>
          have hparen : t.kind.isParen = false := by
            apply Bool.eq_false_of_not_eq_true
            intro h
            rw [hp t h] at ht
            cases ht
          rw [List.filter_cons_of_neg (by rw [ht]; exact Bool.false_ne_true), ih,
            depthAfter_of_not_paren hparen]

/-- The number of open groups on a stack. -/
def groups (stack : List Token) : Nat := stack.countP fun t => t.kind = .leftParen

/-- A stack without opening parentheses has no open groups. -/
theorem groups_of_closed {stack : List Token} (h : ∀ t ∈ stack, t.kind ≠ .leftParen) :
    groups stack = 0 := by
  rw [groups, List.countP_eq_zero]
  intro t ht
  simpa using h t ht

/-- The open groups of two parts of a stack add up. -/
theorem groups_append (inner outer : List Token) :
    groups (inner ++ outer) = groups inner + groups outer :=
  List.countP_append

/-- An opening parenthesis on top is one open group more. -/
theorem groups_cons_leftParen {l : Token} (hl : l.kind = .leftParen) (stack : List Token) :
    groups (l :: stack) = groups stack + 1 := by
  simp [groups, hl]

/-- What is no opening parenthesis opens no group. -/
theorem groups_cons_of_ne {t : Token} (ht : t.kind ≠ .leftParen) (stack : List Token) :
    groups (t :: stack) = groups stack := by
  simp [groups, ht]

/-- A closing group takes the innermost group from the stack. -/
theorem groups_closeGroup {l : Token} {inner : List Token} (hl : l.kind = .leftParen)
    (hinner : ∀ t ∈ inner, t.kind ≠ .leftParen) (outer : List Token) :
    groups (inner ++ l :: outer) = groups outer + 1 := by
  rw [groups_append, groups_of_closed hinner, groups_cons_leftParen hl, Nat.zero_add]

/-- An operator sends out no group. -/
theorem groups_takeWhile_append {t : Token} (ht : t.kind.isOperator = true)
    (stack rest : List Token) : groups (stack.takeWhile (binds t) ++ rest) = groups rest := by
  rw [groups_append, groups_of_closed fun _ => kind_ne_leftParen_of_mem_takeWhile ht, Nat.zero_add]

/-- A stack with no group is flushed. -/
theorem flush_cases (stack : List Token) :
    (groups stack = 0 ∧ ∃ out, flush stack = .ok out) ∨
      ∃ inner t outer, stack = inner ++ t :: outer ∧ t.kind = .leftParen ∧ groups inner = 0 ∧
        flush stack = .error (.unmatchedParenthesis t.offset) := by
  induction stack with
  | nil => exact .inl ⟨rfl, [], rfl⟩
  | cons t stack ih =>
      by_cases ht : t.kind = .leftParen
      · exact .inr ⟨[], t, stack, rfl, ht, rfl, by rw [flush, if_pos ht]⟩
      · rw [flush, if_neg ht, groups_cons_of_ne ht]
        rcases ih with ⟨hgroups, out, hout⟩ | ⟨inner, l, outer, rfl, hl, hinner, herror⟩
        · exact .inl ⟨hgroups, t :: out, by rw [hout]; rfl⟩
        · refine .inr ⟨t :: inner, l, outer, rfl, hl, ?_, by rw [herror]; rfl⟩
          rw [groups_cons_of_ne ht, hinner]

/-- A stack with no group closes none. -/
theorem groups_of_closeGroup?_eq_none {stack : List Token} (h : closeGroup? stack = none) :
    groups stack = 0 := by
  induction stack with
  | nil => rfl
  | cons t stack ih =>
      rw [closeGroup?] at h
      split at h
      · cases h
      · rename_i ht
        rw [groups_cons_of_ne ht]
        exact ih (Option.map_eq_none_iff.mp h)

/-! ### Parentheses without partners -/

/-- The parenthesis that is found to have no partner when the tokens are read over a stack. -/
inductive UnmatchedFrom (stack : List Token) : List Token → Token → Prop where
  /-- No group is open where it closes one. -/
  | closing {u v : List Token} {t : Token} :
      t.kind = .rightParen → depthAfter (groups stack) u = some 0 →
      UnmatchedFrom stack (u ++ t :: v) t
  /-- What stands behind it closes all groups of its own, and no other. -/
  | opening {u v : List Token} {t : Token} {n : Nat} :
      t.kind = .leftParen → depthAfter (groups stack) u = some n → depthAfter 0 v = some 0 →
      UnmatchedFrom stack (u ++ t :: v) t
  /-- It is on the stack, and the tokens close all groups above it, and no other. -/
  | waiting {inner outer ts : List Token} {t : Token} :
      t.kind = .leftParen → stack = inner ++ t :: outer → depthAfter (groups inner) ts = some 0 →
      UnmatchedFrom stack ts t

/-- The parenthesis that is found to have no partner: the first closing one without a partner, or
the last opening one if all closing ones have partners. -/
abbrev Unmatched (ts : List Token) (t : Token) : Prop := UnmatchedFrom [] ts t

/-- The result of putting tokens into postfix order over a stack is what the parentheses make it: a
success if the tokens close all groups, those on the stack too, and no other, and otherwise an error
over the parenthesis without a partner. -/
inductive ByParentheses (stack ts : List Token) : Except ParseError (List Token) → Prop where
  | ok {out : List Token} :
      depthAfter (groups stack) ts = some 0 → ByParentheses stack ts (.ok out)
  | error {t : Token} :
      UnmatchedFrom stack ts t → ByParentheses stack ts (.error (.unmatchedParenthesis t.offset))

/-- A token in front changes the stack and sends something out. A parenthesis that is found to have
no partner behind it is the one that is found altogether, also if it was still on the stack. -/
theorem ByParentheses.cons {stack stack' ts : List Token} {h : Token}
    {result : Except ParseError (List Token)} {send : List Token → List Token}
    (hdepth : ∀ us, depthAfter (groups stack) (h :: us) = depthAfter (groups stack') us)
    (hwaiting : ∀ t inner outer, t.kind = .leftParen → stack' = inner ++ t :: outer →
      depthAfter (groups inner) ts = some 0 → UnmatchedFrom stack (h :: ts) t)
    (hresult : ByParentheses stack' ts result) :
    ByParentheses stack (h :: ts) (result.map send) := by
  cases hresult with
  | ok hclosed => exact .ok ((hdepth ts).trans hclosed)
  | error ht =>
      refine .error ?_
      cases ht with
      | @closing u _ _ ht hu => exact .closing (u := h :: u) ht ((hdepth u).trans hu)
      | @opening u _ _ n ht hu hv => exact .opening (u := h :: u) ht ((hdepth u).trans hu) hv
      | waiting ht hstack hts => exact hwaiting _ _ _ ht hstack hts

/-- At the end the groups on the stack are without partners, the innermost one first. -/
theorem byParentheses_flush (stack : List Token) : ByParentheses stack [] (flush stack) := by
  rcases flush_cases stack with ⟨hgroups, out, hout⟩ | ⟨inner, t, outer, hstack, ht, hinner, herror⟩
  · rw [hout]
    exact .ok (congrArg some hgroups)
  · rw [herror]
    exact .error (.waiting ht hstack (congrArg some hinner))

/-- Whether tokens can be put into postfix order is decided by their parentheses. -/
theorem toPostfixFrom_byParentheses (stack ts : List Token) :
    ByParentheses stack ts (toPostfixFrom stack ts) := by
  induction ts generalizing stack with
  | nil => exact byParentheses_flush stack
  | cons h ts ih =>
      rcases h.kind.symbol_or_paren_or_operator with ⟨c, hk⟩ | hk | hk | hk
      · rw [toPostfixFrom_symbol hk]
        have hskip := depthAfter_of_not_paren (t := h) (by rw [hk]; rfl)
        refine (ih stack).cons (hskip _) fun t inner outer ht hstack hts => ?_
        exact .waiting ht hstack ((hskip _ _).trans hts)
      · have hid : toPostfixFrom (h :: stack) ts = (toPostfixFrom (h :: stack) ts).map id := by
          cases toPostfixFrom (h :: stack) ts <;> rfl
        rw [toPostfixFrom_leftParen hk, hid]
        refine (ih (h :: stack)).cons ?_ fun t inner outer ht hstack hts => ?_
        · intro us
          rw [depthAfter_leftParen hk, groups_cons_leftParen hk]
        · -- The group is the one without a partner, or it is above that one and closed.
          rcases List.cons_eq_append_iff.mp hstack with ⟨rfl, heq⟩ | ⟨inner, rfl, rfl⟩
          · cases heq
            exact .opening (u := []) hk rfl hts
          · rw [groups_cons_leftParen hk] at hts
            exact .waiting ht rfl ((depthAfter_leftParen hk _ _).trans hts)
      · rw [toPostfixFrom_rightParen hk]
        split
        · rename_i hclose
          have hgroups := groups_of_closeGroup?_eq_none hclose
          exact .error (.closing (u := []) hk (congrArg some hgroups))
        · rename_i above below hclose
          obtain ⟨l, hl, rfl, habove⟩ := closeGroup?_eq_some hclose
          refine (ih below).cons ?_ fun t inner outer ht hstack hts => ?_
          · intro us
            rw [groups_closeGroup hl habove, depthAfter_rightParen hk]
          · -- The group that is closed here is above the one without a partner.
            subst hstack
            have hsplit :
                above ++ l :: (inner ++ t :: outer) = (above ++ l :: inner) ++ t :: outer := by
              rw [List.append_assoc, List.cons_append]
            refine .waiting ht hsplit ?_
            rw [groups_closeGroup hl habove, depthAfter_rightParen hk]
            exact hts
      · rw [toPostfixFrom_operator hk]
        have hskip := depthAfter_of_not_paren (Kind.isParen_of_isOperator hk)
        have hne : h.kind ≠ .leftParen := kind_ne_leftParen (precedence_pos hk)
        refine (ih _).cons ?_ fun t inner outer ht hstack hts => ?_
        · intro us
          have hgroups := groups_takeWhile_append hk stack (stack.dropWhile (binds h))
          rw [List.takeWhile_append_dropWhile] at hgroups
          rw [hskip, groups_cons_of_ne hne, hgroups]
        · -- The operator is no group, so the one without a partner is in what it did not send out.
          rcases List.cons_eq_append_iff.mp hstack with ⟨rfl, heq⟩ | ⟨inner, rfl, hdrop⟩
          · cases heq
            exact absurd ht hne
          · have hsplit : stack = (stack.takeWhile (binds h) ++ inner) ++ t :: outer := by
              rw [List.append_assoc, ← hdrop, List.takeWhile_append_dropWhile]
            refine .waiting ht hsplit ?_
            rw [groups_takeWhile_append hk, hskip]
            rwa [groups_cons_of_ne hne] at hts

/-- Tokens that can be put into postfix order close all groups that they open, and no other. -/
theorem depthAfter_of_toPostfix {ts out : List Token} (h : toPostfix ts = .ok out) :
    depthAfter 0 ts = some 0 := by
  have hcases := toPostfixFrom_byParentheses [] ts
  rw [show toPostfixFrom [] ts = .ok out from h] at hcases
  cases hcases with
  | ok hclosed => exact hclosed

/-- Tokens that cannot be put into postfix order have a parenthesis without a partner. -/
theorem unmatched_of_toPostfix {ts : List Token} {cause : ParseError}
    (h : toPostfix ts = .error cause) :
    ∃ t, Unmatched ts t ∧ cause = .unmatchedParenthesis t.offset := by
  have hcases := toPostfixFrom_byParentheses [] ts
  rw [show toPostfixFrom [] ts = .error cause from h] at hcases
  cases hcases with
  | @error t ht => exact ⟨t, ht, rfl⟩

/-- The parenthesis without a partner is one of the tokens. -/
theorem UnmatchedFrom.mem {ts : List Token} {t : Token} (h : Unmatched ts t) :
    t ∈ ts ∧ t.kind.isParen = true := by
  cases h with
  | closing ht | opening ht => exact ⟨by simp, by rw [ht]; rfl⟩
  | waiting _ hstack _ => exact absurd hstack.symm (by simp)

/-- Tokens that are no parentheses can be left away. -/
theorem Unmatched.filter {p : Token → Bool} (hp : ∀ t : Token, t.kind.isParen = true → p t = true)
    {ts : List Token} {t : Token} (h : Unmatched ts t) : Unmatched (ts.filter p) t := by
  cases h with
  | @closing u v _ ht hu =>
      have hpt : p t = true := hp t (by rw [ht]; rfl)
      rw [List.filter_append, List.filter_cons_of_pos hpt]
      exact .closing ht ((depthAfter_filter hp u _).trans hu)
  | @opening u v _ n ht hu hv =>
      have hpt : p t = true := hp t (by rw [ht]; rfl)
      rw [List.filter_append, List.filter_cons_of_pos hpt]
      exact .opening ht ((depthAfter_filter hp u _).trans hu) ((depthAfter_filter hp v _).trans hv)
  | waiting _ hstack _ => exact absurd hstack.symm (by simp)

/-! ### Spelt-out concatenations -/

/-- A parenthesis is no concatenation. -/
theorem ne_concat_of_isParen (t : Token) (ht : t.kind.isParen = true) :
    decide (t.kind ≠ .concat) = true := by
  apply decide_eq_true
  intro hconcat
  rw [hconcat] at ht
  cases ht

/-- Concatenations that are spelt out can be left away again. -/
theorem filter_expand (ts : List Token) :
    (expand ts).filter (·.kind ≠ .concat) = ts.filter (·.kind ≠ .concat) := by
  induction ts with
  | nil => rfl
  | cons t ts ih =>
      cases ts with
      | nil => rfl
      | cons u us =>
          have hbetween : (between t u).filter (·.kind ≠ .concat) = [] := by
            rw [between]
            split <;> rfl
          rw [expand_cons_cons, ← List.singleton_append, List.filter_append, List.filter_append,
            hbetween, ih, List.append_nil, ← List.filter_append, List.singleton_append]

/-- Spelling out changes no depth, since it adds no parentheses. -/
theorem depthAfter_expand (ts : List Token) (n : Nat) :
    depthAfter n (expand ts) = depthAfter n ts := by
  rw [← depthAfter_filter ne_concat_of_isParen, filter_expand,
    depthAfter_filter ne_concat_of_isParen]

/-- A pattern whose tokens can be put into postfix order closes all groups that it opens. -/
theorem openAfter_of_toPostfix_expand {explicitConcat : Bool} {ts out : List Token}
    (hspelt : ∀ t ∈ ts, Spelt explicitConcat t) (h : toPostfix (expand ts) = .ok out) :
    openAfter 0 (ts.map char) = some 0 := by
  rw [openAfter_map_char hspelt, ← depthAfter_expand]
  exact depthAfter_of_toPostfix h

end Token

end PatternNfa
