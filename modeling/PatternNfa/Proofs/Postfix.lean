import PatternNfa.Proofs.Grammar
import PatternNfa.Token.Postfix

/-!
# `PatternNfa.Proofs.Postfix`: what putting tokens into postfix order does

`Renders` is the grammar of `PatternNfa.Proofs.Grammar` over tokens that write every concatenation
out. It ties the tokens of an expression in infix order to the same tokens in postfix order.
`toPostfix_of_renders` says that the stack of waiting operators computes that order, offsets and
all, whatever parentheses the infix form has. The induction needs to know what is left on the
stack in the middle of a pattern (`Passes`): operators that bind at least as tightly as the level
that was just read, above a stack that binds less.

The rest holds of every token list, well formed or not. What an operator, a closing parenthesis and
the end send out is always free of open groups, so nothing but parentheses is dropped on the way,
and nothing is added (`toPostfixFrom_perm`).
-/

set_option autoImplicit false

namespace PatternNfa

/-- The kinds that wait on the stack for their right operand. -/
def Kind.isOperator : Kind → Bool
  | union | star | concat => true
  | _ => false

/-- How the order treats a kind: as a symbol, as a parenthesis or as an operator. -/
theorem Kind.symbol_or_paren_or_operator (k : Kind) :
    (∃ c, k = symbol c) ∨ k = leftParen ∨ k = rightParen ∨ k.isOperator = true := by
  cases k <;> simp [isOperator]

/-- An operator is no parenthesis. -/
theorem Kind.isParen_of_isOperator : ∀ {k : Kind}, k.isOperator = true → k.isParen = false
  | union, _ | star, _ | concat, _ => rfl

/-- An operator is no symbol. -/
theorem Kind.isSymbol_of_isOperator : ∀ {k : Kind}, k.isOperator = true → k.isSymbol = false
  | union, _ | star, _ | concat, _ => rfl

/-- A parenthesis is no symbol. -/
theorem Kind.isSymbol_of_isParen : ∀ {k : Kind}, k.isParen = true → k.isSymbol = false
  | leftParen, _ => rfl
  | rightParen, _ => rfl

/-- Maps over a result compose. -/
theorem Except.map_comp {ε α β γ : Type} (x : Except ε α) (f : α → β) (g : β → γ) :
    (x.map f).map g = x.map fun a => g (f a) := by
  cases x <;> rfl

/-- A map over a result succeeds only where the result does. -/
theorem Except.exists_of_map_eq_ok {ε α β : Type} {x : Except ε α} {f : α → β} {b : β}
    (h : x.map f = .ok b) : ∃ a, x = .ok a ∧ f a = b := by
  cases x with
  | error e => cases h
  | ok a =>
      cases h
      exact ⟨a, rfl, rfl⟩

namespace Token

/-! ### One token -/

/-- The waiting operator is sent out before `t` begins to wait. -/
def binds (t top : Token) : Bool := decide (t.precedence ≤ top.precedence)

/-- A symbol is sent out at once. -/
theorem toPostfixFrom_symbol {t : Token} {c : Char} (h : t.kind = .symbol c)
    (stack ts : List Token) :
    toPostfixFrom stack (t :: ts) = (toPostfixFrom stack ts).map (t :: ·) := by
  simp only [toPostfixFrom, h]

/-- An opening parenthesis waits on the stack. -/
theorem toPostfixFrom_leftParen {t : Token} (h : t.kind = .leftParen) (stack ts : List Token) :
    toPostfixFrom stack (t :: ts) = toPostfixFrom (t :: stack) ts := by
  simp only [toPostfixFrom, h]

/-- A closing parenthesis sends out what waits in its group, and fails if there is none. -/
theorem toPostfixFrom_rightParen {t : Token} (h : t.kind = .rightParen) (stack ts : List Token) :
    toPostfixFrom stack (t :: ts) =
      match closeGroup? stack with
      | none => .error (.unmatchedParenthesis t.offset)
      | some (inner, outer) => (toPostfixFrom outer ts).map (inner ++ ·) := by
  rcases t with ⟨_, offset⟩
  cases h
  rfl

/-- An operator sends out what binds as tightly or more so, and waits itself. -/
theorem toPostfixFrom_operator {t : Token} (h : t.kind.isOperator = true)
    (stack ts : List Token) :
    toPostfixFrom stack (t :: ts) =
      (toPostfixFrom (t :: stack.dropWhile (binds t)) ts).map
        (stack.takeWhile (binds t) ++ ·) := by
  cases hk : t.kind <;> simp only [hk, Kind.isOperator, Bool.false_eq_true] at h <;>
    simp only [toPostfixFrom, hk] <;> rfl

/-- How tightly a token binds is decided by its kind. -/
theorem precedence_eq {t : Token} {k : Kind} (h : t.kind = k) :
    t.precedence = PatternNfa.precedence k.char := by
  rw [Token.precedence, Token.char, h]

/-- Every operator binds, and so more tightly than an open group. -/
theorem precedence_pos {t : Token} (h : t.kind.isOperator = true) : 0 < t.precedence := by
  rw [precedence_eq rfl]
  cases hk : t.kind <;> simp only [hk, Kind.isOperator, Bool.false_eq_true] at h <;> decide

/-- An opening parenthesis binds less tightly than any operator. -/
theorem precedence_leftParen {t : Token} (h : t.kind = .leftParen) : t.precedence = 0 :=
  precedence_eq h

/-- What binds at all is no opening parenthesis. -/
theorem kind_ne_leftParen {t : Token} (h : 0 < t.precedence) : t.kind ≠ .leftParen := by
  intro hk
  rw [precedence_leftParen hk] at h
  exact Nat.lt_irrefl 0 h

/-! ### The stack -/

/-- A stack without open groups is sent out from top to bottom. -/
theorem flush_of_closed {stack : List Token} (h : ∀ t ∈ stack, t.kind ≠ .leftParen) :
    flush stack = .ok stack := by
  induction stack with
  | nil => rfl
  | cons t stack ih =>
      rw [List.forall_mem_cons] at h
      rw [flush, if_neg h.1, ih h.2]
      rfl

/-- The operators above the last open group are the ones that its end sends out. -/
theorem closeGroup?_append {waiting stack : List Token} {l : Token}
    (h : ∀ t ∈ waiting, t.kind ≠ .leftParen) (hl : l.kind = .leftParen) :
    closeGroup? (waiting ++ l :: stack) = some (waiting, stack) := by
  induction waiting with
  | nil => rw [List.nil_append, closeGroup?, if_pos hl]
  | cons t waiting ih =>
      rw [List.forall_mem_cons] at h
      rw [List.cons_append, closeGroup?, if_neg h.1, ih h.2]
      rfl

/-- The topmost token of a stack, if there is one, binds less tightly than `bound`. -/
def Below (bound : Nat) (stack : List Token) : Prop :=
  ∀ top ∈ stack.head?, top.precedence < bound

/-- What binds less tightly than one bound does so than any greater one. -/
theorem Below.mono {m n : Nat} {stack : List Token} (h : Below m stack) (hmn : m ≤ n) :
    Below n stack :=
  fun top htop => Nat.lt_of_lt_of_le (h top htop) hmn

/-- Only the token on top is looked at. -/
theorem below_cons {bound : Nat} {t : Token} {stack : List Token} (h : t.precedence < bound) :
    Below bound (t :: stack) := by
  intro top htop
  rw [List.head?_cons, Option.mem_some_iff] at htop
  rwa [← htop]

/-- An operator sends out those that wait above a stack that binds less tightly, and no more. -/
theorem span_binds {t : Token} {waiting stack : List Token} (hstack : Below t.precedence stack)
    (hwaiting : ∀ top ∈ waiting, t.precedence ≤ top.precedence) :
    (waiting ++ stack).takeWhile (binds t) = waiting ∧
      (waiting ++ stack).dropWhile (binds t) = stack := by
  have hbinds : ∀ top ∈ waiting, binds t top = true :=
    fun top htop => decide_eq_true (hwaiting top htop)
  rw [List.takeWhile_append_of_pos hbinds, List.dropWhile_append_of_pos hbinds]
  -- The search goes past all that wait and stops at the first token of the stack, if not before.
  cases stack with
  | nil => simp
  | cons top stack =>
      have htop : binds t top = false :=
        decide_eq_false (Nat.not_le_of_lt (hstack top (by simp)))
      simp [htop]

/-! ### A piece of a pattern over a stack -/

/-- What a piece of a pattern does over a stack that binds less tightly than `bound`. It sends out
some tokens and leaves operators waiting that bind at least as tightly. Both together are `out`,
and the stack below is not touched. -/
def Passes (bound : Nat) (ts out : List Token) : Prop :=
  ∀ stack, Below bound stack →
    ∃ sent waiting, out = sent ++ waiting ∧ (∀ t ∈ waiting, bound ≤ t.precedence) ∧
      ∀ rest, toPostfixFrom stack (ts ++ rest) =
        (toPostfixFrom (waiting ++ stack) rest).map (sent ++ ·)

/-- A piece of a pattern does the same over a stack that binds less tightly still. -/
theorem Passes.mono {m n : Nat} {ts out : List Token} (h : Passes n ts out) (hmn : m ≤ n) :
    Passes m ts out := by
  intro stack hstack
  obtain ⟨sent, waiting, hout, hwaiting, hrun⟩ := h stack (hstack.mono hmn)
  exact ⟨sent, waiting, hout, fun t ht => Nat.le_trans hmn (hwaiting t ht), hrun⟩

/-- No tokens do nothing. -/
theorem passes_nil (bound : Nat) : Passes bound [] [] := by
  intro stack _
  refine ⟨[], [], rfl, by simp, fun rest => ?_⟩
  show toPostfixFrom stack rest = (toPostfixFrom stack rest).map id
  cases toPostfixFrom stack rest <;> rfl

/-- A symbol sends out itself. -/
theorem passes_symbol {t : Token} {c : Char} (ht : t.kind = .symbol c) (bound : Nat) :
    Passes bound [t] [t] := by
  intro stack _
  refine ⟨[t], [], rfl, by simp, fun rest => ?_⟩
  rw [List.singleton_append, toPostfixFrom_symbol ht]
  rfl

/-- An operator sends out all that its left side has left, and itself waits below its right
side. -/
theorem Passes.operator {n : Nat} {t : Token} {ts us outl outr : List Token}
    (ht : t.kind.isOperator = true) (hprec : t.precedence = n) (hl : Passes n ts outl)
    (hr : Passes (n + 1) us outr) : Passes n (ts ++ t :: us) (outl ++ outr ++ [t]) := by
  subst hprec
  intro stack hstack
  -- The left side runs over the stack, the right one over the stack with the operator on top.
  obtain ⟨sentl, waitingl, rfl, hwl, hrunl⟩ := hl stack hstack
  obtain ⟨sentr, waitingr, rfl, hwr, hrunr⟩ :=
    hr (t :: stack) (below_cons (Nat.lt_succ_self _))
  obtain ⟨htake, hdrop⟩ := span_binds hstack hwl
  refine ⟨sentl ++ waitingl ++ sentr, waitingr ++ [t], by simp, ?_, fun rest => ?_⟩
  · intro top htop
    cases List.mem_append.mp htop with
    | inl htop => exact Nat.le_of_succ_le (hwr top htop)
    | inr htop => rw [List.mem_singleton.mp htop]
  · rw [List.append_assoc, hrunl, List.cons_append, toPostfixFrom_operator ht, htake, hdrop, hrunr]
    simp only [Except.map_comp, List.append_assoc, List.singleton_append]

/-- A group leaves nothing waiting: its end sends out all that its inside has left. -/
theorem Passes.group {l r : Token} {ts out : List Token} (hl : l.kind = .leftParen)
    (hr : r.kind = .rightParen) (h : Passes 1 ts out) (bound : Nat) :
    Passes bound (l :: ts ++ [r]) out := by
  intro stack _
  -- The opening parenthesis binds less than any operator, so the inside runs above it.
  obtain ⟨sent, waiting, rfl, hw, hrun⟩ :=
    h (l :: stack) (below_cons (by rw [precedence_leftParen hl]; exact Nat.one_pos))
  refine ⟨sent ++ waiting, [], by simp, by simp, fun rest => ?_⟩
  have hclosed : ∀ t ∈ waiting, t.kind ≠ .leftParen := fun t ht => kind_ne_leftParen (hw t ht)
  rw [List.cons_append, List.cons_append, toPostfixFrom_leftParen hl, List.append_assoc, hrun,
    List.singleton_append, toPostfixFrom_rightParen hr, closeGroup?_append hclosed hl]
  simp only [Except.map_comp, List.append_assoc, List.nil_append]

/-- Over the empty stack all that is left waiting follows at the end. -/
theorem Passes.toPostfix {ts out : List Token} (h : Passes 1 ts out) : toPostfix ts = .ok out := by
  obtain ⟨sent, waiting, rfl, hw, hrun⟩ := h [] (by simp [Below])
  have hclosed : ∀ t ∈ waiting, t.kind ≠ .leftParen := fun t ht => kind_ne_leftParen (hw t ht)
  have h := hrun []
  rw [List.append_nil, List.append_nil, toPostfixFrom, flush_of_closed hclosed] at h
  exact h

end Token

/-! ### Well-formed tokens -/

/-- The precedence of the operators that a level of the grammar leaves waiting. -/
def Level.bound : Level → Nat
  | expr => 1
  | term => 2
  | factor => 3
  | atom => 4

/-- The tokens spell an expression with its concatenations written out, and `out` holds the same
tokens, less the parentheses, with each operator behind its operands. -/
inductive Renders : Level → List Token → List Token → Expr → Prop where
  | union {ts us outl outr : List Token} {l r : Expr} {t : Token} :
      Renders .expr ts outl l → t.kind = .union → Renders .term us outr r →
      Renders .expr (ts ++ t :: us) (outl ++ outr ++ [t]) (.union l r)
  | ofTerm {ts out : List Token} {e : Expr} : Renders .term ts out e → Renders .expr ts out e
  | concat {ts us outl outr : List Token} {l r : Expr} {t : Token} :
      Renders .term ts outl l → t.kind = .concat → Renders .factor us outr r →
      Renders .term (ts ++ t :: us) (outl ++ outr ++ [t]) (.concat l r)
  | ofFactor {ts out : List Token} {e : Expr} : Renders .factor ts out e → Renders .term ts out e
  | star {ts out : List Token} {e : Expr} {t : Token} :
      Renders .factor ts out e → t.kind = .star →
      Renders .factor (ts ++ [t]) (out ++ [t]) (.star e)
  | ofAtom {ts out : List Token} {e : Expr} : Renders .atom ts out e → Renders .factor ts out e
  | symbol {t : Token} {c : Char} : t.kind = .symbol c → Renders .atom [t] [t] (.symbol c)
  | group {ts out : List Token} {e : Expr} {l r : Token} :
      l.kind = .leftParen → Renders .expr ts out e → r.kind = .rightParen →
      Renders .atom (l :: ts ++ [r]) out e

namespace Renders

/-- Each level passes over a stack that binds less tightly than its own operators do. -/
theorem passes {level : Level} {ts out : List Token} {e : Expr} (h : Renders level ts out e) :
    Token.Passes level.bound ts out := by
  induction h with
  | union _ ht _ ihl ihr | concat _ ht _ ihl ihr =>
      exact .operator (by rw [ht]; rfl) (Token.precedence_eq ht) ihl ihr
  | star _ ht ih =>
      -- A star is an operator whose right side is empty.
      have hpass := Token.Passes.operator (by rw [ht]; rfl) (Token.precedence_eq ht) ih
        (Token.passes_nil _)
      rwa [List.append_nil] at hpass
  | ofTerm _ ih | ofFactor _ ih | ofAtom _ ih => exact ih.mono (by decide)
  | symbol ht => exact Token.passes_symbol ht _
  | group hl _ hr ih => exact ih.group hl hr _

/-- The order keeps what the tokens are, and it is that of the expression. -/
theorem map_kind {level : Level} {ts out : List Token} {e : Expr} (h : Renders level ts out e) :
    out.map Token.kind = e.postorder := by
  induction h with
  | union _ ht _ ihl ihr | concat _ ht _ ihl ihr =>
      rw [List.map_append, List.map_append, ihl, ihr, List.map_singleton, ht, Expr.postorder]
  | star _ ht ih => rw [List.map_append, ih, List.map_singleton, ht, Expr.postorder]
  | ofTerm _ ih | ofFactor _ ih | ofAtom _ ih => exact ih
  | symbol ht => rw [List.map_singleton, ht, Expr.postorder]
  | group _ _ _ ih => exact ih

end Renders

/-- Putting the tokens of an expression into postfix order gives its tokens in postfix order. -/
theorem toPostfix_of_renders {ts out : List Token} {e : Expr} (h : Renders .expr ts out e) :
    Token.toPostfix ts = .ok out :=
  h.passes.toPostfix

/-! ### Any tokens -/

namespace Token

/-- A group that can be closed was opened, and nothing above its opening opens another. -/
theorem closeGroup?_eq_some {stack inner outer : List Token}
    (h : closeGroup? stack = some (inner, outer)) :
    ∃ l : Token, l.kind = .leftParen ∧ stack = inner ++ l :: outer ∧
      ∀ t ∈ inner, t.kind ≠ .leftParen := by
  induction stack generalizing inner with
  | nil => cases h
  | cons t stack ih =>
      rw [closeGroup?] at h
      split at h
      · rename_i ht
        cases h
        exact ⟨t, ht, rfl, by simp⟩
      · rename_i ht
        obtain ⟨⟨inner', outer'⟩, hrest, heq⟩ := Option.map_eq_some_iff.mp h
        cases heq
        obtain ⟨l, hl, rfl, hinner⟩ := ih hrest
        exact ⟨l, hl, rfl, List.forall_mem_cons.mpr ⟨ht, hinner⟩⟩

/-- A stack that can be sent out whole has no open group. -/
theorem flush_eq_ok {stack out : List Token} (h : flush stack = .ok out) :
    out = stack ∧ ∀ t ∈ stack, t.kind ≠ .leftParen := by
  induction stack generalizing out with
  | nil =>
      cases h
      exact ⟨rfl, by simp⟩
  | cons t stack ih =>
      rw [flush] at h
      split at h
      · cases h
      · rename_i ht
        cases hrest : flush stack with
        | error e =>
            rw [hrest] at h
            cases h
        | ok rest =>
            rw [hrest] at h
            cases h
            obtain ⟨rfl, hclosed⟩ := ih hrest
            exact ⟨rfl, List.forall_mem_cons.mpr ⟨ht, hclosed⟩⟩

/-- The tokens of a pattern that have a place in its postfix order. -/
def ordered (ts : List Token) : List Token := ts.filter fun t => !t.kind.isParen

/-- The tokens of a stack that have a place in the postfix order. -/
def waiting (stack : List Token) : List Token := stack.filter fun t => t.kind ≠ .leftParen

/-- Without an opening parenthesis, the whole stack has a place in the postfix order. -/
theorem waiting_of_closed {stack : List Token} (h : ∀ t ∈ stack, t.kind ≠ .leftParen) :
    waiting stack = stack :=
  List.filter_eq_self.mpr fun t ht => decide_eq_true (h t ht)

/-- An opening parenthesis has no place in the postfix order. -/
theorem waiting_append_leftParen {l : Token} (hl : l.kind = .leftParen) (inner outer : List Token) :
    waiting (inner ++ l :: outer) = waiting inner ++ waiting outer := by
  simp [waiting, hl]

/-- An operator sends nothing out past an open group. -/
theorem kind_ne_leftParen_of_mem_takeWhile {t top : Token} {stack : List Token}
    (ht : t.kind.isOperator = true) (htop : top ∈ stack.takeWhile (binds t)) :
    top.kind ≠ .leftParen := by
  have hbinds : t.precedence ≤ top.precedence :=
    of_decide_eq_true (List.all_eq_true.mp List.all_takeWhile top htop)
  exact kind_ne_leftParen (Nat.lt_of_lt_of_le (precedence_pos ht) hbinds)

/-- What an operator sends out is all waiting, whatever it is. -/
theorem waiting_span {t : Token} (ht : t.kind.isOperator = true) (stack : List Token) :
    waiting stack = stack.takeWhile (binds t) ++ waiting (stack.dropWhile (binds t)) := by
  conv_lhs => rw [← List.takeWhile_append_dropWhile (p := binds t) (l := stack)]
  rw [waiting, List.filter_append]
  exact congrArg (· ++ _)
    (waiting_of_closed fun _ htop => kind_ne_leftParen_of_mem_takeWhile ht htop)

/-- A parenthesis has no place in the postfix order. -/
theorem ordered_cons_paren {t : Token} (ht : t.kind.isParen = true) (ts : List Token) :
    ordered (t :: ts) = ordered ts := by
  simp [ordered, ht]

/-- Everything else has one. -/
theorem ordered_cons {t : Token} (ht : t.kind.isParen = false) (ts : List Token) :
    ordered (t :: ts) = t :: ordered ts := by
  simp [ordered, ht]

/-- Nothing but parentheses is dropped on the way, and nothing is added. -/
theorem toPostfixFrom_perm {ts stack out : List Token} (h : toPostfixFrom stack ts = .ok out) :
    out.Perm (waiting stack ++ ordered ts) := by
  -- Every token changes the stack or the output, so the claim is about all stacks.
  induction ts generalizing stack out with
  | nil =>
      obtain ⟨rfl, hclosed⟩ := flush_eq_ok h
      rw [waiting_of_closed hclosed, ordered, List.filter_nil, List.append_nil]
  | cons t ts ih =>
      rcases t.kind.symbol_or_paren_or_operator with ⟨c, ht⟩ | ht | ht | ht
      · rw [toPostfixFrom_symbol ht] at h
        obtain ⟨rest, hrest, rfl⟩ := Except.exists_of_map_eq_ok h
        rw [ordered_cons (by rw [ht]; rfl)]
        exact ((ih hrest).cons t).trans List.perm_middle.symm
      · rw [toPostfixFrom_leftParen ht] at h
        rw [ordered_cons_paren (by rw [ht]; rfl)]
        have hstack : waiting (t :: stack) = waiting stack :=
          waiting_append_leftParen ht [] stack
        exact hstack ▸ ih h
      · rw [toPostfixFrom_rightParen ht] at h
        rw [ordered_cons_paren (by rw [ht]; rfl)]
        split at h
        · cases h
        · rename_i inner outer hclose
          obtain ⟨rest, hrest, rfl⟩ := Except.exists_of_map_eq_ok h
          obtain ⟨l, hl, rfl, hinner⟩ := closeGroup?_eq_some hclose
          -- The end of a group sends out what is above its opening, and drops both parentheses.
          rw [waiting_append_leftParen hl, waiting_of_closed hinner, List.append_assoc]
          exact (ih hrest).append_left inner
      · rw [toPostfixFrom_operator ht] at h
        obtain ⟨rest, hrest, rfl⟩ := Except.exists_of_map_eq_ok h
        have hstack : waiting (t :: stack.dropWhile (binds t)) =
            t :: waiting (stack.dropWhile (binds t)) := by
          rw [waiting, List.filter_cons_of_pos]
          · rfl
          · exact decide_eq_true (kind_ne_leftParen (precedence_pos ht))
        -- The operator waits itself now, above what it did not send out.
        rw [ordered_cons (Kind.isParen_of_isOperator ht), waiting_span ht, List.append_assoc]
        refine List.Perm.append_left _ ((ih hrest).trans ?_)
        rw [hstack]
        exact List.perm_middle.symm

/-- Postfix order has no parentheses, and no tokens but the ones that were ordered. -/
theorem mem_of_mem_toPostfix {ts out : List Token} {t : Token} (h : toPostfix ts = .ok out)
    (ht : t ∈ out) : t ∈ ts ∧ t.kind.isParen = false := by
  have hmem : t ∈ ordered ts := (toPostfixFrom_perm h).mem_iff.mp ht
  rw [ordered, List.mem_filter] at hmem
  simpa using hmem

end Token

end PatternNfa
