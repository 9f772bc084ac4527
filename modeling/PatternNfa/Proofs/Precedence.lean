import PatternNfa.Proofs.Postfix

/-!
# `PatternNfa.Proofs.Precedence`: the tree behind an infix form

An infix form stands for a tree, and so does a postfix form, which needs no parentheses for it. Here
the tree keeps for each symbol and each operator the token that it was written as (`TokenTree`), so
that nothing of the order of the tokens, nor of their offsets, is left open. `TokenTree.Writes` is
the infix notation: union binds less tightly than concatenation, this less tightly than closure, all
associate to the left, and any part can stand between parentheses, also without need.

`toPostfix_postorder` says that the postfix order of any infix form of a tree is the postorder of
the tree. What carries it is the run over an arbitrary stack (`Token.Passes`), which is shown of the
grammar that forgets the tree and keeps its order (`Renders`); `Writes.renders` leads there.
-/

set_option autoImplicit false

namespace PatternNfa

/-- An expression with the offset of each of its symbols and operators. -/
inductive TokenTree where
  | symbol (c : Char) (offset : Nat)
  | concat (left right : TokenTree) (offset : Nat)
  | union (left right : TokenTree) (offset : Nat)
  | star (inner : TokenTree) (offset : Nat)
deriving DecidableEq, Repr, Inhabited

namespace TokenTree

/-- The expression without the offsets. -/
def expr : TokenTree → Expr
  | symbol c _ => .symbol c
  | concat left right _ => .concat left.expr right.expr
  | union left right _ => .union left.expr right.expr
  | star inner _ => .star inner.expr

/-- The tokens of the tree, each operator behind those of its operands. -/
def postorder : TokenTree → List Token
  | symbol c offset => [⟨.symbol c, offset⟩]
  | concat left right offset => left.postorder ++ right.postorder ++ [⟨.concat, offset⟩]
  | union left right offset => left.postorder ++ right.postorder ++ [⟨.union, offset⟩]
  | star inner offset => inner.postorder ++ [⟨.star, offset⟩]

/-- The tokens are an infix form of the tree, at a level of the grammar. -/
inductive Writes : Level → List Token → TokenTree → Prop where
  | union {ts us : List Token} {l r : TokenTree} {offset : Nat} :
      Writes .expr ts l → Writes .term us r →
      Writes .expr (ts ++ ⟨.union, offset⟩ :: us) (.union l r offset)
  | ofTerm {ts : List Token} {t : TokenTree} : Writes .term ts t → Writes .expr ts t
  | concat {ts us : List Token} {l r : TokenTree} {offset : Nat} :
      Writes .term ts l → Writes .factor us r →
      Writes .term (ts ++ ⟨.concat, offset⟩ :: us) (.concat l r offset)
  | ofFactor {ts : List Token} {t : TokenTree} : Writes .factor ts t → Writes .term ts t
  | star {ts : List Token} {t : TokenTree} {offset : Nat} :
      Writes .factor ts t → Writes .factor (ts ++ [⟨.star, offset⟩]) (.star t offset)
  | ofAtom {ts : List Token} {t : TokenTree} : Writes .atom ts t → Writes .factor ts t
  | symbol {c : Char} {offset : Nat} : Writes .atom [⟨.symbol c, offset⟩] (.symbol c offset)
  | group {ts : List Token} {t : TokenTree} {opening closing : Nat} :
      Writes .expr ts t →
      Writes .atom (⟨.leftParen, opening⟩ :: ts ++ [⟨.rightParen, closing⟩]) t

/-- An infix form of the tree is one of its expression, and has the postorder of the tree. -/
theorem Writes.renders {level : Level} {ts : List Token} {t : TokenTree} (h : Writes level ts t) :
    Renders level ts t.postorder t.expr := by
  induction h with
  | union _ _ ihl ihr => exact .union ihl rfl ihr
  | concat _ _ ihl ihr => exact .concat ihl rfl ihr
  | star _ ih => exact .star ih rfl
  | ofTerm _ ih => exact .ofTerm ih
  | ofFactor _ ih => exact .ofFactor ih
  | ofAtom _ ih => exact .ofAtom ih
  | symbol => exact .symbol rfl
  | group _ ih => exact .group rfl ih rfl

/-- Every tree has an infix form, if only one with a group around every operator. -/
theorem exists_writes (t : TokenTree) : ∃ ts, Writes .atom ts t := by
  induction t with
  | symbol c offset => exact ⟨_, .symbol⟩
  | concat left right offset ihl ihr =>
      obtain ⟨ts, hl⟩ := ihl
      obtain ⟨us, hr⟩ := ihr
      have h : Writes .term _ (.concat left right offset) :=
        .concat (.ofFactor (.ofAtom hl)) (.ofAtom hr)
      exact ⟨_, @Writes.group _ _ offset offset (.ofTerm h)⟩
  | union left right offset ihl ihr =>
      obtain ⟨ts, hl⟩ := ihl
      obtain ⟨us, hr⟩ := ihr
      have h : Writes .expr _ (.union left right offset) :=
        .union (.ofTerm (.ofFactor (.ofAtom hl))) (.ofFactor (.ofAtom hr))
      exact ⟨_, @Writes.group _ _ offset offset h⟩
  | star inner offset ih =>
      obtain ⟨ts, hi⟩ := ih
      have h : Writes .factor _ (.star inner offset) := .star (.ofAtom hi)
      exact ⟨_, @Writes.group _ _ offset offset (.ofTerm (.ofFactor h))⟩

/-- A tree has infix forms, and putting any of them into postfix order gives the tokens of the tree
in postorder: none is lost, none is added, and each keeps its offset. -/
theorem toPostfix_postorder (t : TokenTree) :
    (∃ ts, Writes .expr ts t) ∧ ∀ ts, Writes .expr ts t → Token.toPostfix ts = .ok t.postorder := by
  constructor
  · obtain ⟨ts, h⟩ := t.exists_writes
    exact ⟨ts, .ofTerm (.ofFactor (.ofAtom h))⟩
  · intro ts h
    exact toPostfix_of_renders h.renders

/-- The text is `((a)|*)*.c`, with a star that is a symbol and with offsets in no order. -/
theorem toPostfix_postorder_of_group :
    let ts : List Token :=
      [⟨.leftParen, 3⟩, ⟨.leftParen, 3⟩, ⟨.symbol 'a', 7⟩, ⟨.rightParen, 8⟩, ⟨.union, 5⟩,
        ⟨.symbol '*', 2⟩, ⟨.rightParen, 4⟩, ⟨.star, 0⟩, ⟨.concat, 1⟩, ⟨.symbol 'c', 9⟩]
    let t : TokenTree :=
      .concat (.star (.union (.symbol 'a' 7) (.symbol '*' 2) 5) 0) (.symbol 'c' 9) 1
    Writes .expr ts t ∧ Token.toPostfix ts =
      .ok [⟨.symbol 'a', 7⟩, ⟨.symbol '*', 2⟩, ⟨.union, 5⟩, ⟨.star, 0⟩, ⟨.symbol 'c', 9⟩,
        ⟨.concat, 1⟩] := by
  intro ts t
  have ha : Writes .atom [⟨.symbol 'a', 7⟩] (.symbol 'a' 7) := .symbol
  have hgroup : Writes .term [⟨.leftParen, 3⟩, ⟨.symbol 'a', 7⟩, ⟨.rightParen, 8⟩]
      (.symbol 'a' 7) := .ofFactor (.ofAtom (.group (.ofTerm (.ofFactor (.ofAtom ha)))))
  have hsymbol : Writes .term [⟨.symbol '*', 2⟩] (.symbol '*' 2) := .ofFactor (.ofAtom .symbol)
  have hunion := @Writes.union _ _ _ _ 5 (.ofTerm hgroup) hsymbol
  have hstar := @Writes.star _ _ 0 (.ofAtom (@Writes.group _ _ 3 4 hunion))
  have h : Writes .expr ts t := .ofTerm (.concat (.ofFactor hstar) (.ofAtom .symbol))
  exact ⟨h, t.toPostfix_postorder.2 ts h⟩

end TokenTree

end PatternNfa
