import PatternNfa.Proofs.Parentheses

/-!
# `PatternNfa.Proofs.Partners`: which parentheses belong together

Two parentheses are partners if what stands between them is balanced, and balanced is what is put
together from groups (`Token.Balanced`). That says nothing about reading from left to right, nor
about counting. A closing parenthesis finds its partner among the tokens before it
(`Token.HasOpening`), an opening one among those after it (`Token.HasClosing`).

Counting finds the same partners. Tokens that leave groups open are balanced pieces with opening
parentheses between them (`Token.Opens`), and tokens that close groups which were open before are
balanced pieces with closing ones between them (`Token.Closes`). So the tokens are balanced exactly
if the count comes back to nothing (`Token.balanced_iff`), and the parenthesis that the count finds
to be unmatched is the first closing one without a partner, or the last opening one
(`Token.Unpaired.of_unmatched`). There is only one such parenthesis (`Token.Unpaired.unique`).
-/

set_option autoImplicit false

namespace PatternNfa

/-- A kind is one of the two parentheses or neither. -/
theorem Kind.paren_cases (k : Kind) : k = leftParen ∨ k = rightParen ∨ k.isParen = false := by
  cases k <;> simp [isParen]

namespace Token

/-- Every group that the tokens open is closed again, and no other is. -/
inductive Balanced : List Token → Prop where
  | nil : Balanced []
  | other {t : Token} {ts : List Token} : t.kind.isParen = false → Balanced ts → Balanced (t :: ts)
  | group {l r : Token} {ts us : List Token} :
      l.kind = .leftParen → Balanced ts → r.kind = .rightParen → Balanced us →
      Balanced (l :: ts ++ r :: us)

/-- A closing parenthesis behind the tokens has its partner among them. -/
def HasOpening (before : List Token) : Prop :=
  ∃ outer l inner, before = outer ++ l :: inner ∧ l.kind = .leftParen ∧ Balanced inner

/-- An opening parenthesis in front of the tokens has its partner among them. -/
def HasClosing (after : List Token) : Prop :=
  ∃ inner r outer, after = inner ++ r :: outer ∧ r.kind = .rightParen ∧ Balanced inner

/-- Every closing parenthesis of the tokens has a partner. -/
def ClosingsPaired (ts : List Token) : Prop :=
  ∀ u r v, ts = u ++ r :: v → r.kind = .rightParen → HasOpening u

/-- Every opening parenthesis of the tokens has a partner. -/
def OpeningsPaired (ts : List Token) : Prop :=
  ∀ u l v, ts = u ++ l :: v → l.kind = .leftParen → HasClosing v

/-- The parenthesis without a partner that counts: the first closing one, or, if all closing ones
have partners, the last opening one. -/
inductive Unpaired (ts : List Token) : Token → Prop where
  | closing {u v : List Token} {t : Token} :
      ts = u ++ t :: v → t.kind = .rightParen → ¬ HasOpening u → ClosingsPaired u → Unpaired ts t
  | opening {u v : List Token} {t : Token} :
      ClosingsPaired ts → ts = u ++ t :: v → t.kind = .leftParen → ¬ HasClosing v →
      OpeningsPaired v → Unpaired ts t

/-! ### Balanced tokens -/

/-- Groups that are closed can be followed by others. -/
theorem Balanced.append {ts us : List Token} (ht : Balanced ts) (hu : Balanced us) :
    Balanced (ts ++ us) := by
  induction ht with
  | nil => exact hu
  | other hk _ ih => exact .other hk ih
  | group hl h hr _ _ ih =>
      rw [List.append_assoc, List.cons_append]
      exact .group hl h hr ih

/-- Balanced tokens leave as many groups open as there were. -/
theorem Balanced.depthAfter_eq {ts : List Token} (h : Balanced ts) (n : Nat) :
    depthAfter n ts = some n := by
  induction h generalizing n with
  | nil => rfl
  | other hk _ ih => rw [depthAfter_of_not_paren hk, ih]
  | group hl _ hr _ iht ihu =>
      rw [List.cons_append, depthAfter_leftParen hl, depthAfter_append, iht, Option.bind_some,
        depthAfter_rightParen hr, ihu]

/-! ### Open groups and their tokens -/

/-- The tokens open `n` groups that they do not close, and are balanced between them. -/
inductive Opens : Nat → List Token → Prop where
  | balanced {ts : List Token} : Balanced ts → Opens 0 ts
  | group {n : Nat} {outer inner : List Token} {l : Token} :
      Opens n outer → l.kind = .leftParen → Balanced inner → Opens (n + 1) (outer ++ l :: inner)

/-- The tokens close `n` groups that they did not open, and are balanced between them. -/
inductive Closes : Nat → List Token → Prop where
  | balanced {ts : List Token} : Balanced ts → Closes 0 ts
  | group {n : Nat} {inner outer : List Token} {r : Token} :
      Balanced inner → r.kind = .rightParen → Closes n outer → Closes (n + 1) (inner ++ r :: outer)

/-- Balanced tokens behind the last open group belong to it. -/
theorem Opens.append {n : Nat} {ts us : List Token} (ht : Opens n ts) (hu : Balanced us) :
    Opens n (ts ++ us) := by
  cases ht with
  | balanced h => exact .balanced (h.append hu)
  | group ho hl hi =>
      rw [List.append_assoc, List.cons_append]
      exact .group ho hl (hi.append hu)

/-- Balanced tokens in front close nothing that they did not open. -/
theorem Closes.append {n : Nat} {ts us : List Token} (ht : Balanced ts) (hu : Closes n us) :
    Closes n (ts ++ us) := by
  cases hu with
  | balanced h => exact .balanced (ht.append h)
  | group hi hr ho =>
      rw [← List.append_assoc]
      exact .group (ht.append hi) hr ho

/-- Tokens after which `n` groups are open have opened them. -/
theorem opens_of_depthAfter {ts : List Token} {n : Nat} (h : depthAfter 0 ts = some n) :
    Opens n ts := by
  -- A closing parenthesis closes the group that was opened last, so the tokens are taken off from
  -- the end.
  induction ts using List.reverseRecOn generalizing n with
  | nil =>
      cases h
      exact .balanced .nil
  | append_singleton u t ih =>
      rw [depthAfter_append] at h
      obtain ⟨m, hm, hlast⟩ := Option.bind_eq_some_iff.mp h
      rcases t.kind.paren_cases with ht | ht | ht
      · rw [depthAfter_leftParen ht] at hlast
        cases hlast
        exact .group (ih hm) ht .nil
      · cases m with
        | zero =>
            rw [depthAfter_rightParen_zero ht] at hlast
            cases hlast
        | succ m =>
            rw [depthAfter_rightParen ht] at hlast
            cases hlast
            cases ih hm with
            | group ho hl hi =>
                rw [List.append_assoc]
                exact ho.append (.group hl hi ht .nil)
      · rw [depthAfter_of_not_paren ht] at hlast
        cases hlast
        exact (ih hm).append (.other ht .nil)

/-- Tokens after which none of `n` open groups is open close them. -/
theorem closes_of_depthAfter {ts : List Token} {n : Nat} (h : depthAfter n ts = some 0) :
    Closes n ts := by
  induction ts generalizing n with
  | nil =>
      cases h
      exact .balanced .nil
  | cons t ts ih =>
      rcases t.kind.paren_cases with ht | ht | ht
      · rw [depthAfter_leftParen ht] at h
        -- The group that is opened here is the first one that the rest closes.
        cases ih h with
        | @group _ inner outer r hi hr ho =>
            have hgroup : Balanced (t :: inner ++ [r]) := .group ht hi hr .nil
            have hclose := Closes.append hgroup ho
            rwa [List.append_assoc] at hclose
      · cases n with
        | zero =>
            rw [depthAfter_rightParen_zero ht] at h
            cases h
        | succ n =>
            rw [depthAfter_rightParen ht] at h
            exact .group .nil ht (ih h)
      · rw [depthAfter_of_not_paren ht] at h
        exact Closes.append (.other ht .nil) (ih h)

/-- Tokens are balanced exactly if no group is open after them and none was closed too many. -/
theorem balanced_iff (ts : List Token) : Balanced ts ↔ depthAfter 0 ts = some 0 := by
  refine ⟨fun h => h.depthAfter_eq 0, fun h => ?_⟩
  cases opens_of_depthAfter h with
  | balanced h => exact h

/-! ### Partners -/

/-- A closing parenthesis has a partner before it exactly if a group is open there. -/
theorem hasOpening_iff {u : List Token} {n : Nat} (h : depthAfter 0 u = some n) :
    HasOpening u ↔ n ≠ 0 := by
  constructor
  · rintro ⟨outer, l, inner, rfl, hl, hinner⟩ rfl
    rw [depthAfter_append] at h
    obtain ⟨m, -, hrest⟩ := Option.bind_eq_some_iff.mp h
    rw [depthAfter_leftParen hl, hinner.depthAfter_eq] at hrest
    cases hrest
  · intro hn
    cases opens_of_depthAfter h with
    | balanced => exact absurd rfl hn
    | group _ hl hi => exact ⟨_, _, _, rfl, hl, hi⟩

/-- Tokens that close all their groups and no other close none that was opened before. -/
theorem not_hasClosing {v : List Token} (h : depthAfter 0 v = some 0) : ¬ HasClosing v := by
  rintro ⟨inner, r, outer, rfl, hr, hinner⟩
  rw [depthAfter_append, hinner.depthAfter_eq, Option.bind_some, depthAfter_rightParen_zero hr] at h
  cases h

/-- Where the depth never fails, no closing parenthesis lacks a partner. -/
theorem closingsPaired {ts : List Token} {n : Nat} (h : depthAfter 0 ts = some n) :
    ClosingsPaired ts := by
  rintro u r v rfl hr
  rw [depthAfter_append] at h
  obtain ⟨m, hm, hrest⟩ := Option.bind_eq_some_iff.mp h
  rw [hasOpening_iff hm]
  rintro rfl
  rw [depthAfter_rightParen_zero hr] at hrest
  cases hrest

/-- Where the depth comes back to nothing, no opening parenthesis lacks a partner. -/
theorem openingsPaired {ts : List Token} (h : depthAfter 0 ts = some 0) : OpeningsPaired ts := by
  rintro u l v rfl hl
  rw [depthAfter_append] at h
  obtain ⟨m, -, hrest⟩ := Option.bind_eq_some_iff.mp h
  rw [depthAfter_leftParen hl] at hrest
  cases closes_of_depthAfter hrest with
  | group hi hr _ => exact ⟨_, _, _, rfl, hr, hi⟩

/-- The parenthesis that counting finds to be unmatched has no partner. It is the first closing one
of that kind, or the last opening one. -/
theorem Unpaired.of_unmatched {ts : List Token} {t : Token} (h : Unmatched ts t) :
    Unpaired ts t := by
  cases h with
  | @closing u v _ ht hu =>
      exact .closing rfl ht (fun hopen => (hasOpening_iff hu).mp hopen rfl) (closingsPaired hu)
  | @opening u v _ n ht hu hv =>
      have hdepth : depthAfter 0 (u ++ t :: v) = some (n + 1) := by
        rw [depthAfter_append, show depthAfter 0 u = some n from hu, Option.bind_some,
          depthAfter_leftParen ht, ((balanced_iff v).mpr hv).depthAfter_eq]
      exact .opening (closingsPaired hdepth) rfl ht (not_hasClosing hv) (openingsPaired hv)
  | waiting _ hstack _ => exact absurd hstack.symm (by simp)

/-- In balanced tokens every parenthesis has a partner. -/
theorem Unpaired.not_balanced {ts : List Token} {t : Token} (h : Unpaired ts t) :
    ¬ Balanced ts := by
  intro hbalanced
  have hdepth := hbalanced.depthAfter_eq 0
  cases h with
  | closing hts ht hopen _ => exact hopen (closingsPaired hdepth _ _ _ hts ht)
  | opening _ hts ht hclose _ => exact hclose (openingsPaired hdepth _ _ _ hts ht)

/-- Two places of a list are the same, or one of them comes first. -/
theorem eq_or_split {α : Type} {u v u' v' : List α} {t t' : α} (h : u ++ t :: v = u' ++ t' :: v') :
    t = t' ∨ (∃ w, u' = u ++ t :: w ∧ v = w ++ t' :: v') ∨
      ∃ w, u = u' ++ t' :: w ∧ v' = w ++ t :: v := by
  rcases List.append_eq_append_iff.mp h with ⟨w, rfl, htail⟩ | ⟨w, rfl, htail⟩
  · rcases List.cons_eq_append_iff.mp htail with ⟨rfl, heq⟩ | ⟨w, rfl, rfl⟩
    · exact .inl (List.cons.inj heq).1.symm
    · exact .inr (.inl ⟨w, rfl, rfl⟩)
  · rcases List.cons_eq_append_iff.mp htail with ⟨rfl, heq⟩ | ⟨w, rfl, rfl⟩
    · exact .inl (List.cons.inj heq).1
    · exact .inr (.inr ⟨w, rfl, rfl⟩)

/-- Only one parenthesis without a partner counts. -/
theorem Unpaired.unique {ts : List Token} {t t' : Token} (h : Unpaired ts t)
    (h' : Unpaired ts t') : t = t' := by
  -- Of two closing parentheses that counted, the later one would say that the earlier one has a
  -- partner. Of two opening ones, the earlier one would say so of the later one.
  cases h with
  | closing hts ht hopen hu =>
      cases h' with
      | closing hts' ht' hopen' hu' =>
          rcases eq_or_split (hts.symm.trans hts') with heq | ⟨w, hsplit, -⟩ | ⟨w, hsplit, -⟩
          · exact heq
          · exact absurd (hu' _ _ _ hsplit ht) hopen
          · exact absurd (hu _ _ _ hsplit ht') hopen'
      | opening hpaired _ _ _ _ => exact absurd (hpaired _ _ _ hts ht) hopen
  | opening hpaired hts ht hclose hv =>
      cases h' with
      | closing hts' ht' hopen' _ => exact absurd (hpaired _ _ _ hts' ht') hopen'
      | opening _ hts' ht' hclose' hv' =>
          rcases eq_or_split (hts.symm.trans hts') with heq | ⟨w, -, hsplit⟩ | ⟨w, -, hsplit⟩
          · exact heq
          · exact absurd (hv _ _ _ hsplit ht') hclose'
          · exact absurd (hv' _ _ _ hsplit ht) hclose

end Token

end PatternNfa
