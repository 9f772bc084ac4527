import PatternNfa.Nfa.Drawing
import PatternNfa.Proofs.Reports

/-!
# `PatternNfa.Proofs.Lines`: what can be read off a line

A listing has a line for each edge and a drawing one for each statement. Both write the ids of
states as decimal numbers, and what they put behind a number never begins with a digit. So the
numbers can be read back one after another (`toDigits_append_inj`), and then what stands between
them.

A statement of a drawing is told by its line (`Drawing.Line.text_injective`). The line of an edge
tells its source, its target and one character for its label (`Edge.text_eq_iff`). Symbols are shown
as they are and nothing as an epsilon, so the character tells the label unless it is an epsilon
(`Label.char_eq_iff`).

The lines themselves are read off a text by its line feeds (`Text.lines`), since no line has any of
its own.
-/

set_option autoImplicit false

namespace PatternNfa

/-! ### Numbers -/

/-- A number is told by its digits. -/
theorem toDigits_injective : Function.Injective (Nat.toDigits 10) := by
  intro m n h
  calc
    m = Nat.ofDigitChars 10 (Nat.toDigits 10 m) 0 := Nat.ofDigitChars_ten_toDigits.symm
    _ = n := by rw [h, Nat.ofDigitChars_ten_toDigits]

/-- A number can be read back if something that is no digit comes behind it. -/
theorem toDigits_append_inj {m n : Nat} {c d : Char} {u v : List Char} (hc : c.isDigit = false)
    (hd : d.isDigit = false) (h : Nat.toDigits 10 m ++ c :: u = Nat.toDigits 10 n ++ d :: v) :
    m = n ∧ c = d ∧ u = v := by
  have htake : ∀ (n : Nat) {c : Char} (u : List Char), c.isDigit = false →
      (Nat.toDigits 10 n ++ c :: u).takeWhile Char.isDigit = Nat.toDigits 10 n := by
    intro n c u hc
    have hdigits : ∀ x ∈ Nat.toDigits 10 n, x.isDigit = true :=
      fun x hx => Nat.isDigit_of_mem_toDigits (by decide) (Nat.le_refl 10) hx
    rw [List.takeWhile_append_of_pos hdigits, List.takeWhile_cons_of_neg (by simp [hc]),
      List.append_nil]
  have hmn : m = n := by
    apply toDigits_injective
    rw [← htake m u hc, h, htake n v hd]
  subst hmn
  have hrest := List.append_cancel_left h
  exact ⟨rfl, List.cons.inj hrest⟩

/-! ### Edges -/

/-- The character that a label is shown as. -/
def Label.char : Label → Char
  | symbol c => c
  | epsilon => 'ε'

/-- A label is shown as one character. -/
theorem Label.toList_text (l : Label) : l.text.toList = [l.char] := by
  cases l with
  | symbol c => exact String.toList_singleton c
  | epsilon => rfl

/-- Labels that are shown alike are alike, or one reads the letter that the other is shown as. -/
theorem Label.char_eq_iff {l m : Label} :
    l.char = m.char ↔
      l = m ∨ (l = .epsilon ∧ m = .symbol 'ε') ∨ (l = .symbol 'ε' ∧ m = .epsilon) := by
  cases l <;> cases m <;> simp [char, eq_comm]

/-- The line of an edge, character by character. -/
theorem Edge.toList_text (e : Edge) :
    e.text.toList =
      Nat.toDigits 10 e.source ++ ' ' ::
        ("-- ".toList ++ e.label.char :: (" --> ".toList ++ Nat.toDigits 10 e.target)) := by
  show (e.source.repr ++ " -- " ++ e.label.text ++ " --> " ++ e.target.repr).toList = _
  simp [Label.toList_text]

/-- The line of an edge tells where it begins and ends, and how its label is shown. -/
theorem Edge.text_eq_iff {e f : Edge} :
    e.text = f.text ↔ e.source = f.source ∧ e.label.char = f.label.char ∧ e.target = f.target := by
  rw [← String.toList_inj, toList_text, toList_text]
  constructor
  · intro h
    obtain ⟨hsource, -, hrest⟩ := toDigits_append_inj (by decide) (by decide) h
    obtain ⟨hlabel, hrest⟩ := List.cons.inj (List.append_cancel_left hrest)
    exact ⟨hsource, hlabel, toDigits_injective (List.append_cancel_left hrest)⟩
  · rintro ⟨hsource, hlabel, htarget⟩
    rw [hsource, hlabel, htarget]

/-- The line of an edge has a line feed only if its label is shown as one. -/
theorem Edge.oneLine_text {e : Edge} (h : e.label.char ≠ '\n') : OneLine e.text := by
  have hlabel : OneLine e.label.text := by
    rw [OneLine, Label.toList_text, List.mem_singleton]
    exact h.symm
  show OneLine (e.source.repr ++ " -- " ++ e.label.text ++ " --> " ++ e.target.repr)
  simp +decide [hlabel]

/-! ### Statements -/

namespace Drawing

/-- The attributes by which a label shows. They begin inside the bracket. -/
def labelAttributes : Label → List Char
  | .epsilon => "style=dashed]".toList
  | .symbol c => "label=\"".toList ++ c :: "\"]".toList

/-- A role is told by its attributes. -/
theorem Role.attributes_injective : Function.Injective attributes := by
  intro r s h
  cases r <;> cases s <;> first | rfl | exact absurd h (by decide)

/-- A label is told by its attributes. -/
theorem labelAttributes_injective : Function.Injective labelAttributes := by
  intro l m h
  cases l with
  | epsilon =>
      cases m with
      | epsilon => rfl
      | symbol d => exact absurd (List.head_eq_of_cons_eq h) (by decide)
  | symbol c =>
      cases m with
      | epsilon => exact absurd (List.head_eq_of_cons_eq h) (by decide)
      | symbol d => rw [List.head_eq_of_cons_eq (List.append_cancel_left h)]

namespace Line

/-- The line of a declaration, character by character. -/
theorem toList_text_node (id : StateId) (role : Role) :
    (node id role).text.toList =
      "node_".toList ++ (Nat.toDigits 10 id ++ '[' ::
        ("label=\"".toList ++ (Nat.toDigits 10 id ++ '"' :: role.attributes.toList))) := by
  show ("node_" ++ id.repr ++ "[label=\"" ++ id.repr ++ "\"" ++ role.attributes).toList = _
  simp only [String.toList_append, Nat.toList_repr, List.append_assoc]
  rfl

/-- The line of an edge in a drawing, character by character. -/
theorem toList_text_edge (e : Edge) :
    (edge e).text.toList =
      "node_".toList ++ (Nat.toDigits 10 e.source ++ ' ' ::
        ("-> node_".toList ++ (Nat.toDigits 10 e.target ++ '[' :: labelAttributes e.label))) := by
  rcases e with ⟨source, label, target⟩
  cases label with
  | epsilon =>
      show ("node_" ++ source.repr ++ " -> node_" ++ target.repr ++ "[style=dashed]").toList = _
      simp only [String.toList_append, Nat.toList_repr, List.append_assoc]
      rfl
  | symbol c =>
      show ("node_" ++ source.repr ++ " -> node_" ++ target.repr ++
        ("[label=\"" ++ String.singleton c ++ "\"]")).toList = _
      simp only [String.toList_append, String.toList_singleton, Nat.toList_repr, List.append_assoc]
      rfl

/-- Behind the first number, a declaration goes on with a bracket and an edge with a blank. -/
theorem text_node_ne_text_edge (id : StateId) (role : Role) (e : Edge) :
    (node id role).text ≠ (edge e).text := by
  intro h
  rw [← String.toList_inj, toList_text_node, toList_text_edge] at h
  obtain ⟨-, hbehind, -⟩ :=
    toDigits_append_inj (by decide) (by decide) (List.append_cancel_left h)
  exact absurd hbehind (by decide)

/-- A statement is told by its line. -/
theorem text_injective : Function.Injective text := by
  intro l m h
  cases l with
  | node id role =>
      cases m with
      | node id' role' =>
          rw [← String.toList_inj, toList_text_node, toList_text_node] at h
          obtain ⟨rfl, -, hrest⟩ :=
            toDigits_append_inj (by decide) (by decide) (List.append_cancel_left h)
          obtain ⟨-, -, hrole⟩ :=
            toDigits_append_inj (by decide) (by decide) (List.append_cancel_left hrest)
          rw [Role.attributes_injective (String.toList_inj.mp hrole)]
      | edge e => exact absurd h (text_node_ne_text_edge id role e)
  | edge e =>
      cases m with
      | node id role => exact absurd h.symm (text_node_ne_text_edge id role e)
      | edge e' =>
          rcases e with ⟨source, label, target⟩
          rcases e' with ⟨source', label', target'⟩
          rw [← String.toList_inj, toList_text_edge, toList_text_edge] at h
          obtain ⟨hsource, -, hrest⟩ :=
            toDigits_append_inj (by decide) (by decide) (List.append_cancel_left h)
          obtain ⟨htarget, -, hlabel⟩ :=
            toDigits_append_inj (by decide) (by decide) (List.append_cancel_left hrest)
          obtain rfl : source = source' := hsource
          obtain rfl : target = target' := htarget
          obtain rfl : label = label' := labelAttributes_injective hlabel
          rfl

/-- A declaration is one line. -/
theorem oneLine_text_node (id : StateId) (role : Role) : OneLine (node id role).text := by
  show OneLine ("node_" ++ id.repr ++ "[label=\"" ++ id.repr ++ "\"" ++ role.attributes)
  cases role <;> simp +decide

/-- An edge is drawn in one line if it reads no line feed. -/
theorem oneLine_text_edge {e : Edge} (h : e.label.char ≠ '\n') : OneLine (edge e).text := by
  rcases e with ⟨source, label, target⟩
  cases label with
  | epsilon =>
      show OneLine ("node_" ++ source.repr ++ " -> node_" ++ target.repr ++ "[style=dashed]")
      simp +decide
  | symbol c =>
      have hchar : OneLine (String.singleton c) := by
        rw [OneLine, String.toList_singleton, List.mem_singleton]
        exact h.symm
      show OneLine ("node_" ++ source.repr ++ " -> node_" ++ target.repr ++
        ("[label=\"" ++ String.singleton c ++ "\"]"))
      simp only [oneLine_append_iff, oneLine_repr, hchar]
      decide

end Line

end Drawing

/-! ### Texts of several lines -/

/-- The lines of a text. What comes behind the last line feed is a line as well, even if it is
empty. -/
def Text.lines (s : String) : List String := (s.toList.splitOn '\n').map String.ofList

/-- Lines are read back, and then the lines of what comes behind them. -/
theorem Text.lines_append {ls : List String} (h : ∀ l ∈ ls, OneLine l) (s : String) :
    lines (String.join (ls.map (· ++ "\n")) ++ s) = ls ++ lines s := by
  induction ls with
  | nil => simp
  | cons l ls ih =>
      rw [List.forall_mem_cons] at h
      have hsplit : (String.join ((l :: ls).map (· ++ "\n")) ++ s).toList =
          l.toList ++ '\n' :: (String.join (ls.map (· ++ "\n")) ++ s).toList := by
        simp [String.toList_append]
      rw [lines, hsplit, List.splitOn_append_cons_self_of_not_mem h.1, List.map_cons,
        String.ofList_toList, ← lines, ih h.2, List.cons_append]

/-- A line feed ends the lines before it, whatever they are. -/
theorem Text.lines_append_line (s t : String) : lines (s ++ "\n" ++ t) = lines s ++ lines t := by
  have hsplit : (s ++ "\n" ++ t).toList = s.toList ++ '\n' :: t.toList := by
    simp [String.toList_append]
  rw [lines, hsplit, List.splitOn_append_cons_self, List.map_append, lines, lines]

/-- Texts with line feeds between them and one at the end are texts with a line feed each. -/
theorem Text.intercalate_append_newline {ls : List String} (h : ls ≠ []) :
    "\n".intercalate ls ++ "\n" = String.join (ls.map (· ++ "\n")) := by
  induction ls with
  | nil => exact absurd rfl h
  | cons l ls ih =>
      rw [List.map_cons, String.join_cons]
      cases ls with
      | nil => rw [String.intercalate_singleton, List.map_nil, String.join_nil, String.append_empty]
      | cons l' ls =>
          rw [String.intercalate_cons_cons, String.append_assoc, ih (List.cons_ne_nil _ _)]

end PatternNfa
