/-!
# `PatternNfa.Text.Column`: byte offsets and columns of a text

A place in a text is an offset in bytes of its UTF-8 form or a column that counts characters.
`columnAt?` turns the first into the second, where some number of whole characters takes up that
many bytes. `columnAt?_utf8Size` says that it then counts exactly the characters before the place,
and `utf8Size_toList` that a text takes up as many bytes as its characters do together.
-/

set_option autoImplicit false

namespace PatternNfa.Text

/-- How many of the characters take up the first `offset` bytes, if some number of them does. -/
def columnAt? : List Char → Nat → Option Nat
  | _, 0 => some 0
  | [], _ + 1 => none
  | c :: cs, offset + 1 =>
      if c.utf8Size ≤ offset + 1 then
        (columnAt? cs (offset + 1 - c.utf8Size)).map (· + 1)
      else none

/-- The number of bytes that the characters take up. -/
def utf8Size : List Char → Nat
  | [] => 0
  | c :: cs => c.utf8Size + utf8Size cs

/-- Sizes add up along a text. -/
theorem utf8Size_append (u v : List Char) : utf8Size (u ++ v) = utf8Size u + utf8Size v := by
  induction u with
  | nil => rw [List.nil_append, utf8Size, Nat.zero_add]
  | cons c u ih => rw [List.cons_append, utf8Size, utf8Size, ih, Nat.add_assoc]

/-- A single character is as long as its encoding. -/
theorem utf8Size_singleton (c : Char) : utf8Size [c] = c.utf8Size := rfl

/-- The bytes of a string are those of its characters. -/
theorem utf8ByteSize_ofList (cs : List Char) : (String.ofList cs).utf8ByteSize = utf8Size cs := by
  induction cs with
  | nil => rfl
  | cons c cs ih =>
      rw [← List.singleton_append, String.ofList_append, String.utf8ByteSize_append, ih,
        utf8Size_append, utf8Size_singleton, ← String.singleton_eq_ofList,
        String.utf8ByteSize_singleton]

/-- The bytes of the characters are those of the string. -/
theorem utf8Size_toList (s : String) : utf8Size s.toList = s.utf8ByteSize := by
  rw [← utf8ByteSize_ofList, String.ofList_toList]

/-- The column of an offset between two characters is the number of those before it. -/
theorem columnAt?_utf8Size (before after : List Char) :
    columnAt? (before ++ after) (utf8Size before) = some before.length := by
  induction before with
  | nil => simp [utf8Size, columnAt?]
  | cons c cs ih =>
      have hpos : 0 < c.utf8Size := Char.utf8Size_pos c
      -- The first character takes up at least one byte, so the offset is a successor.
      obtain ⟨n, hn⟩ : ∃ n, c.utf8Size + utf8Size cs = n + 1 :=
        ⟨c.utf8Size + utf8Size cs - 1, by omega⟩
      rw [utf8Size, hn, List.cons_append, columnAt?, if_pos (by omega),
        show n + 1 - c.utf8Size = utf8Size cs by omega, ih]
      rfl

/-- The column of a byte offset in a text, or the one after the whole text. -/
def column (s : String) (offset : Nat) : Nat :=
  (columnAt? s.toList offset).getD s.toList.length

end PatternNfa.Text
