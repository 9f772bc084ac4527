/-!
# `PatternNfa.Flags`: the two options of a compilation

A compilation knows two options. `explicitConcat` says that the pattern already writes every
concatenation as `.`, and `debug` raises the level at which the stages report. A set of options
is also a bit number, in which bit 1 stands for the first option and bit 2 for the second. The
other bits have no meaning: `ofBits?` refuses them and `ofBitsTruncate` drops them.

`ofBitsTruncate_bits` and `ofBits?_bits` say that both readings give back the set from its own bit
number.
-/

set_option autoImplicit false

namespace PatternNfa

/-- The options of a compilation. The default is none of them. -/
structure Flags where
  /-- The pattern writes every concatenation as `.`. -/
  explicitConcat : Bool := false
  /-- The stages report at `info` level instead of `debug`. -/
  debug : Bool := false
deriving DecidableEq, Repr, Inhabited

namespace Flags

/-- No option is set. -/
def empty : Flags := {}

/-- Every option is set. -/
def all : Flags := { explicitConcat := true, debug := true }

/-! ### Bit numbers -/

/-- The bit number of a set of options: 2 for `explicitConcat` plus 4 for `debug`. -/
def bits (f : Flags) : Nat :=
  (if f.explicitConcat then 2 else 0) + (if f.debug then 4 else 0)

/-- The options whose bits are set in `n`. Other bits are dropped. -/
def ofBitsTruncate (n : Nat) : Flags :=
  { explicitConcat := n.testBit 1, debug := n.testBit 2 }

/-- The options with bit number `n`, if `n` has no bit without a meaning. -/
def ofBits? (n : Nat) : Option Flags :=
  if (ofBitsTruncate n).bits = n then some (ofBitsTruncate n) else none

/-- Flags are read back from their bits if bits that mean nothing are dropped. -/
theorem ofBitsTruncate_bits (f : Flags) : ofBitsTruncate f.bits = f := by
  rcases f with ⟨_ | _, _ | _⟩ <;> decide

/-- Flags are read back from their bits if bits that mean nothing are refused. -/
theorem ofBits?_bits (f : Flags) : ofBits? f.bits = some f := by
  rw [ofBits?, ofBitsTruncate_bits, if_pos rfl]

/-! ### Set operations -/

/-- Applies a Boolean operation to each option of two sets. -/
def combine (op : Bool → Bool → Bool) (f g : Flags) : Flags :=
  { explicitConcat := op f.explicitConcat g.explicitConcat, debug := op f.debug g.debug }

/-- The options in one set or the other. -/
def union (f g : Flags) : Flags := combine (fun a b => a || b) f g

/-- The options in both sets. -/
def inter (f g : Flags) : Flags := combine (fun a b => a && b) f g

/-- The options in exactly one of the sets. -/
def symmDiff (f g : Flags) : Flags := combine (fun a b => a != b) f g

/-- The options in the first set and not in the second. -/
def diff (f g : Flags) : Flags := combine (fun a b => a && !b) f g

/-- The options that are not in the set. -/
def compl (f : Flags) : Flags := diff all f

/-- No option is set. -/
def isEmpty (f : Flags) : Bool := f == empty

/-- Every option is set. -/
def isAll (f : Flags) : Bool := f == all

/-- Some option is in both sets. -/
def intersects (f g : Flags) : Bool := !(f.inter g).isEmpty

/-- Every option of the second set is in the first. -/
def contains (f g : Flags) : Bool := f.inter g == g

/-- The names of the options that are set, in the order of their bits, or `NO_FLAG`. -/
def text (f : Flags) : String :=
  match f.explicitConcat, f.debug with
  | false, false => "NO_FLAG"
  | true, false => "EXPLICIT_CONCAT"
  | false, true => "DEBUG"
  | true, true => "EXPLICIT_CONCAT | DEBUG"

end Flags

end PatternNfa
