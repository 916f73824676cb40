import Sketchbook.Text.WordTable

namespace Sketchbook.Text

/-- The number of bounds that are not above `n`, among those numbered from `lo` up to `hi`. -/
def countUpTo (bounds : Array Nat) (n : Nat) : Nat → Nat → Nat → Nat
  | 0, lo, _ => lo
  | fuel + 1, lo, hi =>
    if lo < hi then
      let mid := (lo + hi) / 2
      if bounds.getD mid 0 ≤ n then countUpTo bounds n fuel (mid + 1) hi
      else countUpTo bounds n fuel lo mid
    else lo

/-- Whether a code point is in the class with the given bounds: those in an even place begin a range
and the others end one. -/
def inBounds (bounds : Array Nat) (n : Nat) : Bool :=
  countUpTo bounds n 32 0 bounds.size % 2 = 1

def isWord (c : Char) : Bool := inBounds wordBounds c.toNat

def isAsciiWord (c : Char) : Bool := c.isAlphanum || c = '_'

theorem toNat_lt_of_isAsciiWord {c : Char} (h : isAsciiWord c) : c.toNat < 128 := by
  delta isAsciiWord Char.isAlphanum Char.isAlpha Char.isUpper Char.isLower Char.isDigit at h
  simp only [Bool.or_eq_true, Bool.and_eq_true, decide_eq_true_eq, UInt32.le_iff_toNat_le] at h
  rcases h with (((⟨_, h⟩ | ⟨_, h⟩) | ⟨_, h⟩) | rfl)
  · exact Nat.lt_of_le_of_lt h (by decide)
  · exact Nat.lt_of_le_of_lt h (by decide)
  · exact Nat.lt_of_le_of_lt h (by decide)
  · decide

/-- Whether a character can be shown as it is: it is no control, separator or unassigned code. -/
def isPrintable (c : Char) : Bool := inBounds printableBounds c.toNat

end Sketchbook.Text
