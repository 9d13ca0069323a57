/-!
# Sets of code points

The Unicode standard gives a property of characters as a list of ranges of code points. A table
of such ranges is kept as it is, and a character has the property when a range holds its code
point.

## Main definitions

* `Text.inRanges`: whether a code point lies in one of some inclusive ranges.
-/

namespace TowerOfHanoi.Text

/-- Whether a code point lies in one of the inclusive ranges. -/
def inRanges (ranges : List (Nat × Nat)) (code : Nat) : Bool :=
  ranges.any fun range => range.1 ≤ code && code ≤ range.2

/-- A code point in a range of the table has the property. -/
theorem inRanges_of_mem {ranges : List (Nat × Nat)} {first last code : Nat}
    (h : (first, last) ∈ ranges) (hfirst : first ≤ code) (hlast : code ≤ last) :
    inRanges ranges code = true :=
  List.any_eq_true.2 ⟨_, h, by simp [hfirst, hlast]⟩

end TowerOfHanoi.Text
