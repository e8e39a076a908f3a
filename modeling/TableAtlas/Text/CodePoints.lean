/-!
# Sets of code points

A character class outside ASCII is written down as a list of ranges of code
points in increasing order.  Membership walks the list and stops at the first
range that starts beyond the code point.
-/

namespace TableAtlas.Text

/-- Whether `code` lies in one of the ranges, which are closed and increasing. -/
def inRanges : List (Nat × Nat) → Nat → Bool
  | [], _ => false
  | (first, last) :: later, code =>
      decide (first ≤ code) && (decide (code ≤ last) || inRanges later code)

@[simp] theorem inRanges_nil (code : Nat) : inRanges [] code = false := rfl

theorem inRanges_cons (first last : Nat) (later : List (Nat × Nat)) (code : Nat) :
    inRanges ((first, last) :: later) code =
      (decide (first ≤ code) && (decide (code ≤ last) || inRanges later code)) := rfl

end TableAtlas.Text
