/-
  Ranges of code points.

  A table of ranges stands for the code points that lie in one of them.
-/
namespace ClassCatalog.Text

/-- Ranges of code points, given by their first and their last one. -/
abbrev CodeRanges := List (Nat × Nat)

/-- A code point lies in one of the ranges. -/
def CodeRanges.contains (ranges : CodeRanges) (code : Nat) : Bool :=
  ranges.any fun (first, last) => first ≤ code && code ≤ last

end ClassCatalog.Text
