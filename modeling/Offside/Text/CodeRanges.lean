/-!
# Sets of code points

Character classes of the Unicode standard are kept as closed ranges of code points, ascending and
apart. What may be shown in a quoted text is told by Unicode 17.0, and the widths of a display by
Unicode 15.1.
-/

namespace Offside.Text

/-- Closed ranges of code points, ascending and apart. -/
abbrev CodeRanges := List (Nat × Nat)

/-- Whether the code point of `c` lies in one of the ranges. -/
def CodeRanges.has (ranges : CodeRanges) (c : Char) : Bool :=
  ranges.any fun range => range.1 ≤ c.toNat && c.toNat ≤ range.2

end Offside.Text
