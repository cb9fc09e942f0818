/-!
# Ranges of code points

A property of characters is given by the ranges of code points that have it.
-/

set_option autoImplicit false

namespace AdminConsole.Text

/-- Ranges of code points, each by its first and its last one. -/
abbrev CodeRanges := List (Nat × Nat)

/-- Whether the code point of a character lies in one of the ranges. -/
def isIn (ranges : CodeRanges) (c : Char) : Bool :=
  ranges.any fun range => range.1 ≤ c.toNat && c.toNat ≤ range.2

end AdminConsole.Text
