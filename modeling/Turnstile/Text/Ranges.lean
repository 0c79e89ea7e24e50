import Turnstile.Text

namespace Turnstile.Text

/-!
# Ranges of characters

* `inRanges` — membership in a class of characters that is given by ranges of code points.
-/

/-- A character lies in one of some ranges of code points, whose two ends belong to them. -/
def inRanges (ranges : List (Nat × Nat)) (c : CodePoint) : Bool :=
  ranges.any fun r => r.1 ≤ c.toNat && c.toNat ≤ r.2

end Turnstile.Text
