/-!
# Sets of characters given by ranges

A property of characters is a list of closed ranges of code points.
-/

namespace SettingsCache.Text

/-- Whether a code point lies in one of the closed ranges. -/
def inRanges (ranges : List (Nat × Nat)) (n : Nat) : Bool :=
  ranges.any fun r ↦ r.1 ≤ n && n ≤ r.2

end SettingsCache.Text
