/-!
Classes of characters that are given by ranges of code points.
-/

namespace ArenaScript

namespace Text

def inRanges (ranges : List (Nat × Nat)) (n : Nat) : Bool :=
  ranges.any fun r => r.1 ≤ n && n ≤ r.2

end Text

end ArenaScript
