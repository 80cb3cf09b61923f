/-!
# Ranges of code points

A Unicode property is kept as a list of inclusive code point ranges in ascending order; this
module tests membership in such a list.
-/

namespace FluentGen.Text

/-- Holds when some range of the list contains the code point. -/
def inRanges (ranges : List (Nat × Nat)) (code : Nat) : Bool :=
  ranges.any fun range => range.1 ≤ code && code ≤ range.2

end FluentGen.Text
