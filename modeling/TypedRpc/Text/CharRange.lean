/-!
Sets of characters given as ranges of code points. A table lists closed ranges, or runs of equally spaced
code points where an alphabet alternates.
-/

namespace TypedRpc.Text

/-- The code point lies in one of the closed ranges. -/
def inRanges (ranges : List (Nat × Nat)) (n : Nat) : Bool :=
  ranges.any fun (first, last) => first ≤ n && n ≤ last

/-- The code point is one of `first`, `first + step`, … up to `last`. -/
def inRun (first last step n : Nat) : Bool :=
  first ≤ n && n ≤ last && (n - first) % step == 0

end TypedRpc.Text
