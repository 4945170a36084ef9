/-! # Ranges of characters

A property of characters is given by the ranges of code points that have it.
-/

namespace KubeSim.Text

def within (ranges : List (Nat × Nat)) (code : Nat) : Bool :=
  ranges.any fun range => range.1 ≤ code && code ≤ range.2

end KubeSim.Text
