import KubeSim.Cluster.Pod
import KubeSim.Screen.Glyph
import KubeSim.Text.Numeral

/-! # Pod cards

A card shows a pod in three rows: its mark and name, its status, and its restarts and age. It keeps
to its area, and nothing is drawn in an area narrower than four columns. Where the area goes past
the edge of the screen, a wide character that would do so is left out.
-/

namespace KubeSim.Screen

/-- Green for a ready pod and red for any other. -/
def podColor (pod : Pod) : Color := if pod.ready then .green else .red

def cardRows (pod : Pod) : List Span := [
  ⟨pod.phase.symbol ++ " " ++ pod.name, .strong .white⟩,
  ⟨"  " ++ pod.phase.name, .colored (podColor pod)⟩,
  ⟨"  Restarts: " ++ Text.decimal pod.restarts.toNat ++ " • Age: " ++ pod.age,
    .colored .darkGray⟩]

/-- The card of a pod on a screen of `edge` columns. -/
def podCard (pod : Pod) (edge : Nat) (area : Area) : Drawing :=
  if area.height = 0 ∨ area.width < 4 then []
  else ((cardRows pod).take area.height).zipIdx.flatMap fun (row, j) =>
    label area.x (area.y + j) (min area.width (edge - area.x)) row.text row.style

end KubeSim.Screen
