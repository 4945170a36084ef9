import KubeSim.Progress
import KubeSim.Screen.Glyph

/-! # The progress bar

One row: a bar in brackets, filled in proportion to the steps done, and the step's label. Nothing
is drawn where there is no room for a bar of one cell.
-/

namespace KubeSim.Screen

/-- The cells to fill of a bar of `bar` cells: the number nearest to the share that is done. -/
def filledCells (progress : Progress) (bar : Nat) : Nat :=
  (2 * bar * progress.step.toNat + 5) / 10

def barMark (filled i : Nat) (color : Color) : Mark :=
  if i < filled then .write "█" (.colored color) else .write "░" (.colored .darkGray)

/-- The progress bar in the first row of an area. -/
def progressBar (progress : Progress) (color : Color) (area : Area) : Drawing :=
  let text := " " ++ progress.label
  if area.width < text.length + 3 ∨ area.height < 1 then []
  else
    let bar := area.width - text.length - 2
    ⟨area.x, area.y, .write "[" .plain⟩ ::
      ((List.range bar).map fun i =>
        ⟨area.x + 1 + i, area.y, barMark (filledCells progress bar) i color⟩) ++
      ⟨area.x + 1 + bar, area.y, .write "]" .plain⟩ ::
      label (area.x + 2 + bar) area.y text.length text (.colored .gray)

end KubeSim.Screen
