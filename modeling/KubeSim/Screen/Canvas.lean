import KubeSim.Screen.Area
import KubeSim.Screen.Style

/-! # Canvases and drawings

A drawing is a list of strokes, each of which changes one cell. A canvas is a grid of cells on
which a drawing is carried out, stroke by stroke; strokes that miss the grid have no effect. What a
drawing does to a cell depends on the strokes at that cell alone (`cell_draw`).
-/

namespace KubeSim.Screen

/-- What a stroke does to its cell. -/
inductive Mark where
  /-- Puts a symbol there and changes the looks. -/
  | write (symbol : String) (style : Style)
  /-- Changes the looks. -/
  | tint (style : Style)
  /-- Makes the cell blank. -/
  | clear
deriving DecidableEq, Repr

def Mark.apply : Mark → Cell → Cell
  | .write symbol style, cell => { cell with symbol }.tint style
  | .tint style, cell => cell.tint style
  | .clear, _ => .blank

structure Stroke where
  x : Nat
  y : Nat
  mark : Mark
deriving DecidableEq, Repr

/-- Strokes in the order in which they are made. -/
abbrev Drawing := List Stroke

/-- A grid of cells, row by row. -/
structure Canvas where
  width : Nat
  height : Nat
  cells : Array Cell
  size_cells : cells.size = width * height

namespace Canvas

def blank (width height : Nat) : Canvas where
  width := width
  height := height
  cells := .replicate (width * height) .blank
  size_cells := Array.size_replicate

/-- A cell of the canvas; outside there are blank ones. -/
def cell (canvas : Canvas) (x y : Nat) : Cell :=
  if x < canvas.width ∧ y < canvas.height then
    canvas.cells[y * canvas.width + x]?.getD .blank
  else .blank

def stroke (canvas : Canvas) (stroke : Stroke) : Canvas :=
  if stroke.x < canvas.width ∧ stroke.y < canvas.height then
    { canvas with
      cells := canvas.cells.modify (stroke.y * canvas.width + stroke.x) stroke.mark.apply
      size_cells := by simp [canvas.size_cells] }
  else canvas

def draw (canvas : Canvas) (drawing : Drawing) : Canvas := drawing.foldl stroke canvas

def rowText (canvas : Canvas) (y : Nat) : String :=
  (List.range canvas.width).foldl (fun text x => text ++ (canvas.cell x y).symbol) ""

@[simp] theorem width_stroke (canvas : Canvas) (stroke : Stroke) :
    (canvas.stroke stroke).width = canvas.width := by
  unfold Canvas.stroke
  split <;> rfl

@[simp] theorem height_stroke (canvas : Canvas) (stroke : Stroke) :
    (canvas.stroke stroke).height = canvas.height := by
  unfold Canvas.stroke
  split <;> rfl

private theorem index_inj {width x y x' y' : Nat} (inside : x < width) (inside' : x' < width)
    (same : y * width + x = y' * width + x') : x = x' ∧ y = y' := by
  have rows : y = y' := by
    have quotient := congrArg (· / width) same
    have positive : 0 < width := by omega
    simpa [Nat.add_comm _ x, Nat.add_comm _ x', Nat.add_mul_div_right _ _ positive,
      Nat.div_eq_of_lt inside, Nat.div_eq_of_lt inside'] using quotient
  subst rows
  omega

private theorem cell_stroke (canvas : Canvas) (stroke : Stroke) (x y : Nat) :
    (canvas.stroke stroke).cell x y =
      if stroke.x = x ∧ stroke.y = y ∧ x < canvas.width ∧ y < canvas.height then
        stroke.mark.apply (canvas.cell x y)
      else canvas.cell x y := by
  unfold Canvas.stroke
  split
  · next inside =>
    simp only [cell]
    by_cases within : x < canvas.width ∧ y < canvas.height
    · simp only [within, and_self, if_true, and_true, Array.getElem?_modify]
      by_cases here : stroke.x = x ∧ stroke.y = y
      · obtain ⟨rfl, rfl⟩ := here
        have bound : stroke.y * canvas.width + stroke.x < canvas.cells.size := by
          rw [canvas.size_cells, Nat.mul_comm canvas.width]
          calc stroke.y * canvas.width + stroke.x
              < stroke.y * canvas.width + canvas.width := by omega
            _ = (stroke.y + 1) * canvas.width := by rw [Nat.add_mul, Nat.one_mul]
            _ ≤ canvas.height * canvas.width := Nat.mul_le_mul_right _ inside.2
        simp [Array.getElem?_eq_getElem bound]
      · rw [if_neg here, if_neg]
        intro same
        exact here (index_inj inside.1 within.1 same)
    · simp [within]
  · next outside =>
    rw [if_neg]
    rintro ⟨rfl, rfl, within⟩
    exact outside within

@[simp] theorem width_draw (canvas : Canvas) (drawing : Drawing) :
    (canvas.draw drawing).width = canvas.width := by
  induction drawing generalizing canvas with
  | nil => rfl
  | cons first rest ih => simpa [draw] using ih (canvas.stroke first)

@[simp] theorem height_draw (canvas : Canvas) (drawing : Drawing) :
    (canvas.draw drawing).height = canvas.height := by
  induction drawing generalizing canvas with
  | nil => rfl
  | cons first rest ih => simpa [draw] using ih (canvas.stroke first)

def marksAt (drawing : Drawing) (x y : Nat) : List Mark :=
  (drawing.filter fun stroke => stroke.x = x ∧ stroke.y = y).map (·.mark)

/-- A cell of the canvas shows the marks made on it, in order. -/
theorem cell_draw {canvas : Canvas} {x y : Nat} (column : x < canvas.width)
    (row : y < canvas.height) (drawing : Drawing) :
    (canvas.draw drawing).cell x y =
      (marksAt drawing x y).foldl (fun cell mark => mark.apply cell) (canvas.cell x y) := by
  induction drawing generalizing canvas with
  | nil => rfl
  | cons first rest ih =>
    have step := @ih (canvas.stroke first) (by simpa using column) (by simpa using row)
    simp only [draw, List.foldl_cons] at step ⊢
    rw [step, cell_stroke]
    by_cases here : first.x = x ∧ first.y = y
    · simp [marksAt, here, column, row]
    · rw [if_neg fun both => here ⟨both.1, both.2.1⟩]
      simp [marksAt, here]

end Canvas

end KubeSim.Screen
