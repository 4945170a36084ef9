/-! # Rectangles of cells

An area is given by its top left cell and its size. It ends before column `right` and row `bottom`.
The cells of an area are listed row by row. An area that is asked for with too many cells is made
smaller, in the same proportions.
-/

namespace KubeSim.Screen

structure Area where
  x : Nat
  y : Nat
  width : Nat
  height : Nat
deriving DecidableEq, Repr

namespace Area

def right (area : Area) : Nat := area.x + area.width

def bottom (area : Area) : Nat := area.y + area.height

def Contains (area : Area) (x y : Nat) : Prop :=
  area.x ≤ x ∧ x < area.right ∧ area.y ≤ y ∧ y < area.bottom

instance (area : Area) (x y : Nat) : Decidable (area.Contains x y) :=
  inferInstanceAs (Decidable (_ ∧ _ ∧ _ ∧ _))

/-- The cells of the area, row by row. -/
def positions (area : Area) : List (Nat × Nat) :=
  (List.range area.height).flatMap fun j =>
    (List.range area.width).map fun i => (area.x + i, area.y + j)

/-- The most cells that an area is made of. -/
def maxCells : Nat := 65535

/-- The width and height of the largest area in the proportions of a given one, cut to whole cells.
The root is taken in floating point, which may cost a row or a column where it is a whole number. -/
def scaled (width height : Nat) : Nat × Nat :=
  let ratio := Float.ofNat width / Float.ofNat height
  let rows := (Float.ofNat maxCells / ratio).sqrt
  ((rows * ratio).toUInt64.toNat, rows.toUInt64.toNat)

/-- An area at `x` and `y` of this size, or smaller if that would be too many cells. -/
def limited (x y width height : Nat) : Area :=
  if width * height ≤ maxCells then ⟨x, y, width, height⟩
  else ⟨x, y, (scaled width height).1, (scaled width height).2⟩

/-- What is left inside a border of one cell. -/
def inner (area : Area) : Area where
  x := min (area.x + 1) area.right
  y := min (area.y + 1) area.bottom
  width := area.width - 2
  height := area.height - 2

theorem mem_positions {area : Area} {x y : Nat} :
    (x, y) ∈ area.positions ↔ area.Contains x y := by
  simp only [positions, List.mem_flatMap, List.mem_map, List.mem_range, Prod.mk.injEq, Contains,
    right, bottom]
  constructor
  · rintro ⟨j, hj, i, hi, rfl, rfl⟩
    omega
  · rintro ⟨left, right, top, bottom⟩
    exact ⟨y - area.y, by omega, x - area.x, by omega, by omega, by omega⟩

end Area

end KubeSim.Screen
