import KubeSim.Screen.Area

/-! # How the screen is divided

The frame is split into a header, the content and the progress panel; the content into a side
panel and the terminal; and the side panel into an overview, the pod list and the hint. Where room
is short, the middle part of a stack keeps its least height the longest, then the first part.
Of an area that goes past the last coordinate, only the part before it is divided.
-/

namespace KubeSim.Screen.Layout

/-- Three areas below each other. -/
structure Stack where
  top : Area
  middle : Area
  bottom : Area
deriving DecidableEq, Repr

/-- Two areas side by side. -/
structure Halves where
  left : Area
  right : Area
deriving DecidableEq, Repr

def lastCoordinate : Nat := 65535

/-- The part of `size` columns or rows from `start` on that can be divided. -/
def extent (start size : Nat) : Nat := min size (lastCoordinate - start)

/-- The height of the middle part of a stack. -/
def middleHeight (height first least last : Nat) : Nat :=
  if first + least + last ≤ height then height - first - last else min height least

/-- Splits an area into parts of height `first`, at least `least`, and `last`. -/
def stack (area : Area) (first least last : Nat) : Stack :=
  let height := extent area.y area.height
  let middle := middleHeight height first least last
  let top := min first (height - middle)
  { top := { area with height := top }
    middle := { area with y := area.y + top, height := middle }
    bottom := { area with y := area.y + top + middle, height := height - middle - top } }

/-- Splits an area into a left part of `leftWidth width` columns, where `width` is the number of
columns there are, and the rest. -/
def split (area : Area) (leftWidth : Nat → Nat) : Halves :=
  let width := extent area.x area.width
  { left := { area with width := leftWidth width }
    right := { area with x := area.x + leftWidth width, width := width - leftWidth width } }

/-- The header, the content and the progress panel. -/
def frame (area : Area) : Stack := stack area 3 10 4

/-- The side panel, which takes 33 hundredths of the width to the nearest column, and the
terminal. -/
def content (area : Area) : Halves := split area fun width => (33 * width + 50) / 100

/-- The overview, the pod list and the hint. -/
def side (area : Area) (showHint : Bool) : Stack := stack area 5 5 (if showHint then 6 else 0)

/-- The title and the status line, which takes 70 columns where the title keeps 20. -/
def header (area : Area) : Halves := split area fun width => width - min 70 (width - min 20 width)

end KubeSim.Screen.Layout
