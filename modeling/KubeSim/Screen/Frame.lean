import KubeSim.Screen.Glyph

/-! # Frames around panels

A frame is drawn with single lines along the border of an area, and its title stands on the upper
line. In an area of one row or one column the corners that remain are the upper and left ones.
-/

namespace KubeSim.Screen

/-- The symbol of a frame of this size in column `i` and row `j`. -/
def frameSymbol? (width height i j : Nat) : Option String :=
  if i = 0 ∧ j = 0 then some "┌"
  else if i = 0 ∧ j + 1 = height then some "└"
  else if i + 1 = width ∧ j = 0 then some "┐"
  else if i + 1 = width ∧ j + 1 = height then some "┘"
  else if i = 0 ∨ i + 1 = width then some "│"
  else if j = 0 ∨ j + 1 = height then some "─"
  else none

def border (area : Area) (style : Style) : Drawing :=
  area.positions.filterMap fun (x, y) =>
    (frameSymbol? area.width area.height (x - area.x) (y - area.y)).map fun symbol =>
      ⟨x, y, .write symbol style⟩

def tintArea (area : Area) (style : Style) : Drawing :=
  area.positions.map fun (x, y) => ⟨x, y, .tint style⟩

def panel (area : Area) (title : String) (lines titleStyle : Style) : Drawing :=
  border area lines ++
    if area.width = 0 ∨ area.height = 0 then []
    else label (area.x + 1) area.y (area.width - 2) (" " ++ title ++ " ") titleStyle

end KubeSim.Screen
