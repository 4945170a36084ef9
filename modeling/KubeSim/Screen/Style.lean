/-! # Colours and styles

A style says what to change of a cell's looks. A cell always has a colour, and one that was never
painted has the terminal's own.
-/

namespace KubeSim.Screen

inductive Color where
  | reset
  | black
  | red
  | green
  | yellow
  | blue
  | magenta
  | cyan
  | gray
  | darkGray
  | lightRed
  | lightGreen
  | lightYellow
  | lightBlue
  | lightMagenta
  | lightCyan
  | white
deriving DecidableEq, Repr

/-- A change of colour, and whether to make the text bold. -/
structure Style where
  color : Option Color
  bold : Bool
deriving DecidableEq, Repr

namespace Style

def plain : Style := ⟨none, false⟩

def colored (color : Color) : Style := ⟨some color, false⟩

/-- Bold text in a colour. -/
def strong (color : Color) : Style := ⟨some color, true⟩

end Style

structure Cell where
  symbol : String
  color : Color
  bold : Bool
deriving DecidableEq, Repr

namespace Cell

def blank : Cell := ⟨" ", .reset, false⟩

instance : Inhabited Cell := ⟨blank⟩

/-- The cell with its looks changed. Bold text stays bold. -/
def tint (cell : Cell) (style : Style) : Cell :=
  { cell with color := style.color.getD cell.color, bold := cell.bold || style.bold }

end Cell

end KubeSim.Screen
