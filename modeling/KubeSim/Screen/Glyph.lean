import KubeSim.Screen.Canvas
import KubeSim.Text.Grapheme
import KubeSim.Text.Width

/-! # Text on the screen

A styled text is cut into glyphs, one for each grapheme cluster. `fit` keeps the glyphs that find
room in a number of columns. A label is a single text in one style; the rows of a paragraph are
made of spans.
-/

namespace KubeSim.Screen

open Text (Grapheme.clusters Width.ofCluster)

/-- A grapheme cluster with the columns it takes and its style. -/
structure Glyph where
  symbol : String
  width : Nat
  style : Style
deriving DecidableEq

/-- A text in one style. -/
structure Span where
  text : String
  style : Style
deriving DecidableEq

def Glyph.ofCluster (style : Style) (cluster : List Char) : Glyph :=
  ⟨String.ofList cluster, Text.Width.ofCluster cluster, style⟩

def Span.glyphs (span : Span) : List Glyph :=
  (Text.Grapheme.clusters span.text.toList).map (.ofCluster span.style)

/-- The longest part of the glyphs, from the first on, that fits in `room` columns. -/
def fit : Nat → List Glyph → List Glyph
  | _, [] => []
  | room, glyph :: rest =>
    if glyph.width ≤ room then glyph :: fit (room - glyph.width) rest else []

def totalWidth (glyphs : List Glyph) : Nat := glyphs.foldr (·.width + ·) 0

def isControl (c : Char) : Bool := c.toNat < 0x20 || (0x7F ≤ c.toNat && c.toNat < 0xA0)

/-- The glyphs of a label: control characters and glyphs without width are left out. -/
def labelGlyphs (text : String) (style : Style) : List Glyph :=
  (Span.glyphs ⟨text, style⟩).filter fun glyph =>
    0 < glyph.width && !glyph.symbol.toList.any isControl

/-- Writes glyphs side by side, and blanks what a wide one covers. -/
def placeLabel (x y : Nat) : List Glyph → Drawing
  | [] => []
  | glyph :: rest =>
    ⟨x, y, .write glyph.symbol glyph.style⟩ ::
      ((List.range (glyph.width - 1)).map fun i => ⟨x + 1 + i, y, .clear⟩) ++
      placeLabel (x + glyph.width) y rest

/-- A text in one style from a cell on, as far as it fits in `room` columns. -/
def label (x y room : Nat) (text : String) (style : Style) : Drawing :=
  placeLabel x y (fit room (labelGlyphs text style))

/-- The glyphs of a row of a paragraph: a line feed is left out, and so is a glyph that is wider
than the whole row. -/
def rowGlyphs (width : Nat) (spans : List Span) : List Glyph :=
  fit width ((spans.flatMap Span.glyphs).filter fun glyph =>
    glyph.symbol ≠ "\n" && glyph.width ≤ width)

/-- Writes glyphs side by side. One without width is not shown. -/
def placeRow (x y : Nat) : List Glyph → Drawing
  | [] => []
  | glyph :: rest =>
    if glyph.width = 0 then placeRow x y rest
    else ⟨x, y, .write glyph.symbol glyph.style⟩ :: placeRow (x + glyph.width) y rest

end KubeSim.Screen
