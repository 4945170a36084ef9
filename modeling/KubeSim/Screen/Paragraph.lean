import KubeSim.Screen.Glyph
import KubeSim.Text.Blank

/-! # Paragraphs and word wrap

A paragraph shows its lines one below the other, each on a row of its own and cut where the row
ends. `wrap` breaks a text into such lines between words.
-/

namespace KubeSim.Screen

/-- The side at which a line starts. -/
inductive Alignment where
  | left
  | right
deriving DecidableEq, Repr

/-- The columns left free before a line of this width. -/
def Alignment.indent (alignment : Alignment) (room width : Nat) : Nat :=
  match alignment with
  | .left => 0
  | .right => room - width

/-- One line of a paragraph in row `y`, from column `x` on. -/
def paragraphRow (x y width : Nat) (alignment : Alignment) (spans : List Span) : Drawing :=
  let glyphs := rowGlyphs width spans
  placeRow (x + alignment.indent width (totalWidth glyphs)) y glyphs

/-- The lines of a paragraph that find room in an area. -/
def paragraph (area : Area) (alignment : Alignment) (lines : List (List Span)) : Drawing :=
  (lines.take area.height).zipIdx.flatMap fun (spans, row) =>
    paragraphRow area.x (area.y + row) area.width alignment spans

/-- Cuts a word into pieces of `width` characters, of which the first has `room` left. -/
def cutWord (width : Nat) : Nat → List Char → List (List Char)
  | _, [] => [[]]
  | 0, c :: rest =>
    match cutWord width (width - 1) rest with
    | [] => [[], [c]]
    | piece :: others => [] :: (c :: piece) :: others
  | room + 1, c :: rest =>
    match cutWord width room rest with
    | [] => [[c]]
    | piece :: others => (c :: piece) :: others

/-- Adds a word to lines that are listed from the newest to the oldest. -/
def addWord (width : Nat) (lines : List (List Char)) (word : List Char) : List (List Char) :=
  match lines with
  | [] => (cutWord width width word).reverse
  | line :: older =>
    if line.length + 1 + word.length ≤ width then (line ++ ' ' :: word) :: older
    else (cutWord width width word).reverse ++ line :: older

/-- Breaks a text into lines of at most `width` characters. A word stays on the line of the word
before it if there is room for it and a blank. A word longer than a line is cut. -/
def wrap (width : Nat) (text : String) : List String :=
  ((Text.runs text.toList).foldl (addWord width) []).reverse.map String.ofList

end KubeSim.Screen
