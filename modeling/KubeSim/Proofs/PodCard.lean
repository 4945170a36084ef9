import KubeSim.Proofs.Strip
import KubeSim.Screen.PodCard

/-! # The rows of a pod card

A card is a label in each of its rows, of which there are three at most, and so it keeps to the
first rows of its area (`keepsTo_podCard`). Each label is cut where the area ends. A wide glyph that
would stand across the edge is left out together with all that follows it, and the cells there stay
as they were (`ShowsCut`).
-/

namespace KubeSim.Screen

/-! ## Labels that are cut -/

def Glyph.takesColumns (glyph : Glyph) : Bool := 0 < glyph.width

/-- Whether a label shows the glyph: it takes columns, and none of its characters is a control
character. -/
def Glyph.isShown (glyph : Glyph) : Bool :=
  glyph.takesColumns && !glyph.symbol.toList.any isControl

/-- A row of cells came to show the first of the glyphs, as many as find room side by side, and
behind them it is as it was before. -/
def ShowsCut (glyphs : List Glyph) (before after : List Cell) : Prop :=
  ∃ shown, IsCut before.length glyphs shown ∧
    after = List.zipWith Cell.marked before (shown.flatMap (Glyph.marks (some .clear))) ++
      before.drop (totalWidth shown)

/-- What a row came to show is settled by the glyphs that fit. -/
theorem ShowsCut.eq {glyphs : List Glyph} {before after : List Cell}
    (shows : ShowsCut glyphs before after) :
    let shown := fit before.length glyphs
    after = List.zipWith Cell.marked before (shown.flatMap (Glyph.marks (some .clear))) ++
      before.drop (totalWidth shown) := by
  obtain ⟨shown, cut, rfl⟩ := shows
  rw [cut.unique (fit_isCut _ _)]

/-- A label that has the whole width of a row shows its glyphs, cut at the end of the row. -/
private theorem showsCut_label {canvas : Canvas} {x y width : Nat}
    (columns : x + width ≤ canvas.width)
    (row : y < canvas.height) (text : Span) :
    ShowsCut (text.glyphs.filter Glyph.isShown) (canvas.row x y width)
      ((canvas.draw (label x y width text.text text.style)).row x y width) := by
  refine ⟨fit width (labelGlyphs text.text text.style), ?_, ?_⟩
  · rw [Canvas.length_row]
    exact fit_isCut width _
  · have marks : totalWidth (fit width (labelGlyphs text.text text.style)) =
        (labelMarks width text.text text.style).length := (length_flatMap_marks _ _).symm
    rw [label_eq_strip, Canvas.row_draw_strip_append (length_labelMarks_le _ _ _) columns row,
      marks]
    rfl

/-! ## Cards -/

variable {pod : Pod} {area : Area}

/-- With too little room nothing is drawn. -/
private theorem podCard_eq_nil (pod : Pod) (edge : Nat) (small : area.height = 0 ∨ area.width < 4) :
    podCard pod edge area = [] := if_pos small

private theorem keepsTo_cardLabel (edge : Nat) (area : Area) (row : Span) (j : Nat) :
    (label area.x (area.y + j) (min area.width (edge - area.x)) row.text row.style).KeepsTo
      ⟨area.x, area.y + j, area.width, 1⟩ := by
  refine (keepsTo_label _ _ _ row.text row.style).mono fun x y inside => ?_
  simp only [Area.Contains, Area.right, Area.bottom] at inside ⊢
  omega

/-- A card keeps to the first three rows of its area. -/
theorem keepsTo_podCard (pod : Pod) (edge : Nat) (area : Area) :
    (podCard pod edge area).KeepsTo ⟨area.x, area.y, area.width, min area.height 3⟩ := by
  by_cases small : area.height = 0 ∨ area.width < 4
  · rw [podCard_eq_nil pod edge small]
    exact Drawing.keepsTo_nil _
  · rw [podCard, if_neg small]
    have few : ((cardRows pod).take area.height).length ≤ min area.height 3 :=
      Nat.le_of_eq List.length_take
    exact @keepsTo_rows _ ⟨area.x, area.y, area.width, min area.height 3⟩ _ _
      (keepsTo_cardLabel edge area) few

/-- A row of a card is a label. -/
private theorem marksAt_podCard {edge j : Nat} {row : Span}
    (large : ¬(area.height = 0 ∨ area.width < 4)) (inside : j < area.height)
    (listed : (cardRows pod)[j]? = some row) (x : Nat) :
    Canvas.marksAt (podCard pod edge area) x (area.y + j) =
      Canvas.marksAt (label area.x (area.y + j) (min area.width (edge - area.x)) row.text row.style)
        x (area.y + j) := by
  rw [podCard, if_neg large, marksAt_rows (keepsTo_cardLabel edge area),
    List.getElem?_take_of_lt inside, listed]
  rfl

/-- The rows of a canvas came to show the rows of a card. Of the glyphs of a row only some are
counted. -/
def ShowsRows (counted : Glyph → Bool) (pod : Pod) (area : Area) (before after : Canvas) : Prop :=
  ∀ j row, j < area.height → (cardRows pod)[j]? = some row →
    ShowsCut (row.glyphs.filter counted) (before.row area.x (area.y + j) area.width)
      (after.row area.x (area.y + j) area.width)

/-- With enough room the rows of the card are shown. -/
theorem showsRows_podCard {canvas : Canvas} (right : area.right ≤ canvas.width)
    (bottom : area.bottom ≤ canvas.height) (large : ¬(area.height = 0 ∨ area.width < 4)) :
    ShowsRows Glyph.isShown pod area canvas (canvas.draw (podCard pod canvas.width area)) := by
  intro j row inside listed
  simp only [Area.right, Area.bottom] at right bottom
  have room : min area.width (canvas.width - area.x) = area.width := by omega
  have same : (canvas.draw (podCard pod canvas.width area)).row area.x (area.y + j) area.width =
      (canvas.draw (label area.x (area.y + j) area.width row.text row.style)).row area.x
        (area.y + j) area.width := by
    refine List.map_congr_left fun i _ => canvas.cell_draw_congr ?_
    rw [marksAt_podCard large inside listed, room]
  rw [same]
  exact showsCut_label right (by omega) row

/-- Whatever the pod is called, its card changes no cell outside its area and none below the third
row of the area, and nothing at all where there is too little room. Otherwise each of its rows shows
its text, from the first glyph on and as far as it fits, and behind it the cells are as they were.
Glyphs that take no column and control characters are left out. Put together, the glyphs of a row
are its text. -/
theorem podCard_confined (pod : Pod) {canvas : Canvas} {area : Area}
    (right : area.right ≤ canvas.width) (bottom : area.bottom ≤ canvas.height) :
    let after := canvas.draw (podCard pod canvas.width area)
    (∀ x y, ¬area.Contains x y ∨ area.y + 3 ≤ y → after.cell x y = canvas.cell x y) ∧
    (area.height = 0 ∨ area.width < 4 → after = canvas) ∧
    (¬(area.height = 0 ∨ area.width < 4) → ShowsRows Glyph.isShown pod area canvas after) ∧
    ∀ row ∈ cardRows pod, row.SpelledBy row.glyphs := by
  intro after
  refine ⟨fun x y outside => ?_, fun small => ?_, showsRows_podCard right bottom,
    fun row _ => row.spelledBy_glyphs⟩
  · apply canvas.cell_draw_of_keepsTo (keepsTo_podCard pod canvas.width area)
    simp only [Area.Contains, Area.right, Area.bottom] at outside ⊢
    omega
  · exact congrArg canvas.draw (podCard_eq_nil pod canvas.width small)

/-- A wide character across the edge is left out, and the last cell of the row stays as it was. -/
theorem podCard_confined_across_edge :
    let canvas := (Canvas.blank 9 5).draw (label 0 1 9 "*********" .plain)
    let after := canvas.draw (podCard (.healthy "漢字" "10.0.0.1") canvas.width ⟨2, 1, 5, 4⟩)
    Area.right ⟨2, 1, 5, 4⟩ ≤ canvas.width ∧ Area.bottom ⟨2, 1, 5, 4⟩ ≤ canvas.height ∧
      (after.row 2 1 5).map Cell.symbol = ["✔", " ", "漢", " ", "*"] ∧
      after.cell 7 1 = canvas.cell 7 1 := by
  intro canvas after
  have right : Area.right ⟨2, 1, 5, 4⟩ ≤ canvas.width := by decide +kernel
  have bottom : Area.bottom ⟨2, 1, 5, 4⟩ ≤ canvas.height := by decide +kernel
  obtain ⟨frame, _, rows, _⟩ := podCard_confined (.healthy "漢字" "10.0.0.1") right bottom
  have row := congrArg (List.map Cell.symbol) (rows (by decide) 0 _ (by decide) rfl).eq
  exact ⟨right, bottom, row.trans (by decide +kernel), frame 7 1 (.inl (by decide))⟩

/-- A bell takes a column, and still a card leaves it out. -/
theorem podCard_skips_bell :
    let pod := Pod.healthy "a\x07b" "10.0.0.1"
    let area : Area := ⟨0, 0, 6, 3⟩
    let canvas := Canvas.blank 6 3
    let after := canvas.draw (podCard pod canvas.width area)
    area.right ≤ canvas.width ∧ area.bottom ≤ canvas.height ∧
      ¬(area.height = 0 ∨ area.width < 4) ∧ Text.Width.ofCluster ['\x07'] = 1 ∧
      (after.row 0 0 6).map Cell.symbol = ["✔", " ", "a", "b", " ", " "] ∧
      ¬ShowsRows Glyph.takesColumns pod area canvas after := by
  refine ⟨by decide, by decide, by decide, by decide +kernel, by decide +kernel, fun shows => ?_⟩
  have row := congrArg (List.map Cell.symbol) (shows 0 _ (by decide) rfl).eq
  exact absurd row (by decide +kernel)

end KubeSim.Screen
