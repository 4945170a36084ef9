import KubeSim.Proofs.Panels

/-! # What the terminal shows

On a blank canvas a line of a paragraph is a row of cells: each of its glyphs has its symbol on the
first of the cells that it takes, and the cells behind the last glyph stay blank. The rows of the
terminal are the newest lines of the output, the line of the prompt, and blank rows
(`terminal_shows_newest`). There is always a row for the prompt, since one line of output less is
taken than there are rows.
-/

namespace KubeSim.Screen

/-! ## Rows of cells -/

theorem Canvas.cell_blank (width height x y : Nat) :
    (Canvas.blank width height).cell x y = .blank := by
  simp only [Canvas.cell, Canvas.blank, Array.getElem?_replicate]
  split
  · split <;> rfl
  · rfl

/-- Showing the items of a list in order, and something else where there are no more of them. -/
private theorem map_range_getElem? {α β : Type} {items : List α} {count : Nat}
    (few : items.length ≤ count)
    (shown : Option α → β) :
    (List.range count).map (fun i => shown items[i]?) =
      (items.map fun item => shown (some item)) ++
        List.replicate (count - items.length) (shown none) := by
  refine List.ext_getElem (by simpa using by omega) fun i inside _ => ?_
  simp only [List.getElem_map, List.getElem_range, List.getElem_append, List.length_map,
    List.getElem_replicate]
  split
  · next short => rw [List.getElem?_eq_getElem short]
  · next long => rw [List.getElem?_eq_none (by omega)]

/-- The cells that a glyph takes in a blank row. -/
def Glyph.cells (glyph : Glyph) : List Cell :=
  if glyph.width = 0 then []
  else { Cell.blank with symbol := glyph.symbol }.tint glyph.style ::
    List.replicate (glyph.width - 1) .blank

private theorem map_marked_marks (glyph : Glyph) :
    (glyph.marks none).map Cell.blank.marked = glyph.cells := by
  unfold Glyph.marks Glyph.cells
  split
  · rfl
  · simp [Cell.marked, Mark.apply]

/-- A row of cells that shows the spans of a line, as far as they fit. -/
def rowCells (width : Nat) (spans : List Span) : List Cell :=
  (rowGlyphs width spans).flatMap Glyph.cells ++
    List.replicate (width - totalWidth (rowGlyphs width spans)) .blank

private theorem map_marked_lineMarks (width : Nat) (spans : List Span) :
    (List.range width).map (fun i => Cell.blank.marked (lineMarks width spans)[i]?.join) =
      rowCells width spans := by
  rw [map_range_getElem? (length_lineMarks_le width spans) fun mark => Cell.blank.marked mark.join,
    length_lineMarks, rowCells, lineMarks, List.map_flatMap]
  simp only [Option.join_some, map_marked_marks]
  rfl

/-! ## Paragraphs -/

/-- The mark of a paragraph in column `i` and row `j` of its area, if any. -/
def paragraphMark? (width : Nat) (lines : List (List Span)) (i j : Nat) : Option Mark :=
  lines[j]?.elim none fun spans => (lineMarks width spans)[i]?.join

private theorem marksAt_paragraph {area : Area} {j : Nat} (row : j < area.height)
    (lines : List (List Span)) (i : Nat) :
    Canvas.marksAt (paragraph area .left lines) (area.x + i) (area.y + j) =
      (paragraphMark? area.width lines i j).toList := by
  have keeps (spans : List Span) (j : Nat) :=
    keepsTo_paragraphRow area.x (area.y + j) area.width .left spans
  rw [paragraph, marksAt_rows keeps, List.getElem?_take_of_lt row, paragraphMark?]
  cases lines[j]? with
  | none => rfl
  | some spans =>
    simp only [Option.elim_some, paragraphRow_eq_strip, Alignment.indent, Nat.add_zero,
      marksAt_strip]

/-- The cells of a row of a paragraph: those of its line, or blank ones below the last line. -/
private theorem map_marked_paragraphMark? (width : Nat) (lines : List (List Span)) (j : Nat) :
    (List.range width).map (fun i => Cell.blank.marked (paragraphMark? width lines i j)) =
      lines[j]?.elim (List.replicate width .blank) (rowCells width) := by
  unfold paragraphMark?
  cases lines[j]? with
  | none => simp [Cell.marked]
  | some spans => exact map_marked_lineMarks width spans

/-- Where only a paragraph is drawn, its lines are shown one below the other. -/
theorem window_draw_paragraph {drawing : Drawing} {area : Area} {lines : List (List Span)}
    {width height : Nat} (covers : Area.Covers ⟨0, 0, width, height⟩ area)
    (few : lines.length ≤ area.height)
    (only : ∀ x y, area.Contains x y → Canvas.marksAt drawing x y =
      Canvas.marksAt (paragraph area .left lines) x y) :
    ((Canvas.blank width height).draw drawing).window area =
      lines.map (rowCells area.width) ++
        List.replicate (area.height - lines.length) (List.replicate area.width .blank) := by
  have cells {i j : Nat} (column : i < area.width) (row : j < area.height) :
      ((Canvas.blank width height).draw drawing).cell (area.x + i) (area.y + j) =
        Cell.blank.marked (paragraphMark? area.width lines i j) := by
    have inside : area.Contains (area.x + i) (area.y + j) := by
      simp only [Area.Contains, Area.right, Area.bottom]
      omega
    obtain ⟨columns, rows⟩ : area.x + i < width ∧ area.y + j < height := by
      have covered := covers _ _ inside
      simp only [Area.Contains, Area.right, Area.bottom] at covered
      omega
    rw [Canvas.cell_draw columns rows, only _ _ inside, marksAt_paragraph row, Canvas.cell_blank]
    cases paragraphMark? area.width lines i j <;> rfl
  have rows : ((Canvas.blank width height).draw drawing).window area =
      (List.range area.height).map fun j =>
        lines[j]?.elim (List.replicate area.width .blank) (rowCells area.width) := by
    refine List.map_congr_left fun j member => ?_
    rw [← map_marked_paragraphMark?]
    exact List.map_congr_left fun i member' =>
      cells (List.mem_range.mp member') (List.mem_range.mp member)
  rw [rows, map_range_getElem? few fun line =>
    line.elim (List.replicate area.width .blank) (rowCells area.width)]
  rfl

/-! ## The terminal -/

/-- However large the screen is asked for, its first cell is the origin. -/
private theorem limited_origin (width height : Nat) :
    Area.limited 0 0 width height =
      ⟨0, 0, (Area.limited 0 0 width height).width, (Area.limited 0 0 width height).height⟩ := by
  unfold Area.limited
  split <;> rfl

/-- A row that shows a text in one look. -/
def lineCells (width : Nat) (text : String) (style : Style) : List Cell :=
  rowCells width [⟨text, style⟩]

/-- What a text shows in a row: its glyphs without line feeds and without those wider than the row,
cut where the row ends. -/
theorem rowGlyphs_isCut (width : Nat) (text : String) (style : Style) :
    IsCut width
      ((Span.glyphs ⟨text, style⟩).filter fun glyph => glyph.symbol ≠ "\n" && glyph.width ≤ width)
      (rowGlyphs width [⟨text, style⟩]) := by
  rw [rowGlyphs, List.flatMap_singleton]
  exact fit_isCut width _

theorem length_lineCells (width : Nat) (text : String) (style : Style) :
    (lineCells width text style).length = width := by
  rw [lineCells, ← map_marked_lineMarks, List.length_map, List.length_range]

private theorem length_terminalLines {rows : Nat} (tall : 1 ≤ rows) (output : List String)
    (typed : String) :
    (terminalLines output typed rows).length = min (rows - 1) output.length + 1 := by
  simp only [terminalLines, List.length_append, List.length_map, List.length_drop, List.length_cons,
    List.length_nil]
  omega

/-- The lines of the terminal as rows of cells. -/
private theorem map_rowCells_terminalLines {rows : Nat} (tall : 1 ≤ rows) (width : Nat)
    (output : List String) (typed : String) :
    ((terminalLines output typed rows).map ([·])).map (rowCells width) =
      ((output.drop (output.length - min (rows - 1) output.length)).map fun line =>
        lineCells width line (lineStyle line)) ++
      [lineCells width (promptMark ++ typed ++ "_") (.colored .green)] := by
  -- The row of the prompt counts as one more line, which is never among those left out.
  have newest : output.length + 1 - rows = output.length - min (rows - 1) output.length := by omega
  simp only [terminalLines, newest, List.map_append, List.map_map, List.map_cons, List.map_nil]
  rfl

/-- On every screen where the terminal has a row inside its frame, whatever was put out and typed,
the rows of the terminal show the newest lines of output, in their order and each in a row of its
own, then the line that is typed behind the prompt, and then nothing. Of the output as many lines
are shown as there are rows besides the row of the prompt. Each line is cut where its row ends:
glyphs that are wider than the row and line feeds are left out, and from the first glyph on that
does not fit nothing is shown. Put together, the glyphs of a line are the line. -/
theorem terminal_shows_newest (console : Console) (elapsed width height : Nat)
    (tall : 1 ≤ (Layout.terminalArea (Area.limited 0 0 width height)).inner.height) :
    let inner := (Layout.terminalArea (Area.limited 0 0 width height)).inner
    let shown := min (inner.height - 1) console.output.length
    ((render console elapsed width height).window inner =
      ((console.output.drop (console.output.length - shown)).map fun line =>
        lineCells inner.width line (lineStyle line)) ++
      lineCells inner.width (promptMark ++ console.prompt.text ++ "_") (.colored .green) ::
      List.replicate (inner.height - 1 - shown) (List.replicate inner.width .blank)) ∧
    ∀ (text : String) (style : Style),
      (lineCells inner.width text style).length = inner.width ∧
      Span.SpelledBy ⟨text, style⟩ (Span.glyphs ⟨text, style⟩) ∧
      IsCut inner.width
        ((Span.glyphs ⟨text, style⟩).filter fun glyph =>
          glyph.symbol ≠ "\n" && glyph.width ≤ inner.width)
        (rowGlyphs inner.width [⟨text, style⟩]) := by
  intro inner shown
  refine ⟨?_, fun text style => ⟨length_lineCells _ text style, Span.spelledBy_glyphs _,
    rowGlyphs_isCut _ text style⟩⟩
  let frame := Area.limited 0 0 width height
  let terminal := Layout.terminalArea frame
  let lines : List (List Span) :=
    (terminalLines console.output console.prompt.text inner.height).map ([·])
  have length : lines.length = shown + 1 := by
    rw [List.length_map, length_terminalLines tall]
  have few : lines.length ≤ inner.height := by
    have less : shown ≤ inner.height - 1 := Nat.min_le_left _ _
    have some : 1 ≤ inner.height := tall
    omega
  have covers : Area.Covers ⟨0, 0, frame.width, frame.height⟩ inner := by
    rw [← limited_origin]
    exact (Layout.covers_terminalArea frame).trans terminal.covers_inner
  have window : (render console elapsed width height).window inner =
      lines.map (rowCells inner.width) ++
        List.replicate (inner.height - lines.length) (List.replicate inner.width .blank) :=
    window_draw_paragraph covers few fun x y inside => marksAt_dashboard console elapsed inside
  have rest : inner.height - lines.length = inner.height - 1 - shown := by omega
  rw [window, rest, map_rowCells_terminalLines tall, List.append_assoc, List.singleton_append]

/-- On a screen of 80 columns and 24 rows the welcome is followed by the prompt and ten blank
rows. -/
theorem terminal_shows_newest_welcome :
    let inner := (Layout.terminalArea (Area.limited 0 0 80 24)).inner
    inner = ⟨27, 4, 52, 15⟩ ∧
      (render (.ofSession (.ofCluster .scenario) true) 0 80 24).window inner =
        (welcome.map fun line => lineCells 52 line (lineStyle line)) ++
          lineCells 52 "$ _" (.colored .green) :: List.replicate 10 (List.replicate 52 .blank) ∧
      (lineCells 52 "$ _" (.colored .green)).map Cell.symbol =
        "$" :: " " :: "_" :: List.replicate 49 " " := by
  have inner : (Layout.terminalArea (Area.limited 0 0 80 24)).inner = ⟨27, 4, 52, 15⟩ := by decide
  have tall : 1 ≤ (Layout.terminalArea (Area.limited 0 0 80 24)).inner.height := by
    rw [inner]
    decide
  have window := (terminal_shows_newest (.ofSession (.ofCluster .scenario) true) 0 80 24 tall).1
  have count : (Console.ofSession (.ofCluster .scenario) true).output.length = 4 := rfl
  have typed : promptMark ++ (Console.ofSession (.ofCluster .scenario) true).prompt.text ++ "_" =
      "$ _" := by decide +kernel
  rw [inner, count, typed] at window
  exact ⟨inner, inner ▸ window, by decide +kernel⟩

end KubeSim.Screen
