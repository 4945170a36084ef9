import KubeSim.Proofs.Reach
import KubeSim.Screen.Paragraph
import Mathlib.Data.List.Basic

/-! # Rows of text, cell by cell

A strip is a row of marks, one or none for each cell from a column on. What is written in a row is a
strip: a glyph puts its symbol on the first of its cells, and the other cells that it takes are
blanked by a label and left alone by a paragraph. So the row of the canvas shows the marks of the
strip one by one (`Canvas.row_draw_strip`).

The glyphs that are written are a cut of the glyphs that there are: they come first, they find room,
and the next one does not (`fit_isCut`).
-/

namespace KubeSim.Screen

/-! ## Strips -/

/-- Marks on the cells of row `y` from column `x` on, at most one on each. -/
def strip (x y : Nat) : List (Option Mark) → Drawing
  | [] => []
  | mark :: rest => (mark.toList.map fun mark => ⟨x, y, mark⟩) ++ strip (x + 1) y rest

theorem strip_append (x y : Nat) (marks others : List (Option Mark)) :
    strip x y (marks ++ others) = strip x y marks ++ strip (x + marks.length) y others := by
  induction marks generalizing x with
  | nil => rfl
  | cons mark rest ih =>
    simp only [List.cons_append, strip, ih, List.append_assoc, List.length_cons]
    rw [Nat.add_right_comm, Nat.add_assoc]

theorem keepsTo_strip (x y : Nat) (marks : List (Option Mark)) :
    (strip x y marks).KeepsTo ⟨x, y, marks.length, 1⟩ := by
  induction marks generalizing x with
  | nil => exact Drawing.keepsTo_nil _
  | cons mark rest ih =>
    refine .append ?_ ((ih (x + 1)).mono ?_)
    · intro stroke member
      obtain ⟨_, _, rfl⟩ := List.mem_map.mp member
      simp only [Area.Contains, Area.right, Area.bottom, List.length_cons]
      omega
    · intro column row inside
      simp only [Area.Contains, Area.right, Area.bottom, List.length_cons] at inside ⊢
      omega

/-- A cell of the strip gets its mark. -/
theorem marksAt_strip (x y i : Nat) (marks : List (Option Mark)) :
    Canvas.marksAt (strip x y marks) (x + i) y = marks[i]?.join.toList := by
  induction marks generalizing x i with
  | nil => rfl
  | cons mark rest ih =>
    rw [strip, Canvas.marksAt_append]
    cases i with
    | zero =>
      have tail : Canvas.marksAt (strip (x + 1) y rest) x y = [] := by
        apply (keepsTo_strip (x + 1) y rest).marksAt_eq_nil
        simp only [Area.Contains]
        omega
      rw [Nat.add_zero, tail]
      cases mark <;> simp [Canvas.marksAt]
    | succ i =>
      have head :
          Canvas.marksAt (mark.toList.map fun mark => ⟨x, y, mark⟩) (x + (i + 1)) y = [] := by
        cases mark <;> simp [Canvas.marksAt]
      rw [head, List.nil_append, ← Nat.add_assoc, Nat.add_right_comm, ih, List.getElem?_cons_succ]

/-- The cell after a mark was made on it, if any. -/
def Cell.marked (cell : Cell) (mark : Option Mark) : Cell := mark.elim cell (·.apply cell)

namespace Canvas

variable {canvas : Canvas} {x y : Nat}

/-- The cells of row `y` from column `x` on, `width` of them. -/
def row (canvas : Canvas) (x y width : Nat) : List Cell :=
  (List.range width).map fun i => canvas.cell (x + i) y

def window (canvas : Canvas) (area : Area) : List (List Cell) :=
  (List.range area.height).map fun j => canvas.row area.x (area.y + j) area.width

@[simp] theorem length_row (canvas : Canvas) (x y width : Nat) :
    (canvas.row x y width).length = width := by
  simp [row]

private theorem getElem_row {width i : Nat} (inside : i < (canvas.row x y width).length) :
    (canvas.row x y width)[i] = canvas.cell (x + i) y := by
  simp [row]

private theorem cell_draw_strip {i : Nat} (column : x + i < canvas.width) (row : y < canvas.height)
    (marks : List (Option Mark)) :
    (canvas.draw (strip x y marks)).cell (x + i) y =
      (canvas.cell (x + i) y).marked marks[i]?.join := by
  rw [cell_draw column row, marksAt_strip]
  cases marks[i]?.join <;> rfl

/-- The row of a strip shows its marks one by one, and behind them the cells as they were. -/
theorem row_draw_strip_append {marks : List (Option Mark)} {width : Nat}
    (short : marks.length ≤ width) (columns : x + width ≤ canvas.width) (row : y < canvas.height) :
    (canvas.draw (strip x y marks)).row x y width =
      List.zipWith Cell.marked (canvas.row x y width) marks ++
        (canvas.row x y width).drop marks.length := by
  refine List.ext_getElem ?_ fun i inside _ => ?_
  · simp only [length_row, List.length_append, List.length_zipWith, List.length_drop]
    omega
  · have column : x + i < canvas.width := by
      rw [length_row] at inside
      omega
    rw [getElem_row, cell_draw_strip column row]
    simp only [List.getElem_append, List.length_zipWith, length_row, Nat.min_eq_right short]
    split
    · next marked =>
      rw [List.getElem_zipWith, getElem_row, List.getElem?_eq_getElem marked, Option.join_some]
    · next unmarked =>
      have place : marks.length + (i - marks.length) = i := by omega
      rw [List.getElem_drop, getElem_row, List.getElem?_eq_none (by omega), place]
      rfl

/-- A row as long as a strip shows its marks one by one. -/
theorem row_draw_strip {marks : List (Option Mark)} (columns : x + marks.length ≤ canvas.width)
    (row : y < canvas.height) :
    (canvas.draw (strip x y marks)).row x y marks.length =
      List.zipWith Cell.marked (canvas.row x y marks.length) marks := by
  rw [row_draw_strip_append (Nat.le_refl _) columns row, List.drop_eq_nil_of_le (by simp),
    List.append_nil]

end Canvas

/-! ## Glyphs side by side -/

/-- The marks of a glyph on its cells, where `covered` is the mark on all but the first. -/
def Glyph.marks (covered : Option Mark) (glyph : Glyph) : List (Option Mark) :=
  if glyph.width = 0 then []
  else some (.write glyph.symbol glyph.style) :: List.replicate (glyph.width - 1) covered

private theorem length_glyph_marks (covered : Option Mark) (glyph : Glyph) :
    (glyph.marks covered).length = glyph.width := by
  unfold Glyph.marks
  split
  · next none => exact none.symm
  · next some => simp only [List.length_cons, List.length_replicate]; omega

theorem totalWidth_cons (glyph : Glyph) (rest : List Glyph) :
    totalWidth (glyph :: rest) = glyph.width + totalWidth rest := rfl

theorem totalWidth_append (glyphs others : List Glyph) :
    totalWidth (glyphs ++ others) = totalWidth glyphs + totalWidth others := by
  induction glyphs with
  | nil => exact (Nat.zero_add _).symm
  | cons glyph rest ih =>
    rw [List.cons_append, totalWidth_cons, totalWidth_cons, ih, Nat.add_assoc]

theorem length_flatMap_marks (covered : Option Mark) (glyphs : List Glyph) :
    (glyphs.flatMap (Glyph.marks covered)).length = totalWidth glyphs := by
  induction glyphs with
  | nil => rfl
  | cons glyph rest ih =>
    rw [List.flatMap_cons, List.length_append, length_glyph_marks, ih, totalWidth_cons]

private theorem placeRow_eq_strip (x y : Nat) (glyphs : List Glyph) :
    placeRow x y glyphs = strip x y (glyphs.flatMap (Glyph.marks none)) := by
  have covered (x n : Nat) : strip x y (List.replicate n none) = [] := by
    induction n generalizing x with
    | zero => rfl
    | succ n ih => simp [List.replicate_succ, strip, ih]
  induction glyphs generalizing x with
  | nil => rfl
  | cons glyph rest ih =>
    rw [List.flatMap_cons, strip_append, length_glyph_marks, placeRow, ih, Glyph.marks]
    split
    · next none => simp [none, strip]
    · rw [ih, strip, covered]
      rfl

/-- A strip without gaps has a stroke for each of its cells. -/
theorem strip_map_some (x y n : Nat) (mark : Nat → Mark) :
    strip x y ((List.range n).map fun i => some (mark i)) =
      (List.range n).map fun i => (⟨x + i, y, mark i⟩ : Stroke) := by
  induction n generalizing x mark with
  | zero => rfl
  | succ n ih =>
    rw [List.range_succ_eq_map, List.map_cons, List.map_map, strip, Function.comp_def,
      ih (x + 1) fun i => mark (i + 1)]
    simp only [Option.toList_some, List.map_cons, List.map_nil, List.cons_append, List.nil_append,
      List.map_map, Function.comp_def, Nat.add_zero, Nat.add_right_comm x 1, Nat.add_assoc]

private theorem placeLabel_eq_strip (x y : Nat) {glyphs : List Glyph}
    (visible : ∀ glyph ∈ glyphs, 0 < glyph.width) :
    placeLabel x y glyphs = strip x y (glyphs.flatMap (Glyph.marks (some .clear))) := by
  induction glyphs generalizing x with
  | nil => rfl
  | cons glyph rest ih =>
    have width := visible glyph (List.mem_cons_self ..)
    have others := ih (x + glyph.width) fun other member =>
      visible other (List.mem_cons_of_mem _ member)
    have covered : List.replicate (glyph.width - 1) (some Mark.clear) =
        (List.range (glyph.width - 1)).map fun _ => some .clear := by simp
    rw [List.flatMap_cons, strip_append, length_glyph_marks, placeLabel, others, Glyph.marks,
      if_neg (by omega), strip, covered, strip_map_some]
    rfl

/-! ## The glyphs of a text -/

/-- Put together the glyphs are the text, each of them has some of it in the style of the text, and
it takes the columns of what it has. -/
structure Span.SpelledBy (span : Span) (glyphs : List Glyph) : Prop where
  text : (glyphs.flatMap fun glyph => glyph.symbol.toList) = span.text.toList
  nonempty : ∀ glyph ∈ glyphs, glyph.symbol ≠ ""
  width : ∀ glyph ∈ glyphs, glyph.width = Text.Width.ofCluster glyph.symbol.toList
  style : ∀ glyph ∈ glyphs, glyph.style = span.style

theorem Span.spelledBy_glyphs (span : Span) : span.SpelledBy span.glyphs := by
  constructor
  · have symbols : (fun cluster => (Glyph.ofCluster span.style cluster).symbol.toList) = id :=
      funext fun _ => String.toList_ofList
    rw [glyphs, List.flatMap_map, symbols, List.flatMap_id, Text.Grapheme.flatten_clusters]
  all_goals
    intro glyph member
    obtain ⟨cluster, inside, rfl⟩ := List.mem_map.mp member
  · intro empty
    obtain rfl : cluster = [] := String.ofList_inj.mp empty
    exact Text.Grapheme.nil_notMem_clusters _ inside
  · simp only [Glyph.ofCluster, String.toList_ofList]
  · rfl

/-! ## Cutting glyphs to the room there is -/

/-- What is shown are the first of the glyphs, as many as find room side by side. -/
structure IsCut (room : Nat) (glyphs shown : List Glyph) : Prop where
  isPrefix : shown <+: glyphs
  fits : totalWidth shown ≤ room
  full : ∀ next, shown ++ [next] <+: glyphs → room < totalWidth (shown ++ [next])

theorem fit_isCut (room : Nat) (glyphs : List Glyph) : IsCut room glyphs (fit room glyphs) := by
  induction glyphs generalizing room with
  | nil =>
    refine ⟨List.nil_prefix, Nat.zero_le _, fun next long => ?_⟩
    exact absurd (List.prefix_nil.mp long) (by simp [fit])
  | cons glyph rest ih =>
    rw [fit]
    split
    · next room' =>
      have cut := ih (room - glyph.width)
      refine ⟨List.cons_prefix_cons.mpr ⟨rfl, cut.isPrefix⟩, ?_, fun next long => ?_⟩
      · have fits := cut.fits
        rw [totalWidth_cons]
        omega
      · rw [List.cons_append, List.cons_prefix_cons] at long
        have full := cut.full next long.2
        rw [List.cons_append, totalWidth_cons]
        omega
    · next narrow =>
      refine ⟨List.nil_prefix, Nat.zero_le _, fun next long => ?_⟩
      rw [List.nil_append, List.cons_prefix_cons] at long
      rw [List.nil_append, long.1]
      simp only [totalWidth, List.foldr_cons, List.foldr_nil]
      omega

namespace IsCut

variable {room : Nat} {glyphs shown : List Glyph}

/-- Glyphs from the first on that find room are among those that are shown. -/
theorem isPrefix_of_fits {longer : List Glyph} (cut : IsCut room glyphs shown)
    (part : longer <+: glyphs) (fits : totalWidth longer ≤ room) : longer <+: shown := by
  obtain less | ⟨rest, rfl⟩ := List.prefix_or_prefix_of_prefix part cut.isPrefix
  · exact less
  · cases rest with
    | nil => exact ⟨[], by simp⟩
    | cons next more =>
      -- One glyph more than shown is too wide, and the others take no columns back.
      rw [List.append_cons] at part fits
      have wide := cut.full next ((List.prefix_append _ more).trans part)
      rw [totalWidth_append] at fits
      omega

theorem unique {other : List Glyph} (cut : IsCut room glyphs shown)
    (second : IsCut room glyphs other) : shown = other :=
  (second.isPrefix_of_fits cut.isPrefix cut.fits).eq_of_length_le
    (cut.isPrefix_of_fits second.isPrefix second.fits).length_le

end IsCut

theorem fit_of_le {room : Nat} {glyphs : List Glyph} (fits : totalWidth glyphs ≤ room) :
    fit room glyphs = glyphs := by
  induction glyphs generalizing room with
  | nil => rfl
  | cons glyph rest ih =>
    rw [totalWidth_cons] at fits
    rw [fit, if_pos (by omega), ih (by omega)]

theorem totalWidth_fit_le (room : Nat) (glyphs : List Glyph) :
    totalWidth (fit room glyphs) ≤ room := (fit_isCut room glyphs).fits

/-! ## Labels and paragraphs -/

private theorem visible_of_mem_labelGlyphs {text : String} {style : Style} {glyph : Glyph}
    (member : glyph ∈ labelGlyphs text style) : 0 < glyph.width := by
  have kept := (List.mem_filter.mp member).2
  simp only [Bool.and_eq_true, decide_eq_true_eq] at kept
  exact kept.1

def labelMarks (room : Nat) (text : String) (style : Style) : List (Option Mark) :=
  (fit room (labelGlyphs text style)).flatMap (Glyph.marks (some .clear))

theorem length_labelMarks_le (room : Nat) (text : String) (style : Style) :
    (labelMarks room text style).length ≤ room := by
  rw [labelMarks, length_flatMap_marks]
  exact totalWidth_fit_le room _

theorem label_eq_strip (x y room : Nat) (text : String) (style : Style) :
    label x y room text style = strip x y (labelMarks room text style) := by
  apply placeLabel_eq_strip
  intro glyph member
  exact visible_of_mem_labelGlyphs ((fit_isCut room _).isPrefix.subset member)

/-- A strip keeps to any area that has room for it. -/
private theorem keepsTo_strip_of_room {area : Area} {x y : Nat} {marks : List (Option Mark)}
    (left : area.x ≤ x) (right : x + marks.length ≤ area.right) (top : area.y ≤ y)
    (bottom : y < area.bottom) : (strip x y marks).KeepsTo area := by
  refine (keepsTo_strip x y marks).mono fun column row inside => ?_
  simp only [Area.Contains, Area.right, Area.bottom] at inside right bottom ⊢
  omega

theorem keepsTo_label (x y room : Nat) (text : String) (style : Style) :
    (label x y room text style).KeepsTo ⟨x, y, room, 1⟩ := by
  have short := length_labelMarks_le room text style
  rw [label_eq_strip]
  apply keepsTo_strip_of_room <;> simp only [Area.right, Area.bottom] <;> omega

def lineMarks (width : Nat) (spans : List Span) : List (Option Mark) :=
  (rowGlyphs width spans).flatMap (Glyph.marks none)

theorem length_lineMarks (width : Nat) (spans : List Span) :
    (lineMarks width spans).length = totalWidth (rowGlyphs width spans) :=
  length_flatMap_marks none _

theorem length_lineMarks_le (width : Nat) (spans : List Span) :
    (lineMarks width spans).length ≤ width := by
  rw [length_lineMarks]
  exact totalWidth_fit_le width _

theorem paragraphRow_eq_strip (x y width : Nat) (alignment : Alignment) (spans : List Span) :
    paragraphRow x y width alignment spans =
      strip (x + alignment.indent width (lineMarks width spans).length) y
        (lineMarks width spans) := by
  rw [length_lineMarks]
  exact placeRow_eq_strip _ y _

private theorem Alignment.indent_add_le (alignment : Alignment) {room width : Nat}
    (fits : width ≤ room) :
    alignment.indent room width + width ≤ room := by
  cases alignment <;> simp only [Alignment.indent] <;> omega

theorem keepsTo_paragraphRow (x y width : Nat) (alignment : Alignment) (spans : List Span) :
    (paragraphRow x y width alignment spans).KeepsTo ⟨x, y, width, 1⟩ := by
  have fits := alignment.indent_add_le (length_lineMarks_le width spans)
  rw [paragraphRow_eq_strip]
  apply keepsTo_strip_of_room <;> simp only [Area.right, Area.bottom] <;> omega

/-- Rows that are drawn below each other keep to an area that has room for them. -/
theorem keepsTo_rows {α : Type} {area : Area} {items : List α} {draw : α → Nat → Drawing}
    (keeps : ∀ item j, (draw item j).KeepsTo ⟨area.x, area.y + j, area.width, 1⟩)
    (room : items.length ≤ area.height) :
    Drawing.KeepsTo (items.zipIdx.flatMap fun (item, j) => draw item j) area := by
  refine Drawing.keepsTo_flatMap fun (item, j) listed => (keeps item j).mono fun x y inside => ?_
  have below := List.snd_lt_of_mem_zipIdx listed
  simp only [Area.Contains, Area.right, Area.bottom] at inside ⊢
  omega

theorem keepsTo_paragraph (area : Area) (alignment : Alignment) (lines : List (List Span)) :
    (paragraph area alignment lines).KeepsTo area :=
  keepsTo_rows (fun spans j => keepsTo_paragraphRow area.x (area.y + j) area.width alignment spans)
    (List.length_take_le _ _)

section

variable {α : Type} {left top width : Nat} {draw : α → Nat → Drawing}

private theorem marksAt_rows_from
    (keeps : ∀ item j, (draw item j).KeepsTo ⟨left, top + j, width, 1⟩) (items : List α)
    (start x j : Nat) :
    Canvas.marksAt ((items.zipIdx start).flatMap fun (item, j) => draw item j) x (top + j) =
      if start ≤ j then
        items[j - start]?.elim [] fun item => Canvas.marksAt (draw item j) x (top + j)
      else [] := by
  have elsewhere (item : α) {k : Nat} (other : k ≠ j) :
      Canvas.marksAt (draw item k) x (top + j) = [] := by
    apply (keeps item k).marksAt_eq_nil
    simp only [Area.Contains, Area.bottom]
    omega
  induction items generalizing start with
  | nil => simp
  | cons item rest ih =>
    -- The row is below the first item's, or it is that row, or it is above all of them.
    rw [List.zipIdx_cons, List.flatMap_cons, Canvas.marksAt_append, ih]
    obtain before | rfl | after := Nat.lt_trichotomy start j
    · have place : j - start = j - (start + 1) + 1 := by omega
      rw [elsewhere item (by omega), if_pos (by omega), if_pos (by omega), place,
        List.getElem?_cons_succ, List.nil_append]
    · rw [if_neg (by omega), if_pos (Nat.le_refl _), Nat.sub_self, List.getElem?_cons_zero,
        List.append_nil]
      rfl
    · rw [elsewhere item (by omega), if_neg (by omega), if_neg (by omega)]
      rfl

/-- Of rows drawn below each other, only the row of a cell marks it. -/
theorem marksAt_rows (keeps : ∀ item j, (draw item j).KeepsTo ⟨left, top + j, width, 1⟩)
    (items : List α) (x j : Nat) :
    Canvas.marksAt (items.zipIdx.flatMap fun (item, j) => draw item j) x (top + j) =
      items[j]?.elim [] fun item => Canvas.marksAt (draw item j) x (top + j) := by
  rw [marksAt_rows_from keeps, if_pos (Nat.zero_le j), Nat.sub_zero]

end

end KubeSim.Screen
