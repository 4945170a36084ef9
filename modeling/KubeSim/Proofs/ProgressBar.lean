import KubeSim.Proofs.Printable
import KubeSim.Screen.ProgressBar
import Mathlib.Algebra.Order.Field.Rat
import Mathlib.Algebra.Order.Round
import Mathlib.Data.Rat.Floor
import Mathlib.Tactic.Linarith
import Mathlib.Tactic.Ring

/-! # The row of the progress bar

The bar is a strip as long as its area is wide: a bracket, the filled and the empty cells, a bracket
and the label. The filled cells are the whole number nearest to the share that is done. No share
lies halfway between two whole numbers: it is a fifth of a whole number, so that a share which is
off by less than a tenth is rounded alike (`round_eq_filledCells`).
-/

namespace KubeSim

namespace Progress

/-- The label of a progress, written out. -/
private theorem label_eq (progress : Progress) :
    " " ++ progress.label = " Step " ++ Text.decimal progress.step.toNat ++ "/5" := by
  have last : Text.decimal Progress.last.toNat = "5" := by decide +kernel
  rw [label, last]
  exact String.toList_injective (by simp)

private theorem isPrintable_label (progress : Progress) :
    ∀ c ∈ (" " ++ progress.label).toList, Text.IsPrintable c := by
  rw [label_eq]
  simp only [String.toList_append, List.forall_mem_append]
  exact ⟨⟨by simp [Text.IsPrintable], Text.isPrintable_decimal _⟩, by simp [Text.IsPrintable]⟩

end Progress

namespace Screen

/-! ## The filled cells -/

variable (progress : Progress)

theorem ratio_eq : progress.ratio = (progress.step.toNat : ℚ) / 5 := by
  rw [Progress.ratio, Rat.mkRat_eq_div]
  push_cast
  rfl

/-- The number of cells to fill is off the share by two fifths of a cell at most. -/
theorem abs_share_sub_filledCells (bar : ℕ) :
    |(bar : ℚ) * progress.ratio - filledCells progress bar| ≤ 2 / 5 := by
  -- Both sides are even, so that what is below five is four at most.
  have below : 10 * filledCells progress bar ≤ 2 * (bar * progress.step.toNat) + 4 := by
    simp only [filledCells, Nat.mul_assoc]
    omega
  have above : 2 * (bar * progress.step.toNat) ≤ 10 * filledCells progress bar + 4 := by
    simp only [filledCells, Nat.mul_assoc]
    omega
  have below' : (10 * filledCells progress bar : ℚ) ≤ 2 * (bar * progress.step.toNat) + 4 := by
    exact_mod_cast below
  have above' : (2 * (bar * progress.step.toNat) : ℚ) ≤ 10 * filledCells progress bar + 4 := by
    exact_mod_cast above
  rw [ratio_eq, abs_le]
  constructor <;> linarith

/-- A share that is off by less than a tenth of a cell is rounded to the same number. -/
theorem round_eq_filledCells {bar : ℕ} {share : ℚ}
    (close : |share - bar * progress.ratio| < 1 / 10) :
    round share = (filledCells progress bar : ℤ) := by
  have exact' := abs_le.mp (abs_share_sub_filledCells progress bar)
  have near := abs_lt.mp close
  rw [round_eq_iff, Set.mem_Ico]
  push_cast
  constructor <;> linarith [exact'.1, exact'.2, near.1, near.2]

/-- No other whole number is as near to the share. -/
theorem abs_share_sub_lt {bar : ℕ} {other : ℤ} (different : other ≠ filledCells progress bar) :
    |(bar : ℚ) * progress.ratio - filledCells progress bar| <
      |(bar : ℚ) * progress.ratio - other| := by
  have near := abs_share_sub_filledCells progress bar
  have apart : (1 : ℚ) ≤ |(other : ℚ) - filledCells progress bar| := by
    have whole := Int.one_le_abs (sub_ne_zero.mpr different)
    exact_mod_cast whole
  have triangle := abs_sub_le (other : ℚ) (bar * progress.ratio) (filledCells progress bar)
  rw [abs_sub_comm (other : ℚ) (bar * progress.ratio)] at triangle
  linarith

variable {progress}

theorem filledCells_mono {later : Progress} (ahead : progress.step ≤ later.step) (bar : ℕ) :
    filledCells progress bar ≤ filledCells later bar := by
  have steps : progress.step.toNat ≤ later.step.toNat := UInt8.le_iff_toNat_le.mp ahead
  exact Nat.div_le_div_right (Nat.add_le_add_right (Nat.mul_le_mul_left _ steps) 5)

/-! ## The strip -/

/-- The symbols of `bar` cells of which the first are filled, each with its look. -/
def barCells (filled bar : Nat) (color : Color) : List (String × Style) :=
  List.replicate (min bar filled) ("█", .colored color) ++
    List.replicate (bar - min bar filled) ("░", .colored .darkGray)

/-- The symbols of the row of a bar, each with its look. -/
def barText (progress : Progress) (color : Color) (bar : Nat) : List (String × Style) :=
  ("[", .plain) :: (barCells (filledCells progress bar) bar color ++ ("]", .plain) ::
    (" " ++ progress.label).toList.map fun c => (String.ofList [c], .colored .gray))

def writing (text : String × Style) : Option Mark := some (.write text.1 text.2)

private theorem length_barCells (filled bar : Nat) (color : Color) :
    (barCells filled bar color).length = bar := by
  simp only [barCells, List.length_append, List.length_replicate]
  omega

private theorem length_barText (progress : Progress) (color : Color) (bar : Nat) :
    (barText progress color bar).length = bar + (" " ++ progress.label).length + 2 := by
  simp only [barText, List.length_append, List.length_cons, length_barCells, List.length_map,
    String.length_toList]
  omega

/-- The cells of the bar are filled up to a number and empty from there on. -/
private theorem map_barMark (filled bar : Nat) (color : Color) :
    (List.range bar).map (fun i => some (barMark filled i color)) =
      (barCells filled bar color).map writing := by
  refine List.ext_getElem (by simp [length_barCells]) fun i inside _ => ?_
  have short : i < bar := by simpa using inside
  simp only [barCells, List.getElem_map, List.getElem_range, List.getElem_append,
    List.length_replicate, List.getElem_replicate, barMark, Nat.lt_min, short, true_and]
  split <;> rfl

/-- A label of printable characters writes each of them. -/
private theorem labelMarks_of_isPrintable {text : String}
    (printable : ∀ c ∈ text.toList, Text.IsPrintable c) (style : Style) :
    labelMarks text.length text style =
      (text.toList.map fun c => (String.ofList [c], style)).map writing := by
  have room : totalWidth (text.toList.map (charGlyph style)) ≤ text.length := by
    rw [totalWidth_charGlyphs, String.length_toList]
  rw [labelMarks, labelGlyphs_of_isPrintable printable, fit_of_le room, List.flatMap_map,
    List.map_map, List.map_eq_flatMap]
  rfl

/-- The cells between the brackets. -/
def barRoom (progress : Progress) (width : Nat) : Nat :=
  width - (" " ++ progress.label).length - 2

/-- With too little room nothing is drawn. -/
theorem progressBar_eq_nil {area : Area} (color : Color)
    (small : area.height = 0 ∨ area.width < (" " ++ progress.label).length + 3) :
    progressBar progress color area = [] := by
  apply if_pos
  omega

/-- With enough room the bar is a strip. -/
theorem progressBar_eq_strip {area : Area} (color : Color) (tall : 0 < area.height)
    (wide : (" " ++ progress.label).length + 3 ≤ area.width) :
    progressBar progress color area =
      strip area.x area.y ((barText progress color (barRoom progress area.width)).map writing) := by
  have small : ¬(area.width < (" " ++ progress.label).length + 3 ∨ area.height < 1) := by omega
  have drawn : progressBar progress color area =
      ⟨area.x, area.y, .write "[" .plain⟩ ::
        ((List.range (barRoom progress area.width)).map fun i => ⟨area.x + 1 + i, area.y,
          barMark (filledCells progress (barRoom progress area.width)) i color⟩) ++
        ⟨area.x + 1 + barRoom progress area.width, area.y, .write "]" .plain⟩ ::
        label (area.x + 2 + barRoom progress area.width) area.y (" " ++ progress.label).length
          (" " ++ progress.label) (.colored .gray) := if_neg small
  rw [drawn, label_eq_strip, labelMarks_of_isPrintable progress.isPrintable_label, ← strip_map_some,
    map_barMark, barText, List.map_cons, List.map_append, List.map_cons]
  simp only [writing, strip, strip_append, Option.toList_some, List.map_cons, List.map_nil,
    List.cons_append, List.nil_append, List.length_map, length_barCells]
  rw [Nat.add_right_comm (area.x + 1)]

/-- The strip is as long as its area is wide. -/
private theorem length_barText_barRoom (color : Color) {width : Nat}
    (wide : (" " ++ progress.label).length + 3 ≤ width) :
    (barText progress color (barRoom progress width)).length = width := by
  rw [length_barText, barRoom]
  omega

/-- The bar keeps to the first row of its area. -/
theorem keepsTo_progressBar (progress : Progress) (color : Color) (area : Area) :
    (progressBar progress color area).KeepsTo
      ⟨area.x, area.y, area.width, min area.height 1⟩ := by
  by_cases small : area.height = 0 ∨ area.width < (" " ++ progress.label).length + 3
  · rw [progressBar_eq_nil color small]
    exact Drawing.keepsTo_nil _
  · have tall : 0 < area.height := by omega
    have wide : (" " ++ progress.label).length + 3 ≤ area.width := by omega
    have row := keepsTo_strip area.x area.y
      ((barText progress color (barRoom progress area.width)).map writing)
    rw [List.length_map, length_barText_barRoom color wide] at row
    rwa [progressBar_eq_strip color tall wide, Nat.min_eq_right tall]

/-- With enough room the row of the bar shows its text. -/
theorem row_draw_progressBar (color : Color) {canvas : Canvas} {area : Area}
    (right : area.right ≤ canvas.width) (bottom : area.bottom ≤ canvas.height)
    (tall : 0 < area.height) (wide : (" " ++ progress.label).length + 3 ≤ area.width) :
    (canvas.draw (progressBar progress color area)).row area.x area.y area.width =
      List.zipWith Cell.marked (canvas.row area.x area.y area.width)
        ((barText progress color (barRoom progress area.width)).map writing) := by
  have length : ((barText progress color (barRoom progress area.width)).map writing).length =
      area.width := by
    rw [List.length_map, length_barText_barRoom color wide]
  have columns : area.x +
      ((barText progress color (barRoom progress area.width)).map writing).length ≤
        canvas.width := by
    rwa [length]
  have inside : area.y < canvas.height := by
    simp only [Area.bottom] at bottom
    omega
  have shown := Canvas.row_draw_strip columns inside
  rwa [length, ← progressBar_eq_strip color tall wide] at shown

/-- Writing symbols leaves the symbols. -/
private theorem map_symbol_zipWith_writing {cells : List Cell} {text : List (String × Style)}
    (same : cells.length = text.length) :
    (List.zipWith Cell.marked cells (text.map writing)).map Cell.symbol = text.map (·.1) := by
  refine List.ext_getElem (by simp [same]) fun i _ _ => ?_
  simp [Cell.marked, writing, Mark.apply, Cell.tint]

private theorem map_fst_barText (progress : Progress) (color : Color) (bar : Nat) :
    (barText progress color bar).map (·.1) =
      "[" :: (List.replicate (min bar (filledCells progress bar)) "█" ++
        List.replicate (bar - min bar (filledCells progress bar)) "░" ++
        "]" :: (" " ++ progress.label).toList.map fun c => String.ofList [c]) := by
  simp only [barText, barCells, List.map_cons, List.map_append, List.map_replicate, List.map_map,
    Function.comp_def]

/-- Whatever the step, a bar without room is not drawn. Otherwise it changes the first row of its
area and nothing else, and the row, as wide as the area, reads as a bracket, the filled cells, the
empty cells, a bracket and the label. The filled cells are as many as the whole number nearest to
the share of the bar that is done, or all of them if that number is larger. No other whole number is
as near, a share that is off by less than a tenth of a cell is rounded to the same, and a later step
fills no fewer cells. -/
theorem progressBar_fills (progress : Progress) (color : Color) {canvas : Canvas} {area : Area}
    (right : area.right ≤ canvas.width) (bottom : area.bottom ≤ canvas.height) :
    let label := " Step " ++ Text.decimal progress.step.toNat ++ "/5"
    let bar := area.width - label.length - 2
    let filled := min bar (filledCells progress bar)
    let after := canvas.draw (progressBar progress color area)
    progress.ratio = (progress.step.toNat : ℚ) / 5 ∧
    (area.height = 0 ∨ area.width < label.length + 3 → after = canvas) ∧
    (¬(area.height = 0 ∨ area.width < label.length + 3) →
      1 ≤ bar ∧
      (after.row area.x area.y area.width).map Cell.symbol =
        "[" :: (List.replicate filled "█" ++ List.replicate (bar - filled) "░" ++
          "]" :: label.toList.map fun c => String.ofList [c]) ∧
      after.row area.x area.y area.width =
        List.zipWith (fun cell text => { cell with symbol := text.1 }.tint text.2)
          (canvas.row area.x area.y area.width) (barText progress color bar) ∧
      ∀ x y, ¬Area.Contains ⟨area.x, area.y, area.width, 1⟩ x y →
        after.cell x y = canvas.cell x y) ∧
    ∀ bar : ℕ,
      (∀ other : ℤ, other ≠ filledCells progress bar →
        |(bar : ℚ) * progress.ratio - filledCells progress bar| <
          |(bar : ℚ) * progress.ratio - other|) ∧
      (∀ share : ℚ, |share - bar * progress.ratio| < 1 / 10 →
        round share = (filledCells progress bar : ℤ)) ∧
      ∀ later : Progress, progress.step ≤ later.step →
        min bar (filledCells progress bar) ≤ min bar (filledCells later bar) := by
  intro label bar filled after
  have text : " " ++ progress.label = label := progress.label_eq
  have room : barRoom progress area.width = bar := by rw [barRoom, text]
  refine ⟨ratio_eq progress, fun small => ?_, fun drawn => ?_, fun bar =>
    ⟨fun _ => abs_share_sub_lt progress, fun _ => round_eq_filledCells progress, ?_⟩⟩
  · rw [← text] at small
    exact congrArg canvas.draw (progressBar_eq_nil color small)
  · rw [← text] at drawn
    have tall : 0 < area.height := by omega
    have wide : (" " ++ progress.label).length + 3 ≤ area.width := by omega
    have row := row_draw_progressBar color right bottom tall wide
    have length := length_barText_barRoom color wide
    rw [room] at row length
    refine ⟨?_, ?_, ?_, fun x y outside => ?_⟩
    · rw [← room, barRoom]
      omega
    · rw [row, map_symbol_zipWith_writing (by rw [Canvas.length_row, length]), map_fst_barText,
        text]
    · rw [row, List.zipWith_map_right]
      rfl
    · have keeps := keepsTo_progressBar progress color area
      rw [Nat.min_eq_right tall] at keeps
      exact canvas.cell_draw_of_keepsTo keeps outside
  · intro later ahead
    have less := filledCells_mono ahead bar
    omega

/-- Four fifths of nine cells are a fifth more than seven, and seven are filled. -/
theorem progressBar_fills_seven_of_nine :
    Area.right ⟨3, 1, 20, 2⟩ ≤ (Canvas.blank 30 4).width ∧
      Area.bottom ⟨3, 1, 20, 2⟩ ≤ (Canvas.blank 30 4).height ∧
      (((Canvas.blank 30 4).draw (progressBar ⟨4⟩ .blue ⟨3, 1, 20, 2⟩)).row 3 1 20).map
          Cell.symbol =
        "[" :: (List.replicate 7 "█" ++ List.replicate 2 "░" ++
          "]" :: " Step 4/5".toList.map fun c => String.ofList [c]) := by
  have right : Area.right ⟨3, 1, 20, 2⟩ ≤ (Canvas.blank 30 4).width := by decide
  have bottom : Area.bottom ⟨3, 1, 20, 2⟩ ≤ (Canvas.blank 30 4).height := by decide
  have label : " Step " ++ Text.decimal (4 : UInt8).toNat ++ "/5" = " Step 4/5" := by decide +kernel
  obtain ⟨_, _, drawn, _⟩ := progressBar_fills ⟨4⟩ .blue right bottom
  rw [label] at drawn
  exact ⟨right, bottom, (drawn (by decide)).2.1⟩

end Screen

end KubeSim
