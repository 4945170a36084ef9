import KubeSim.Proofs.PodCard
import KubeSim.Proofs.ProgressBar
import KubeSim.Proofs.Tiling

/-! # What the panels reach

Each panel keeps to its area, whatever it shows, and so the whole screen keeps to its frame
(`keepsTo_dashboard`). The lines around a panel and its title stand on the edge, so that the inner
area is left to what the panel shows (`spares_panel`). The panels of a screen have no cell in
common, for every size of the screen, and a cell in the inner area of the terminal is decided by the
lines of the terminal alone (`marksAt_dashboard`).
-/

namespace KubeSim.Screen

/-! ## Frames and titles -/

theorem keepsTo_border (area : Area) (style : Style) : (border area style).KeepsTo area := by
  intro stroke member
  obtain ⟨⟨x, y⟩, listed, drawn⟩ := List.mem_filterMap.mp member
  obtain ⟨_, _, rfl⟩ := Option.map_eq_some_iff.mp drawn
  exact Area.mem_positions.mp listed

theorem keepsTo_tintArea (area : Area) (style : Style) : (tintArea area style).KeepsTo area := by
  intro stroke member
  obtain ⟨⟨x, y⟩, listed, rfl⟩ := List.mem_map.mp member
  exact Area.mem_positions.mp listed

/-- A frame has no symbol off the edge. -/
private theorem frameSymbol?_eq_none {width height i j : Nat} (left : 0 < i) (right : i + 1 < width)
    (top : 0 < j) (bottom : j + 1 < height) : frameSymbol? width height i j = none := by
  simp only [frameSymbol?, show i ≠ 0 by omega, show j ≠ 0 by omega,
    show i + 1 ≠ width by omega, show j + 1 ≠ height by omega, false_and, false_or, if_false]

theorem spares_border (area : Area) (style : Style) : (border area style).Spares area.inner := by
  intro stroke member inside
  obtain ⟨⟨x, y⟩, _, drawn⟩ := List.mem_filterMap.mp member
  obtain ⟨symbol, edge, rfl⟩ := Option.map_eq_some_iff.mp drawn
  simp only [Area.Contains, Area.inner, Area.right, Area.bottom] at inside
  rw [frameSymbol?_eq_none (by omega) (by omega) (by omega) (by omega)] at edge
  cases edge

def titleRow (area : Area) : Area := ⟨area.x + 1, area.y, area.width - 2, min area.height 1⟩

private theorem covers_titleRow (area : Area) : area.Covers (titleRow area) := by
  intro x y inside
  simp only [Area.Contains, titleRow, Area.right, Area.bottom] at inside ⊢
  omega

private theorem apart_titleRow_inner (area : Area) : (titleRow area).Apart area.inner := by
  intro x y inside there
  simp only [Area.Contains, titleRow, Area.inner, Area.right, Area.bottom] at inside there
  omega

/-- A panel is a frame and a title that keeps to its row. -/
private theorem panel_eq_append (area : Area) (title : String) (lines titleStyle : Style) :
    ∃ shown : Drawing, shown.KeepsTo (titleRow area) ∧
      panel area title lines titleStyle = border area lines ++ shown := by
  refine ⟨_, ?_, rfl⟩
  split
  · exact Drawing.keepsTo_nil _
  · next some =>
    have row : titleRow area = ⟨area.x + 1, area.y, area.width - 2, 1⟩ := by
      rw [titleRow, Nat.min_eq_right (by omega)]
    rw [row]
    exact keepsTo_label _ _ _ _ _

theorem keepsTo_panel (area : Area) (title : String) (lines titleStyle : Style) :
    (panel area title lines titleStyle).KeepsTo area := by
  obtain ⟨shown, keeps, drawn⟩ := panel_eq_append area title lines titleStyle
  rw [drawn]
  exact (keepsTo_border area lines).append (keeps.mono (covers_titleRow area))

/-- The inner area is left to what the panel shows. -/
theorem spares_panel (area : Area) (title : String) (lines titleStyle : Style) :
    (panel area title lines titleStyle).Spares area.inner := by
  obtain ⟨shown, keeps, drawn⟩ := panel_eq_append area title lines titleStyle
  rw [drawn]
  exact (spares_border area lines).append (keeps.spares (apart_titleRow_inner area))

/-! ## The panels of the dashboard -/

/-- What is shown in the inner area keeps to the area. -/
private theorem keepsTo_innerParagraph (area : Area) (alignment : Alignment)
    (lines : List (List Span)) :
    (paragraph area.inner alignment lines).KeepsTo area :=
  (keepsTo_paragraph area.inner alignment lines).mono area.covers_inner

private theorem keepsTo_titlePanel (area : Area) : (titlePanel area).KeepsTo area :=
  ((keepsTo_tintArea area accent).append (keepsTo_border area muted)).append
    (keepsTo_innerParagraph area _ _)

private theorem keepsTo_statusPanel (area : Area) (elapsed : Nat) (commandsRun : UInt32) :
    (statusPanel area elapsed commandsRun).KeepsTo area :=
  (keepsTo_border area muted).append (keepsTo_innerParagraph area _ _)

theorem keepsTo_overviewPanel (area : Area) (cluster : Cluster) :
    (overviewPanel area cluster).KeepsTo area :=
  (keepsTo_panel area _ _ _).append (keepsTo_innerParagraph area _ _)

theorem keepsTo_podPanel (area : Area) (pods : List Pod) : (podPanel area pods).KeepsTo area := by
  rw [podPanel_eq]
  refine (keepsTo_panel area _ _ _).append (Drawing.keepsTo_flatMap fun (pod, i) listed => ?_)
  have drawn : i < cardRoom area.inner := by
    have short := List.snd_lt_of_mem_zipIdx listed
    rw [List.length_take] at short
    omega
  refine ((keepsTo_podCard pod _ _).mono fun x y inside => ?_).mono
    (area.covers_inner.trans (covers_cardArea drawn))
  simp only [Area.Contains, Area.right, Area.bottom] at inside ⊢
  omega

theorem keepsTo_hintPanel (area : Area) : (hintPanel area).KeepsTo area :=
  ((keepsTo_tintArea area _).append (keepsTo_panel area _ _ _)).append
    (keepsTo_innerParagraph area _ _)

theorem keepsTo_terminalPanel (area : Area) (output : List String) (typed : String) :
    (terminalPanel area output typed).KeepsTo area :=
  (keepsTo_panel area _ _ _).append (keepsTo_innerParagraph area _ _)

theorem keepsTo_progressPanel (area : Area) (progress : Progress) :
    (progressPanel area progress).KeepsTo area := by
  refine (keepsTo_panel area _ _ _).append
    (((keepsTo_progressBar progress _ _).mono fun x y inside => ?_).mono area.covers_inner)
  simp only [Area.Contains, Area.right, Area.bottom] at inside ⊢
  omega

/-! ## Where the panels lie -/

namespace Layout

private theorem covers_stack (area : Area) (first least last : Nat) :
    ∀ part ∈ (stack area first least last).parts, area.Covers part :=
  fun _ member => (covers_dividedRows area).trans
    ((tilesDown_dividedRows area first least last).partitions.covers member)

private theorem covers_split (area : Area) {leftWidth : Nat → Nat}
    (narrow : ∀ width, leftWidth width ≤ width) :
    ∀ part ∈ (split area leftWidth).parts, area.Covers part :=
  fun _ member => (covers_dividedColumns area).trans
    ((tilesAcross_dividedColumns area narrow).partitions.covers member)

private theorem apart_stack (area : Area) (first least last : Nat) :
    (stack area first least last).top.Apart (stack area first least last).middle ∧
      (stack area first least last).top.Apart (stack area first least last).bottom ∧
      (stack area first least last).middle.Apart (stack area first least last).bottom := by
  have apart := (tilesDown_dividedRows area first least last).partitions.pairwise_apart
  simpa [Stack.parts, and_assoc] using apart

private theorem apart_split (area : Area) {leftWidth : Nat → Nat}
    (narrow : ∀ width, leftWidth width ≤ width) :
    (split area leftWidth).left.Apart (split area leftWidth).right := by
  have apart := (tilesAcross_dividedColumns area narrow).partitions.pairwise_apart
  simpa [Halves.parts] using apart

/-- The side panel is not wider than the content. -/
private theorem sideWidth_le (width : Nat) : (33 * width + 50) / 100 ≤ width := by omega

def sideArea (area : Area) : Area := (content (frame area).middle).left

def terminalArea (area : Area) : Area := (content (frame area).middle).right

theorem covers_frame (area : Area) : ∀ part ∈ (frame area).parts, area.Covers part :=
  covers_stack area 3 10 4

private theorem middle_covers_sideArea (area : Area) : (frame area).middle.Covers (sideArea area) :=
  covers_split _ sideWidth_le _ (by simp [sideArea, content, Halves.parts])

private theorem middle_covers_terminalArea (area : Area) :
    (frame area).middle.Covers (terminalArea area) :=
  covers_split _ sideWidth_le _ (by simp [terminalArea, content, Halves.parts])

theorem covers_sideArea (area : Area) : area.Covers (sideArea area) :=
  (covers_frame area _ (by simp [Stack.parts])).trans (middle_covers_sideArea area)

theorem covers_terminalArea (area : Area) : area.Covers (terminalArea area) :=
  (covers_frame area _ (by simp [Stack.parts])).trans (middle_covers_terminalArea area)

theorem top_apart_terminalArea (area : Area) : (frame area).top.Apart (terminalArea area) := by
  have apart : (frame area).top.Apart (frame area).middle := (apart_stack area 3 10 4).1
  exact apart.mono (fun _ _ inside => inside) (middle_covers_terminalArea area)

theorem bottom_apart_terminalArea (area : Area) :
    (frame area).bottom.Apart (terminalArea area) := by
  have apart : (frame area).middle.Apart (frame area).bottom := (apart_stack area 3 10 4).2.2
  exact apart.symm.mono (fun _ _ inside => inside) (middle_covers_terminalArea area)

theorem sideArea_apart_terminalArea (area : Area) : (sideArea area).Apart (terminalArea area) :=
  apart_split (frame area).middle sideWidth_le

end Layout

theorem keepsTo_header (area : Area) (elapsed : Nat) (session : Session) :
    (header area elapsed session).KeepsTo area := by
  have halves : ∀ part ∈ (Layout.header area).parts, area.Covers part :=
    Layout.covers_split area fun width => Nat.sub_le width _
  refine .append ((keepsTo_titlePanel _).mono (halves _ ?_))
    ((keepsTo_statusPanel _ _ _).mono (halves _ ?_)) <;> simp [Layout.Halves.parts]

theorem keepsTo_sidePanel (area : Area) (cluster : Cluster) (showHint : Bool) :
    (sidePanel area cluster showHint).KeepsTo area := by
  have parts : ∀ part ∈ (Layout.side area showHint).parts, area.Covers part :=
    Layout.covers_stack area 5 5 _
  refine .append (.append ((keepsTo_overviewPanel _ _).mono (parts _ ?_))
    ((keepsTo_podPanel _ _).mono (parts _ ?_))) ?_
  · simp [Layout.Stack.parts]
  · simp [Layout.Stack.parts]
  · cases showHint with
    | false => exact Drawing.keepsTo_nil area
    | true => exact (keepsTo_hintPanel _).mono (parts _ (by simp [Layout.Stack.parts]))

section

variable (console : Console) (elapsed : Nat)

/-- The panels of the dashboard, with their areas. -/
theorem dashboard_eq (area : Area) :
    dashboard console elapsed area =
      header (Layout.frame area).top elapsed console.session ++
        sidePanel (Layout.sideArea area) console.session.cluster console.showHint ++
        terminalPanel (Layout.terminalArea area) console.output console.prompt.text ++
        progressPanel (Layout.frame area).bottom console.session.progress := rfl

/-- Nothing is drawn outside the frame. -/
theorem keepsTo_dashboard (area : Area) : (dashboard console elapsed area).KeepsTo area := by
  have parts := Layout.covers_frame area
  rw [dashboard_eq]
  refine .append (.append (.append ?_ ?_) ?_) ?_
  · exact (keepsTo_header _ _ _).mono (parts _ (by simp [Layout.Stack.parts]))
  · exact (keepsTo_sidePanel _ _ _).mono (Layout.covers_sideArea area)
  · exact (keepsTo_terminalPanel _ _ _).mono (Layout.covers_terminalArea area)
  · exact (keepsTo_progressPanel _ _).mono (parts _ (by simp [Layout.Stack.parts]))

/-- In the inner area of the terminal only the lines of the terminal are drawn. -/
theorem marksAt_dashboard {area : Area} {x y : Nat}
    (inside : (Layout.terminalArea area).inner.Contains x y) :
    let terminal := Layout.terminalArea area
    let lines := terminalLines console.output console.prompt.text terminal.inner.height
    Canvas.marksAt (dashboard console elapsed area) x y =
      Canvas.marksAt (paragraph terminal.inner .left (lines.map ([·]))) x y := by
  intro terminal lines
  have here : terminal.Contains x y := terminal.covers_inner x y inside
  have top := (keepsTo_header (Layout.frame area).top elapsed console.session).spares
    (Layout.top_apart_terminalArea area)
  have side := (keepsTo_sidePanel (Layout.sideArea area) console.session.cluster
    console.showHint).spares (Layout.sideArea_apart_terminalArea area)
  have bottom := (keepsTo_progressPanel (Layout.frame area).bottom
    console.session.progress).spares (Layout.bottom_apart_terminalArea area)
  have edge := (spares_panel terminal "Terminal" muted accent).marksAt_eq_nil inside
  have shown : terminalPanel terminal console.output console.prompt.text =
      panel terminal "Terminal" muted accent ++
        paragraph terminal.inner .left (lines.map ([·])) := rfl
  rw [dashboard_eq]
  simp only [Canvas.marksAt_append, top.marksAt_eq_nil here, side.marksAt_eq_nil here,
    bottom.marksAt_eq_nil here, shown, edge, List.nil_append, List.append_nil, terminal]

end

end KubeSim.Screen
