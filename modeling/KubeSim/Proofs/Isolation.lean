import KubeSim.Proofs.Panels

/-! # The terminal and the rest of the screen

Two screens are compared that show the same session and differ in what was put out and typed. Their
panels make the same marks, except for the lines of the terminal, and those keep to the inner area
of the terminal; so the screens agree on every other cell (`terminal_isolated`). The clock in the
header is the one thing that depends on the time: when the readings are equally long, the line that
they stand in is cut and placed alike, and only the cells of the clock can differ
(`agreesOff_statusPanel`).
-/

namespace KubeSim.Screen

open Drawing (AgreesOff)

/-! ## Strips that agree -/

private theorem agreesOff_strip {x y start count : Nat} {marks others : List (Option Mark)}
    (same : ∀ i, ¬(start ≤ i ∧ i < start + count) → marks[i]? = others[i]?) :
    AgreesOff (Area.Contains ⟨x + start, y, count, 1⟩) (strip x y marks) (strip x y others) := by
  intro column row outside
  by_cases here : x ≤ column ∧ row = y
  · obtain ⟨i, rfl⟩ := Nat.exists_eq_add_of_le here.1
    obtain rfl := here.2
    rw [marksAt_strip, marksAt_strip, same i]
    simp only [Area.Contains, Area.right, Area.bottom] at outside
    omega
  · have off (marks : List (Option Mark)) : Canvas.marksAt (strip x y marks) column row = [] := by
      apply (keepsTo_strip x y marks).marksAt_eq_nil
      simp only [Area.Contains, Area.bottom]
      omega
    rw [off, off]

/-! ## The clock -/

private theorem isPrintable_clockText (elapsed : Nat) :
    ∀ c ∈ (clockText elapsed).toList, Text.IsPrintable c := by
  have twoDigits (n : Nat) :
      ∀ c ∈ (if n < 10 then "0" ++ Text.decimal n else Text.decimal n).toList,
        Text.IsPrintable c := by
    split
    · simp only [String.toList_append, List.forall_mem_append]
      exact ⟨by simp [Text.IsPrintable], Text.isPrintable_decimal n⟩
    · exact Text.isPrintable_decimal n
  simp only [clockText, String.toList_append, List.forall_mem_append]
  exact ⟨⟨twoDigits _, by simp [Text.IsPrintable]⟩, twoDigits _⟩

/-- What the status line shows behind the clock. -/
def statusRest (commandsRun : UInt32) : List Span := [
  ⟨"  ", .plain⟩,
  ⟨"Commands: " ++ Text.decimal commandsRun.toNat, .colored .gray⟩,
  ⟨controls, muted⟩]

def statusLine (elapsed : Nat) (commandsRun : UInt32) : List Span :=
  ⟨"Time: " ++ clockText elapsed, .colored .gray⟩ :: statusRest commandsRun

/-- The marks of the status line at a reading of the clock. -/
def statusMarks (width elapsed : Nat) (commandsRun : UInt32) : List (Option Mark) :=
  lineMarks width (statusLine elapsed commandsRun)

/-- The text of the status line up to the end of the clock is written character by character, and
what stands behind it depends on its length only. -/
private theorem statusMarks_eq (width elapsed : Nat) (commandsRun : UInt32) :
    statusMarks width elapsed commandsRun =
      ((("Time: ".toList ++ (clockText elapsed).toList).take width).map fun c =>
        some (.write (String.ofList [c]) (.colored .gray))) ++
      restMarks width (6 + (clockText elapsed).length) (statusRest commandsRun) := by
  by_cases wide : 0 < width
  · have printable : ∀ c ∈ ("Time: " ++ clockText elapsed).toList, Text.IsPrintable c := by
      rw [String.toList_append, List.forall_mem_append]
      exact ⟨by simp [Text.IsPrintable], isPrintable_clockText elapsed⟩
    rw [statusMarks, statusLine, lineMarks_of_isPrintable wide printable, String.toList_append,
      List.length_append, String.length_toList]
    rfl
  · have short : (statusMarks width elapsed commandsRun).length ≤ width :=
      length_lineMarks_le width _
    -- Without columns there are no marks, and the text takes more columns than there are.
    obtain rfl : width = 0 := by omega
    rw [restMarks, if_neg (by omega)]
    exact List.eq_nil_of_length_eq_zero (Nat.le_zero.mp short)

variable {width elapsed later : Nat}

/-- Readings of the same length lead to as many marks. -/
private theorem length_statusMarks (same : (clockText elapsed).length = (clockText later).length)
    (commandsRun : UInt32) :
    (statusMarks width elapsed commandsRun).length =
      (statusMarks width later commandsRun).length := by
  simp only [statusMarks_eq, List.length_append, List.length_map, List.length_take,
    String.length_toList, same]

/-- And they lead to the same marks, except for their own characters. -/
private theorem getElem?_statusMarks (same : (clockText elapsed).length = (clockText later).length)
    (commandsRun : UInt32) (i : Nat) (outside : ¬(6 ≤ i ∧ i < 6 + (clockText elapsed).length)) :
    (statusMarks width elapsed commandsRun)[i]? = (statusMarks width later commandsRun)[i]? := by
  have lead : "Time: ".toList.length = 6 := rfl
  have chars : ("Time: ".toList ++ (clockText elapsed).toList)[i]? =
      ("Time: ".toList ++ (clockText later).toList)[i]? := by
    simp only [List.getElem?_append, lead]
    split
    · rfl
    · rw [List.getElem?_eq_none, List.getElem?_eq_none] <;> rw [String.length_toList] <;> omega
  simp only [statusMarks_eq, List.getElem?_append, List.length_append, List.length_map,
    List.length_take, String.length_toList, same, List.getElem?_map, List.getElem?_take, chars]

/-- The column where the status line starts in its panel. -/
def statusStart (area : Area) (elapsed : Nat) (commandsRun : UInt32) : Nat :=
  area.inner.x + (area.inner.width - (statusMarks area.inner.width elapsed commandsRun).length)

/-- The cells of the clock in a status panel. -/
def clockArea (area : Area) (elapsed : Nat) (commandsRun : UInt32) : Area :=
  ⟨statusStart area elapsed commandsRun + 6, area.inner.y, (clockText elapsed).length, 1⟩

/-- The status line is a strip at the right of its panel. -/
private theorem statusPanel_eq (area : Area) (elapsed : Nat) (commandsRun : UInt32) :
    statusPanel area elapsed commandsRun = border area muted ++
      if area.inner.height = 0 then [] else
        strip (statusStart area elapsed commandsRun) area.inner.y
          (statusMarks area.inner.width elapsed commandsRun) := by
  have row := paragraphRow_eq_strip area.inner.x area.inner.y area.inner.width .right
    (statusLine elapsed commandsRun)
  have line : paragraph area.inner .right [statusLine elapsed commandsRun] =
      if area.inner.height = 0 then [] else
        paragraphRow area.inner.x area.inner.y area.inner.width .right
          (statusLine elapsed commandsRun) := by
    rw [paragraph]
    cases area.inner.height <;> simp
  rw [row] at line
  exact congrArg (border area muted ++ ·) line

/-- Status panels whose clocks show readings of the same length differ in the cells of the clock
only. -/
private theorem agreesOff_statusPanel (same : (clockText elapsed).length = (clockText later).length)
    (area : Area) (commandsRun : UInt32) :
    AgreesOff (clockArea area elapsed commandsRun).Contains (statusPanel area elapsed commandsRun)
      (statusPanel area later commandsRun) := by
  have start : statusStart area later commandsRun = statusStart area elapsed commandsRun := by
    rw [statusStart, statusStart, length_statusMarks same]
  rw [statusPanel_eq, statusPanel_eq, start]
  refine (AgreesOff.refl _ _).append ?_
  split
  · exact .refl _ _
  · exact agreesOff_strip (getElem?_statusMarks same commandsRun)

/-! ## Two screens -/

variable {console other : Console} {area : Area} {region : Nat → Nat → Prop}

/-- The lines of a terminal keep to its inner area, so terminals agree off it. -/
private theorem agreesOff_terminalPanel (area : Area) (output output' : List String)
    (typed typed' : String) :
    AgreesOff area.inner.Contains (terminalPanel area output typed)
      (terminalPanel area output' typed') :=
  (AgreesOff.refl _ _).append
    ((keepsTo_paragraph _ _ _).agreesOff (keepsTo_paragraph _ _ _) fun _ _ inside => inside)

/-- The area of the status line in a frame. -/
def statusArea (area : Area) : Area := (Layout.header (Layout.frame area).top).right

/-- Screens of the same session and hint agree wherever their status panels do, off the inner area
of the terminal. -/
theorem agreesOff_dashboard (session : console.session = other.session)
    (hint : console.showHint = other.showHint) (area : Area)
    (status : AgreesOff region
      (statusPanel (statusArea area) elapsed console.session.commandsRun)
      (statusPanel (statusArea area) later console.session.commandsRun)) :
    AgreesOff (fun x y => (Layout.terminalArea area).inner.Contains x y ∨ region x y)
      (dashboard console elapsed area) (dashboard other later area) := by
  have top : AgreesOff region (header (Layout.frame area).top elapsed console.session)
      (header (Layout.frame area).top later console.session) :=
    (AgreesOff.refl _ _).append status
  have terminal := agreesOff_terminalPanel (Layout.terminalArea area) console.output other.output
    console.prompt.text other.prompt.text
  rw [dashboard_eq, dashboard_eq, ← session, ← hint]
  exact (((top.mono fun _ _ => .inr).append (.refl _ _)).append
    (terminal.mono fun _ _ => .inl)).append (.refl _ _)

/-- Whatever was put out and typed, of any length and in any characters, two screens of the same
session and hint are the same on every cell outside the inner area of the terminal. At different
times they are the same there except for the cells of the clock, if both readings of the clock are
equally long, and else except for the line that the clock stands in. -/
theorem terminal_isolated (session : console.session = other.session)
    (hint : console.showHint = other.showHint) (width height : Nat) :
    let frame := Area.limited 0 0 width height
    let inner := (Layout.terminalArea frame).inner
    let status := statusArea frame
    (∀ elapsed x y, ¬inner.Contains x y →
      (render console elapsed width height).cell x y =
        (render other elapsed width height).cell x y) ∧
    (∀ elapsed later x y, ¬inner.Contains x y →
      (clockText elapsed).length = (clockText later).length →
      ¬(clockArea status elapsed console.session.commandsRun).Contains x y →
      (render console elapsed width height).cell x y =
        (render other later width height).cell x y) ∧
    ∀ elapsed later x y, ¬inner.Contains x y → ¬status.inner.Contains x y →
      (render console elapsed width height).cell x y =
        (render other later width height).cell x y := by
  intro frame inner status
  refine ⟨fun elapsed x y outside => ?_, fun elapsed later x y outside same off => ?_,
    fun elapsed later x y outside off => ?_⟩
  · have agrees := agreesOff_dashboard session hint frame (AgreesOff.refl (fun _ _ => False)
      (statusPanel status elapsed console.session.commandsRun))
    exact Canvas.cell_draw_of_agreesOff _ agrees (not_or.mpr ⟨outside, id⟩)
  · have agrees := agreesOff_dashboard session hint frame
      (agreesOff_statusPanel same status console.session.commandsRun)
    exact Canvas.cell_draw_of_agreesOff _ agrees (not_or.mpr ⟨outside, off⟩)
  · have line : AgreesOff status.inner.Contains
        (statusPanel status elapsed console.session.commandsRun)
        (statusPanel status later console.session.commandsRun) :=
      (AgreesOff.refl _ _).append
        ((keepsTo_paragraph _ _ _).agreesOff (keepsTo_paragraph _ _ _) fun _ _ inside => inside)
    have agrees := agreesOff_dashboard session hint frame line
    exact Canvas.cell_draw_of_agreesOff _ agrees (not_or.mpr ⟨outside, off⟩)

/-- A line of wide characters that is longer than the terminal leaves the frame at its right as it
is. -/
theorem terminal_isolated_wide_line :
    let console := Console.ofSession (.ofCluster .scenario) true
    let other := { console with output := [String.ofList (List.replicate 100 '漢')] }
    (Layout.terminalArea (Area.limited 0 0 80 24)).inner = ⟨27, 4, 52, 15⟩ ∧
      (render console 0 80 24).cell 79 4 = (render other 0 80 24).cell 79 4 ∧
      (render console 0 80 24).cell 79 4 = (render other 5999 80 24).cell 79 4 := by
  intro console other
  have off : ¬(Layout.terminalArea (Area.limited 0 0 80 24)).inner.Contains 79 4 := by decide
  have session : console.session = other.session := rfl
  obtain ⟨sameTime, _, otherTime⟩ := terminal_isolated session rfl 80 24
  exact ⟨by decide, sameTime 0 79 4 off, otherTime 0 5999 79 4 off (by decide)⟩

end KubeSim.Screen
