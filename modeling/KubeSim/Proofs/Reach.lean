import KubeSim.Screen.Canvas

/-! # What a drawing reaches

A drawing keeps to an area when all of its strokes lie there, and then no cell outside the area
changes (`Canvas.cell_draw_of_keepsTo`). Two drawings agree off a region when they make the same
marks on every cell that does not lie there, and then they lead to the same cells there
(`Canvas.cell_draw_of_agreesOff`). Both properties carry over to drawings that are put together, so
a screen is compared panel by panel.
-/

namespace KubeSim.Screen

namespace Area

/-- Every cell of the part is a cell of the area. -/
def Covers (area part : Area) : Prop := ∀ x y, part.Contains x y → area.Contains x y

/-- The areas have no cell in common. -/
def Apart (area other : Area) : Prop := ∀ x y, area.Contains x y → ¬other.Contains x y

variable {area other part piece : Area}

theorem Covers.trans (first : area.Covers part) (second : part.Covers piece) :
    area.Covers piece := fun x y inside => first x y (second x y inside)

theorem Apart.symm (apart : area.Apart other) : other.Apart area :=
  fun x y inside there => apart x y there inside

theorem Apart.mono (apart : area.Apart other) (covers : area.Covers part)
    (covers' : other.Covers piece) : part.Apart piece :=
  fun x y inside there => apart x y (covers x y inside) (covers' x y there)

theorem covers_inner (area : Area) : area.Covers area.inner := by
  intro x y inside
  simp only [Contains, inner, right, bottom] at inside ⊢
  omega

end Area

namespace Canvas

/-! ## The marks on a cell -/

@[simp] theorem marksAt_nil (x y : Nat) : marksAt [] x y = [] := rfl

theorem marksAt_append (first second : Drawing) (x y : Nat) :
    marksAt (first ++ second) x y = marksAt first x y ++ marksAt second x y := by
  simp [marksAt]

private theorem cell_of_not_inside {canvas : Canvas} {x y : Nat}
    (outside : ¬(x < canvas.width ∧ y < canvas.height)) : canvas.cell x y = .blank := if_neg outside

/-- Only the marks on a cell decide what becomes of it. -/
theorem cell_draw_congr (canvas : Canvas) {drawing other : Drawing} {x y : Nat}
    (same : marksAt drawing x y = marksAt other x y) :
    (canvas.draw drawing).cell x y = (canvas.draw other).cell x y := by
  by_cases inside : x < canvas.width ∧ y < canvas.height
  · rw [cell_draw inside.1 inside.2, cell_draw inside.1 inside.2, same]
  · rw [cell_of_not_inside (by simpa using inside), cell_of_not_inside (by simpa using inside)]

end Canvas

namespace Drawing

/-! ## Drawings that keep to an area -/

/-- Every stroke of the drawing lies in the area. -/
def KeepsTo (drawing : Drawing) (area : Area) : Prop :=
  ∀ stroke ∈ drawing, area.Contains stroke.x stroke.y

variable {drawing other first second : Drawing} {area part : Area} {x y : Nat}

theorem keepsTo_nil (area : Area) : KeepsTo [] area :=
  fun _ member => absurd member List.not_mem_nil

theorem KeepsTo.append (keeps : first.KeepsTo area) (keeps' : second.KeepsTo area) :
    KeepsTo (first ++ second) area :=
  fun stroke member => (List.mem_append.mp member).elim (keeps stroke) (keeps' stroke)

theorem keepsTo_flatMap {α : Type} {items : List α} {draw : α → Drawing}
    (keeps : ∀ item ∈ items, (draw item).KeepsTo area) : KeepsTo (items.flatMap draw) area := by
  intro stroke member
  obtain ⟨item, listed, drawn⟩ := List.mem_flatMap.mp member
  exact keeps item listed stroke drawn

theorem KeepsTo.mono (keeps : drawing.KeepsTo part) (covers : area.Covers part) :
    drawing.KeepsTo area := fun stroke member => covers _ _ (keeps stroke member)

/-! ## Drawings that spare an area -/

/-- No stroke of the drawing lies in the area. -/
def Spares (drawing : Drawing) (area : Area) : Prop :=
  ∀ stroke ∈ drawing, ¬area.Contains stroke.x stroke.y

theorem Spares.append (spares : first.Spares area) (spares' : second.Spares area) :
    Spares (first ++ second) area :=
  fun stroke member => (List.mem_append.mp member).elim (spares stroke) (spares' stroke)

theorem KeepsTo.spares (keeps : drawing.KeepsTo part) (apart : part.Apart area) :
    drawing.Spares area := fun stroke member => apart _ _ (keeps stroke member)

theorem Spares.marksAt_eq_nil (spares : drawing.Spares area) (inside : area.Contains x y) :
    Canvas.marksAt drawing x y = [] := by
  simp only [Canvas.marksAt, List.map_eq_nil_iff, List.filter_eq_nil_iff, decide_eq_true_eq]
  rintro stroke member ⟨rfl, rfl⟩
  exact spares stroke member inside

theorem KeepsTo.marksAt_eq_nil (keeps : drawing.KeepsTo area) (outside : ¬area.Contains x y) :
    Canvas.marksAt drawing x y = [] := by
  have apart : area.Apart ⟨x, y, 1, 1⟩ := by
    intro column row inside here
    simp only [Area.Contains, Area.right, Area.bottom] at here
    obtain ⟨rfl, rfl⟩ : column = x ∧ row = y := by omega
    exact outside inside
  apply (keeps.spares apart).marksAt_eq_nil
  simp only [Area.Contains, Area.right, Area.bottom]
  omega

/-! ## Drawings that agree off a region -/

/-- The drawings make the same marks on every cell that does not lie in the region. -/
def AgreesOff (region : Nat → Nat → Prop) (drawing other : Drawing) : Prop :=
  ∀ x y, ¬region x y → Canvas.marksAt drawing x y = Canvas.marksAt other x y

variable {region : Nat → Nat → Prop} {first' second' : Drawing}

theorem AgreesOff.refl (region : Nat → Nat → Prop) (drawing : Drawing) :
    AgreesOff region drawing drawing := fun _ _ _ => rfl

theorem AgreesOff.append (agrees : AgreesOff region first first')
    (agrees' : AgreesOff region second second') :
    AgreesOff region (first ++ second) (first' ++ second') := by
  intro x y outside
  rw [Canvas.marksAt_append, Canvas.marksAt_append, agrees x y outside, agrees' x y outside]

theorem AgreesOff.mono {larger : Nat → Nat → Prop} (agrees : AgreesOff region drawing other)
    (covers : ∀ x y, region x y → larger x y) : AgreesOff larger drawing other :=
  fun x y outside => agrees x y fun inside => outside (covers x y inside)

/-- Drawings that keep to an area of the region agree off the region. -/
theorem KeepsTo.agreesOff (keeps : drawing.KeepsTo area) (keeps' : other.KeepsTo area)
    (covers : ∀ x y, area.Contains x y → region x y) : AgreesOff region drawing other := by
  intro x y outside
  have off : ¬area.Contains x y := fun inside => outside (covers x y inside)
  rw [keeps.marksAt_eq_nil off, keeps'.marksAt_eq_nil off]

end Drawing

namespace Canvas

variable {drawing other : Drawing} {x y : Nat}

theorem cell_draw_of_agreesOff {region : Nat → Nat → Prop} (canvas : Canvas)
    (agrees : Drawing.AgreesOff region drawing other) (outside : ¬region x y) :
    (canvas.draw drawing).cell x y = (canvas.draw other).cell x y :=
  canvas.cell_draw_congr (agrees x y outside)

/-- No cell changes outside an area that the drawing keeps to. -/
theorem cell_draw_of_keepsTo {area : Area} (canvas : Canvas) (keeps : drawing.KeepsTo area)
    (outside : ¬area.Contains x y) : (canvas.draw drawing).cell x y = canvas.cell x y := by
  have unmarked : marksAt drawing x y = marksAt [] x y := keeps.marksAt_eq_nil outside
  exact canvas.cell_draw_congr unmarked

end Canvas

end KubeSim.Screen
