import KubeSim.Json.Printer
import KubeSim.Text.Numeral

/-! # Progress through the scenario

The scenario has five steps. A progress that is made or moved here stays within them and never
goes back; a progress that is read from JSON is taken as it is.
-/

namespace KubeSim

/-- How far the player is. -/
structure Progress where
  step : UInt8
deriving DecidableEq, Repr

structure StepOutOfRange where
  step : UInt8
deriving DecidableEq, Repr

def StepOutOfRange.message (fault : StepOutOfRange) : String :=
  "Scenario step " ++ Text.decimal fault.step.toNat ++ " is outside 1..=5"

namespace Progress

def first : UInt8 := 1

def last : UInt8 := 5

/-- The step reached when the deployment has picked up the secret. -/
def remediated : UInt8 := 4

def start : Progress := ⟨first⟩

instance : Inhabited Progress := ⟨start⟩

def at? (step : UInt8) : Except StepOutOfRange Progress :=
  if first ≤ step ∧ step ≤ last then .ok ⟨step⟩ else .error ⟨step⟩

/-- Moves on to a step that is ahead, and tells whether it was. -/
def advanceTo (progress : Progress) (step : UInt8) : Except StepOutOfRange (Bool × Progress) := do
  let target ← at? step
  return if target.step ≤ progress.step then (false, progress) else (true, target)

/-- The progress after trying to move on to a step. -/
def advanced (progress : Progress) (step : UInt8) : Progress :=
  match progress.advanceTo step with
  | .ok (_, after) => after
  | .error _ => progress

/-- The share of the scenario that is done. -/
def ratio (progress : Progress) : Rat := mkRat progress.step.toNat 5

/-- The share as a decimal number with one place, which is exact. -/
def ratioText (progress : Progress) : String :=
  Text.decimal (progress.step.toNat / 5) ++ "." ++ Text.decimal (progress.step.toNat % 5 * 2)

def label (progress : Progress) : String :=
  "Step " ++ Text.decimal progress.step.toNat ++ "/" ++ Text.decimal last.toNat

def toJson (progress : Progress) : Json := .object [("step", .natural progress.step.toNat)]

/-- Reads a progress; any 8-bit step is accepted. -/
def ofJson? (json : Json) : Option Progress := do
  match ← json.record? ["step"] with
  | [some step] => return ⟨← step.uint8?⟩
  | _ => none

end Progress

end KubeSim
