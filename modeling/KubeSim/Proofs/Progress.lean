import KubeSim.Progress
import Mathlib.Algebra.Order.Field.Basic
import Mathlib.Algebra.Order.Field.Rat
import Mathlib.Tactic.Positivity

/-! # Climbing through the scenario

A call to move on refuses what is no step of the scenario, and otherwise moves only upwards. So over
any calls a progress climbs to the highest of its first step and of the targets that are steps
(`Progress.highest_advancedAll`). A progress that starts within the scenario stays there. One that is
made by `Progress.at?` does start there. One that is read from JSON does when the number that was
read is a step, and otherwise it need not: from beyond the last step no call leads back.
-/

namespace KubeSim

namespace Progress

def IsStep (step : UInt8) : Prop := first ≤ step ∧ step ≤ last

instance (step : UInt8) : Decidable (IsStep step) :=
  inferInstanceAs (Decidable (first ≤ step ∧ step ≤ last))

def InRange (progress : Progress) : Prop := IsStep progress.step

instance (progress : Progress) : Decidable progress.InRange :=
  inferInstanceAs (Decidable (IsStep progress.step))

theorem isStep_iff {step : UInt8} : IsStep step ↔ 1 ≤ step.toNat ∧ step.toNat ≤ 5 := by
  simp [IsStep, first, last, UInt8.le_iff_toNat_le]

/-! ## One call -/

variable {progress : Progress} {target : UInt8}

theorem at?_eq_ok_iff {step : UInt8} : at? step = .ok progress ↔ IsStep step ∧ progress = ⟨step⟩ := by
  unfold at? IsStep
  split <;> simp_all [eq_comm]

/-- A call fails, or finds nothing to climb to, or climbs. Only the last changes the progress. -/
theorem advanceTo_cases (progress : Progress) (target : UInt8) :
    (¬IsStep target ∧ progress.advanceTo target = .error ⟨target⟩ ∧
      progress.advanced target = progress) ∨
    (IsStep target ∧ target ≤ progress.step ∧ progress.advanceTo target = .ok (false, progress) ∧
      progress.advanced target = progress) ∨
    (IsStep target ∧ progress.step < target ∧ progress.advanceTo target = .ok (true, ⟨target⟩) ∧
      progress.advanced target = ⟨target⟩) := by
  by_cases step : IsStep target
  · have found : at? target = .ok ⟨target⟩ := if_pos step
    have call : progress.advanceTo target =
        .ok (if target ≤ progress.step then (false, progress) else (true, ⟨target⟩)) := by
      rw [advanceTo, found]
      rfl
    by_cases low : target ≤ progress.step
    · rw [if_pos low] at call
      exact .inr (.inl ⟨step, low, call, by rw [advanced, call]⟩)
    · rw [if_neg low] at call
      exact .inr (.inr ⟨step, UInt8.not_le.mp low, call, by rw [advanced, call]⟩)
  · have missing : at? target = .error ⟨target⟩ := if_neg step
    have call : progress.advanceTo target = .error ⟨target⟩ := by
      rw [advanceTo, missing]
      rfl
    exact .inl ⟨step, call, by rw [advanced, call]⟩

/-- A call tells whether it moved up. -/
private theorem moved_iff : (∃ after, progress.advanceTo target = .ok (true, after)) ↔
    progress.step < (progress.advanced target).step := by
  obtain ⟨_, call, after⟩ | ⟨_, _, call, after⟩ | ⟨_, high, call, after⟩ :=
    advanceTo_cases progress target
  · simp [call, after]
  · simp [call, after]
  · simp [call, after, high]

/-! ## A sequence of calls -/

/-- The progress after calls for these targets. -/
def advancedAll (progress : Progress) (targets : List UInt8) : Progress :=
  targets.foldl advanced progress

/-- `step` is the highest of the step at the start and of the targets that are steps. -/
structure Highest (start : UInt8) (targets : List UInt8) (step : UInt8) : Prop where
  reached : step = start ∨ step ∈ targets ∧ IsStep step
  start_le : start ≤ step
  target_le : ∀ target ∈ targets, IsStep target → target ≤ step

variable {start step later : UInt8} {targets others : List UInt8}

theorem Highest.trans (first : Highest start targets step) (second : Highest step others later) :
    Highest start (targets ++ others) later := by
  refine ⟨?_, UInt8.le_trans first.start_le second.start_le, ?_⟩
  · rcases second.reached with rfl | ⟨member, isStep⟩
    · exact first.reached.imp_right fun ⟨member, isStep⟩ =>
        ⟨List.mem_append_left others member, isStep⟩
    · exact .inr ⟨List.mem_append_right targets member, isStep⟩
  · intro target member isStep
    rcases List.mem_append.mp member with before | after
    · exact UInt8.le_trans (first.target_le target before isStep) second.start_le
    · exact second.target_le target after isStep

theorem highest_advanced (progress : Progress) (target : UInt8) :
    Highest progress.step [target] (progress.advanced target).step := by
  obtain ⟨outside, _, after⟩ | ⟨_, low, _, after⟩ | ⟨isStep, high, _, after⟩ :=
    advanceTo_cases progress target
  · rw [after]
    exact ⟨.inl rfl, UInt8.le_refl _, by simp [outside]⟩
  · rw [after]
    exact ⟨.inl rfl, UInt8.le_refl _, by simp [low]⟩
  · rw [after]
    exact ⟨.inr ⟨List.mem_singleton_self target, isStep⟩, UInt8.le_of_lt high, by simp⟩

theorem highest_advancedAll (progress : Progress) (targets : List UInt8) :
    Highest progress.step targets (progress.advancedAll targets).step := by
  induction targets generalizing progress with
  | nil => exact ⟨.inl rfl, UInt8.le_refl _, by simp⟩
  | cons target rest ih =>
    exact (highest_advanced progress target).trans (ih (progress.advanced target))

theorem InRange.advancedAll (inRange : progress.InRange) (targets : List UInt8) :
    (progress.advancedAll targets).InRange := by
  rcases (highest_advancedAll progress targets).reached with same | ⟨_, isStep⟩
  · rwa [InRange, same]
  · exact isStep

/-- From beyond the last step no call leads back. -/
private theorem not_inRange_of_last_lt (beyond : last < progress.step) (targets : List UInt8) :
    ¬(progress.advancedAll targets).InRange := by
  intro inRange
  have high := UInt8.le_trans (highest_advancedAll progress targets).start_le inRange.2
  exact UInt8.not_le.mpr beyond high

theorem InRange.ratio (inRange : progress.InRange) : 0 ≤ progress.ratio ∧ progress.ratio ≤ 1 := by
  have bound : (progress.step.toNat : ℚ) ≤ 5 := by exact_mod_cast (isStep_iff.mp inRange).2
  rw [Progress.ratio, Rat.mkRat_eq_div]
  constructor
  · positivity
  · rw [div_le_one (by norm_num)]
    exact_mod_cast bound

/-! ## Where a progress comes from -/

private theorem uint8?_eq_some_iff {json : Json} :
    json.uint8? = some step ↔ json = .natural step.toNat := by
  cases json with
  | natural value =>
    simp only [Json.uint8?, Json.naturalBelow?, Option.map_eq_some_iff, Option.ite_none_right_eq_some,
      Option.some.injEq, Json.natural.injEq]
    constructor
    · rintro ⟨_, ⟨small, rfl⟩, rfl⟩
      exact (UInt8.toNat_ofNat_of_lt' small).symm
    · rintro rfl
      exact ⟨_, ⟨step.toNat_lt_size, rfl⟩, UInt8.ofNat_toNat⟩
  | _ => simp [Json.uint8?, Json.naturalBelow?]

/-- A progress is read from any record with an 8-bit step. -/
private theorem ofJson?_eq_some_iff {json : Json} : ofJson? json = some progress ↔
    json.record? ["step"] = some [some (.natural progress.step.toNat)] := by
  rw [ofJson?]
  cases json.record? ["step"] with
  | none => simp
  | some fields =>
    rw [Option.bind_eq_bind, Option.bind_some]
    split
    · next read =>
      simp only [Option.bind_eq_bind, Option.bind_eq_some_iff, uint8?_eq_some_iff]
      constructor
      · rintro ⟨step, rfl, made⟩
        cases made
        rfl
      · intro same
        simp only [Option.some.injEq, List.cons.injEq, and_true] at same
        exact ⟨progress.step, same, rfl⟩
    · next other =>
      simp only [reduceCtorEq, Option.some.injEq, false_iff]
      rintro rfl
      exact other _ rfl

theorem inRange_start : Progress.start.InRange := by decide

theorem inRange_of_at? {step : UInt8} (made : at? step = .ok progress) : progress.InRange := by
  obtain ⟨isStep, rfl⟩ := at?_eq_ok_iff.mp made
  exact isStep

theorem inRange_of_ofJson?_iff {json : Json} (read : ofJson? json = some progress) :
    progress.InRange ↔
      ∃ step, json.record? ["step"] = some [some (.natural step)] ∧ 1 ≤ step ∧ step ≤ 5 := by
  rw [InRange, isStep_iff, ofJson?_eq_some_iff.mp read]
  simp

/-- A progress that is made is within the scenario, and one that is read is if the number was a step.
It is there all along exactly when it starts there; and whatever it starts from, a call that fails
changes nothing, a call tells whether it moved up, and the calls lead to the highest step. -/
theorem inRange_advancedAll (progress : Progress) (targets : List UInt8) :
    (∀ step, at? step = .ok progress → progress.InRange) ∧
    (progress = Progress.start → progress.InRange) ∧
    (∀ json, ofJson? json = some progress → (progress.InRange ↔
      ∃ step, json.record? ["step"] = some [some (.natural step)] ∧ 1 ≤ step ∧ step ≤ 5)) ∧
    ((∀ earlier, earlier <+: targets → (progress.advancedAll earlier).InRange ∧
      0 ≤ (progress.advancedAll earlier).ratio ∧ (progress.advancedAll earlier).ratio ≤ 1) ↔
      progress.InRange) ∧
    (∀ target, ¬IsStep target →
      progress.advanceTo target = .error ⟨target⟩ ∧ progress.advanced target = progress) ∧
    (∀ target, (∃ after, progress.advanceTo target = .ok (true, after)) ↔
      progress.step < (progress.advanced target).step) ∧
    Highest progress.step targets (progress.advancedAll targets).step := by
  refine ⟨fun _ => inRange_of_at?, ?_, fun _ => inRange_of_ofJson?_iff, ?_, ?_, fun _ => moved_iff,
    highest_advancedAll progress targets⟩
  · rintro rfl
    exact inRange_start
  · constructor
    · intro throughout
      exact (throughout [] List.nil_prefix).1
    · intro inRange earlier _
      exact ⟨inRange.advancedAll earlier, (inRange.advancedAll earlier).ratio⟩
  · intro target outside
    obtain ⟨_, call, after⟩ | ⟨isStep, _⟩ | ⟨isStep, _⟩ := advanceTo_cases progress target
    · exact ⟨call, after⟩
    · exact absurd isStep outside
    · exact absurd isStep outside

/-- A number beyond the last step is read all the same. The progress is out of range then, its share
of the scenario is more than the whole, and it stays so. -/
theorem not_inRange_of_json : ofJson? (.object [("step", .natural 6)]) = some ⟨6⟩ ∧
    ¬InRange ⟨6⟩ ∧ ¬ratio ⟨6⟩ ≤ 1 ∧ ∀ targets, ¬(advancedAll ⟨6⟩ targets).InRange :=
  ⟨rfl, by decide, by decide, not_inRange_of_last_lt (by decide)⟩

end Progress

end KubeSim
