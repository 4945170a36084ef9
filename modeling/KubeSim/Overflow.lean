/-! # What stops a session

Two quantities of a running session are bounded: the virtual clock and the 32-bit counters.
Neither wraps. A step that would pass a bound fails with an `Overflow` and has no outcome.
-/

namespace KubeSim

/-- The bound that a step would have passed. -/
inductive Overflow where
  /-- A sum of durations left the range of the clock. -/
  | clock
  /-- A counter was already at its largest value. -/
  | counter
deriving DecidableEq, Repr

def Overflow.message : Overflow → String
  | .clock => "overflow when adding durations"
  | .counter => "attempt to add with overflow"

/-- Two steps in a row succeed when the first does and the second does with its result. -/
theorem bind_eq_ok_iff {α β : Type} {first : Except Overflow α} {second : α → Except Overflow β}
    {last : β} : first >>= second = .ok last ↔
      ∃ middle, first = .ok middle ∧ second middle = .ok last := by
  cases first <;> simp [bind, Except.bind]

/-- Two steps in a row fail when the first does, or when the second does with its result. -/
theorem bind_eq_error_iff {α β : Type} {first : Except Overflow α}
    {second : α → Except Overflow β} {failure : Overflow} : first >>= second = .error failure ↔
      first = .error failure ∨ ∃ middle, first = .ok middle ∧ second middle = .error failure := by
  cases first <;> simp [bind, Except.bind]

/-- What is read off a step is there when the step succeeds. -/
theorem map_eq_ok_iff {α β : Type} {step : Except Overflow α} {read : α → β} {value : β} :
    step.map read = .ok value ↔ ∃ result, step = .ok result ∧ read result = value := by
  cases step <;> simp [Except.map]

/-- A step fails exactly when it has no outcome. -/
theorem exists_error_iff {α : Type} {step : Except Overflow α} :
    (∃ failure, step = .error failure) ↔ ¬∃ result, step = .ok result := by
  cases step <;> simp

/-- Two runs of two steps each that agree after the first steps agree in the end. -/
theorem map_bind_congr {α β γ δ σ τ : Type} {first : Except Overflow α} {other : Except Overflow β}
    {second : α → Except Overflow γ} {next : β → Except Overflow δ} {read : α → σ} {readOther : β → σ}
    {observe : γ → τ} {observeOther : δ → τ} (agree : first.map read = other.map readOther)
    (onwards : ∀ a b, first = .ok a → other = .ok b → read a = readOther b →
      (second a).map observe = (next b).map observeOther) :
    (first >>= second).map observe = (other >>= next).map observeOther := by
  cases first with
  | error failure =>
    cases other with
    | error same =>
      cases agree
      rfl
    | ok b => cases agree
  | ok a =>
    cases other with
    | error failure => cases agree
    | ok b => exact onwards a b rfl rfl (Except.ok.inj agree)

/-- What every step keeps, steps over a list keep. -/
theorem foldlM_keeps {α β : Type} {step : α → β → Except Overflow α} (Holds : α → Prop)
    (kept : ∀ {before after : α} {item : β}, Holds before → step before item = .ok after →
      Holds after)
    {start last : α} {items : List β} (holds : Holds start)
    (stepped : items.foldlM step start = .ok last) : Holds last := by
  induction items generalizing start with
  | nil =>
    cases stepped
    exact holds
  | cons item rest ih =>
    rw [List.foldlM_cons, bind_eq_ok_iff] at stepped
    obtain ⟨middle, first, others⟩ := stepped
    exact ih (kept holds first) others

/-- The next value of a 32-bit counter that refuses to wrap. -/
def Counter.next (count : UInt32) : Except Overflow UInt32 :=
  if count.toNat + 1 < UInt32.size then .ok (count + 1) else .error .counter

theorem Counter.next_eq_ok_iff {count after : UInt32} :
    Counter.next count = .ok after ↔ after.toNat = count.toNat + 1 := by
  unfold Counter.next
  have bound := after.toNat_lt_size
  split
  · next room =>
    have value : (count + 1).toNat = count.toNat + 1 := by
      rw [UInt32.toNat_add]
      exact Nat.mod_eq_of_lt (by simpa using room)
    constructor
    · rintro ⟨⟩
      exact value
    · intro same
      rw [← value] at same
      rw [UInt32.toNat_inj.mp same]
  · next full =>
    constructor
    · intro same
      cases same
    · intro same
      omega

theorem Counter.next_eq_error_iff {count : UInt32} {failure : Overflow} :
    Counter.next count = .error failure ↔ failure = .counter ∧ count.toNat + 1 = UInt32.size := by
  unfold Counter.next
  have bound := count.toNat_lt_size
  split
  · constructor
    · intro same
      cases same
    · rintro ⟨_, full⟩
      omega
  · constructor
    · rintro ⟨⟩
      exact ⟨rfl, by omega⟩
    · rintro ⟨rfl, _⟩
      rfl

end KubeSim
