/-! # Spans of virtual time

A `Duration` counts whole nanoseconds. Its whole seconds fit in 64 bits, so sums are partial:
`Duration.add?` answers `none` exactly when the sum leaves that range. The session clock and
every delay are durations, and an instant is the duration since the session started.
-/

namespace KubeSim

/-- One more than the largest number of nanoseconds whose whole seconds fit in 64 bits. -/
def Duration.capacity : Nat := UInt64.size * 1000000000

/-- A span of whole nanoseconds whose whole seconds fit in 64 bits. -/
@[ext]
structure Duration where
  nanos : Nat
  nanos_lt : nanos < Duration.capacity
deriving DecidableEq

namespace Duration

instance : LE Duration := ⟨fun a b => a.nanos ≤ b.nanos⟩

instance : LT Duration := ⟨fun a b => a.nanos < b.nanos⟩

instance (a b : Duration) : Decidable (a ≤ b) := inferInstanceAs (Decidable (a.nanos ≤ b.nanos))

instance (a b : Duration) : Decidable (a < b) := inferInstanceAs (Decidable (a.nanos < b.nanos))

instance : Max Duration := ⟨fun a b => if a ≤ b then b else a⟩

theorem le_def {a b : Duration} : a ≤ b ↔ a.nanos ≤ b.nanos := Iff.rfl

theorem lt_def {a b : Duration} : a < b ↔ a.nanos < b.nanos := Iff.rfl

@[simp] theorem nanos_max (a b : Duration) : (max a b).nanos = max a.nanos b.nanos := by
  show (if a ≤ b then b else a).nanos = _
  split <;> simp_all only [le_def] <;> omega

def zero : Duration := ⟨0, by decide⟩

instance : Inhabited Duration := ⟨zero⟩

/-- The span of `nanos` nanoseconds, when it is in range. -/
def ofNanos? (nanos : Nat) : Option Duration :=
  if bound : nanos < capacity then some ⟨nanos, bound⟩ else none

/-- The span of whole seconds and further nanoseconds, when it is in range. -/
def ofParts? (seconds nanos : Nat) : Option Duration :=
  ofNanos? (seconds * 1000000000 + nanos)

/-- The span of a 64-bit number of milliseconds is always in range. -/
def ofMillis (millis : UInt64) : Duration :=
  ⟨millis.toNat * 1000000, by
    have bound := millis.toNat_lt
    simp only [capacity, UInt64.size]
    omega⟩

def seconds (d : Duration) : Nat := d.nanos / 1000000000

def subsecNanos (d : Duration) : Nat := d.nanos % 1000000000

def add? (a b : Duration) : Option Duration := ofNanos? (a.nanos + b.nanos)

theorem ofNanos?_eq_some_iff {nanos : Nat} {d : Duration} :
    ofNanos? nanos = some d ↔ d.nanos = nanos := by
  unfold ofNanos?
  split
  · constructor
    · rintro ⟨⟩
      rfl
    · rintro rfl
      rfl
  · next outside =>
    have := d.nanos_lt
    constructor
    · intro same
      cases same
    · rintro rfl
      exact absurd this outside

theorem ofNanos?_eq_none_iff {nanos : Nat} : ofNanos? nanos = none ↔ capacity ≤ nanos := by
  unfold ofNanos?
  split <;> simp_all

theorem add?_eq_some_iff {a b sum : Duration} :
    a.add? b = some sum ↔ sum.nanos = a.nanos + b.nanos := ofNanos?_eq_some_iff

theorem add?_eq_none_iff {a b : Duration} :
    a.add? b = none ↔ capacity ≤ a.nanos + b.nanos := ofNanos?_eq_none_iff

end Duration

end KubeSim
