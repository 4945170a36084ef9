import KubeSim.Proofs.Queue
import Mathlib.Algebra.Ring.Nat

/-! # Time passes in pieces of any size

A drain to a later deadline may stop on the way at an earlier one: the rounds are the same, since a
deadline never decides which task comes first, and the clock that the stop leaves behind is not
beyond any task that still waits. Hence letting several durations pass one after the other is
letting their sum pass at once, with the same lines, the same session and the same failures.
-/

namespace KubeSim.Session

variable {session : Session}

/-- Where nothing is due by `early`, moving the clock on to it changes no later drain. -/
private theorem drain_settle {early late : Duration} (idle : session.agenda.popDue early = none)
    (order : early ≤ late) :
    { session with agenda := session.agenda.settle early }.drain late = session.drain late := by
  cases due : session.agenda.popDue late with
  | none =>
    have settledIdle : (session.agenda.settle early).popDue late = none := by
      rw [Agenda.popDue_eq_none_iff] at due ⊢
      exact due
    rw [drain_of_idle due, drain_of_idle settledIdle]
    have clock : max (max session.agenda.now early) late = max session.agenda.now late := by
      rw [Duration.le_def] at order
      simp only [Duration.ext_iff, Duration.nanos_max]
      omega
    simp only [Agenda.settle, clock]
  | some round =>
    obtain ⟨task, agenda⟩ := round
    obtain ⟨found, soon, rfl⟩ := Agenda.popDue_eq_some_iff_earliest?.mp due
    have beyond := Agenda.popDue_eq_none_iff.mp idle task (Agenda.earliest?_mem found)
    -- The task lies beyond `early`, so the clock ends at its time either way.
    have clock : max (max session.agenda.now early) task.due = max session.agenda.now task.due := by
      rw [Duration.lt_def] at beyond
      simp only [Duration.ext_iff, Duration.nanos_max]
      omega
    have settledDue : (session.agenda.settle early).popDue late =
        some (task, session.agenda.takeOut task) := by
      refine Agenda.popDue_eq_some_iff_earliest?.mpr ⟨found, soon, ?_⟩
      simp only [Agenda.takeOut, Agenda.settle, clock]
    rw [drain_of_due due, drain_of_due settledDue]

/-- What is taken out by one deadline is what would be taken out by a later one. -/
private theorem popDue_of_le {agenda after : Agenda} {task : Task} {early late : Duration}
    (popped : agenda.popDue early = some (task, after)) (order : early ≤ late) :
    agenda.popDue late = some (task, after) := by
  obtain ⟨found, soon, rfl⟩ := Agenda.popDue_eq_some_iff_earliest?.mp popped
  exact Agenda.popDue_eq_some_iff_earliest?.mpr ⟨found, Nat.le_trans soon order, rfl⟩

/-- A drain may stop on the way. -/
private theorem drain_andThen_drain {early late : Duration} (session : Session)
    (order : early ≤ late) :
    andThen (session.drain early) (·.drain late) = session.drain late := by
  -- Each round lowers the workload, whatever the deadline is.
  induction load : session.agenda.workload using Nat.strongRecOn generalizing session with
  | ind load ih =>
    subst load
    cases popped : session.agenda.popDue early with
    | none => rw [drain_of_idle popped, andThen_ok_nil, drain_settle popped order]
    | some round =>
      obtain ⟨task, agenda⟩ := round
      have smaller : ∀ lines middle,
          { session with agenda }.perform task.action = .ok (lines, middle) →
            middle.agenda.workload < session.agenda.workload := by
        intro lines middle performed
        have spent := workload_perform performed
        rwa [Agenda.workload_popDue popped] at spent
      calc andThen (session.drain early) (·.drain late)
        _ = andThen (andThen ({ session with agenda }.perform task.action) (·.drain early))
              (·.drain late) := by rw [drain_of_due popped]
        _ = andThen ({ session with agenda }.perform task.action) fun middle =>
              andThen (middle.drain early) (·.drain late) := andThen_assoc ..
        _ = andThen ({ session with agenda }.perform task.action) (·.drain late) :=
              andThen_congr fun lines middle performed =>
                ih _ (smaller lines middle performed) middle rfl
        _ = session.drain late := (drain_of_due (popDue_of_le popped order)).symm

/-! ## Durations one after the other -/

/-- Lets several durations pass, one after the other. -/
def advanceAll (session : Session) : List Duration → Except Overflow (List String × Session)
  | [] => .ok ([], session)
  | elapsed :: rest => andThen (session.advance elapsed) (·.advanceAll rest)

/-- Time may pass in two pieces. -/
theorem advance_andThen_advance (session : Session) {first second total : Duration}
    (sum : total.nanos = first.nanos + second.nanos)
    (room : session.now.nanos + total.nanos < Duration.capacity) :
    andThen (session.advance first) (·.advance second) = session.advance total := by
  obtain ⟨late, reached⟩ : ∃ late, session.now.add? total = some late := by
    refine ⟨⟨_, room⟩, Duration.add?_eq_some_iff.mpr rfl⟩
  obtain ⟨early, stopped⟩ : ∃ early, session.now.add? first = some early := by
    refine ⟨⟨session.now.nanos + first.nanos, by omega⟩, Duration.add?_eq_some_iff.mpr rfl⟩
  have lateNanos := Duration.add?_eq_some_iff.mp reached
  have earlyNanos := Duration.add?_eq_some_iff.mp stopped
  have order : early ≤ late := by
    rw [Duration.le_def]
    omega
  calc andThen (session.advance first) (·.advance second)
    _ = andThen (session.drain early) (·.advance second) := by rw [advance, stopped]
    _ = andThen (session.drain early) (·.drain late) := by
          refine andThen_congr fun lines middle drained => ?_
          have clock := (drain_eq_ok_iff.mp drained).now_eq
          have resumed : middle.now.add? second = some late := by
            rw [Duration.add?_eq_some_iff, clock, Duration.nanos_max]
            omega
          rw [advance, resumed]
    _ = session.drain late := drain_andThen_drain session order
    _ = session.advance total := by rw [advance, reached]

/-- Where nothing is due, no time at all changes nothing. -/
theorem Settled.advance_zero (settled : session.Settled) {elapsed : Duration}
    (zero : elapsed.nanos = 0) : session.advance elapsed = .ok ([], session) := by
  have still : session.now.add? elapsed = some session.now := by
    rw [Duration.add?_eq_some_iff, zero, Nat.add_zero]
  have idle : session.agenda.popDue session.now = none := Agenda.popDue_eq_none_iff.mpr settled
  have clock : max session.agenda.now session.now = session.agenda.now := by
    simp only [now, Duration.ext_iff, Duration.nanos_max, Nat.max_self]
  simp only [advance, still, drain_of_idle idle, Agenda.settle, clock]

theorem advanceAll_eq_advance (durations : List Duration) {session : Session}
    (settled : session.Settled) {total : Duration}
    (sum : total.nanos = (durations.map (·.nanos)).sum)
    (room : session.now.nanos + total.nanos < Duration.capacity) :
    session.advanceAll durations = session.advance total := by
  induction durations generalizing session total with
  | nil => exact (settled.advance_zero sum).symm
  | cons elapsed rest ih =>
    rw [List.map_cons, List.sum_cons] at sum
    obtain ⟨others, remaining⟩ : ∃ others : Duration, others.nanos = (rest.map (·.nanos)).sum :=
      ⟨⟨(rest.map (·.nanos)).sum, by omega⟩, rfl⟩
    calc session.advanceAll (elapsed :: rest)
      _ = andThen (session.advance elapsed) (·.advanceAll rest) := rfl
      _ = andThen (session.advance elapsed) (·.advance others) := by
            refine andThen_congr fun lines middle advanced => ?_
            have clock := now_advance advanced
            exact ih (settled_of_advance advanced) remaining (by omega)
      _ = session.advance total := advance_andThen_advance session (by omega) room

variable {start : Cluster} {moves : List Move} {responses : List Response}

/-- After any run, letting durations pass one after the other has the outcome of letting their sum
pass at once: the same failure, or the same lines and the same session. -/
theorem advanceAll_of_play (played : (ofCluster start).play moves = .ok (responses, session))
    (durations : List Duration) {total : Duration}
    (sum : total.nanos = (durations.map (·.nanos)).sum)
    (room : session.now.nanos + total.nanos < Duration.capacity) :
    session.advanceAll durations = session.advance total :=
  advanceAll_eq_advance durations (atRest_of_play played).settled sum room

/-- The first stop falls just on the start of the rollout, and the second between its stages. -/
theorem advanceAll_of_play_scenario : ∃ responses session,
    (ofCluster .scenario).play [.execute "kubectl edit deployment auth-service"] =
        .ok (responses, session) ∧
      (session.advance (.ofMillis 3200)).map (·.1.length) = .ok 3 ∧
      session.advanceAll [.ofMillis 2000, .ofMillis 500, .ofMillis 700] =
        session.advance (.ofMillis 3200) := by
  obtain ⟨responses, session, played, observed⟩ := exists_of_map_play
    (show ((ofCluster .scenario).play [.execute "kubectl edit deployment auth-service"]).map
        (fun run => (run.2.now, (run.2.advance (.ofMillis 3200)).map (·.1.length))) =
          .ok (.zero, .ok 3) by decide +kernel)
  obtain ⟨clock, length⟩ := Prod.mk.inj observed
  refine ⟨responses, session, played, length, ?_⟩
  exact advanceAll_of_play played _ (by decide) (by rw [clock]; decide)

end KubeSim.Session
