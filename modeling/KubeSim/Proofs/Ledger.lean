import KubeSim.Proofs.Agenda
import Mathlib.Data.List.Nodup
import Mathlib.Data.List.Perm.Basic

/-! # Every accepted task is accounted for

An agenda may be asked for anything in any order: tasks may be scheduled without delay, the clock may
be moved past tasks that still wait, and a deadline may lie before an earlier one. An
`Agenda.Ledger` keeps the books of such a sequence of requests. `Ledger.Balanced` says that each
accepted task was taken out once, still waits or was dropped, and that whatever was taken out comes
before whatever waits. The second part is what makes the tasks come out in order: an accepted task
is not due before the clock, and the clock has reached every task that was taken out.
-/

namespace KubeSim.Agenda

inductive Request where
  | schedule (delay : Duration) (action : Action)
  | popDue (deadline : Duration)
  | settle (deadline : Duration)
  | cancelAll
deriving DecidableEq

/-- An agenda, and the tasks that it accepted, gave out and dropped so far. -/
structure Ledger where
  agenda : Agenda
  accepted : List Task
  taken : List Task
  dropped : List Task
deriving DecidableEq

namespace Ledger

def new : Ledger := ⟨.new, [], [], []⟩

/-- Makes a request and enters what became of the tasks. -/
def serve (ledger : Ledger) : Request → Except Overflow Ledger
  | .schedule delay action => do
    let (accepted, agenda) ← ledger.agenda.schedule delay action
    -- A task that is accepted is the last of the queue.
    let joined := if accepted then agenda.queue.getLast?.toList else []
    return { ledger with agenda, accepted := ledger.accepted ++ joined }
  | .popDue deadline =>
    match ledger.agenda.popDue deadline with
    | none => .ok ledger
    | some (task, agenda) => .ok { ledger with agenda, taken := ledger.taken ++ [task] }
  | .settle deadline => .ok { ledger with agenda := ledger.agenda.settle deadline }
  | .cancelAll => .ok { ledger with
      agenda := ledger.agenda.cancelAll
      dropped := ledger.dropped ++ ledger.agenda.queue }

def serveAll (ledger : Ledger) (requests : List Request) : Except Overflow Ledger :=
  requests.foldlM serve ledger

variable {ledger after last : Ledger} {request : Request} {requests : List Request} {task : Task}
  {due : Duration}

theorem serveAll_cons_eq_ok_iff :
    ledger.serveAll (request :: requests) = .ok last ↔
      ∃ middle, ledger.serve request = .ok middle ∧ middle.serveAll requests = .ok last := by
  rw [serveAll, List.foldlM_cons, bind_eq_ok_iff]
  rfl

/-! ## What a request can do -/

def enqueue (ledger : Ledger) (due : Duration) (action : Action) : Ledger :=
  { ledger with
    agenda := ledger.agenda.enqueue due action
    accepted := ledger.accepted ++ [⟨due, action, ledger.agenda.nextSeq⟩] }

def takeOut (ledger : Ledger) (task : Task) : Ledger :=
  { ledger with agenda := ledger.agenda.takeOut task, taken := ledger.taken ++ [task] }

theorem serve_schedule_eq_ok_iff {delay : Duration} {action : Action} :
    ledger.serve (.schedule delay action) = .ok after ↔
      ledger.agenda.cancelled = true ∧ after = ledger ∨
        ledger.agenda.cancelled = false ∧
          ∃ due, ledger.agenda.now.add? delay = some due ∧ after = ledger.enqueue due action := by
  simp only [serve, bind_eq_ok_iff, Prod.exists, schedule_eq_ok_iff, pure, Except.pure,
    Except.ok.injEq]
  constructor
  · rintro ⟨_, _, ⟨cancelled, rfl, rfl⟩ | ⟨live, rfl, due, sum, rfl⟩, rfl⟩
    · exact .inl ⟨cancelled, by simp⟩
    · exact .inr ⟨live, due, sum, by simp [enqueue]⟩
  · rintro (⟨cancelled, rfl⟩ | ⟨live, due, sum, rfl⟩)
    · exact ⟨_, _, .inl ⟨cancelled, rfl, rfl⟩, by simp⟩
    · exact ⟨_, _, .inr ⟨live, rfl, due, sum, rfl⟩, by simp [enqueue]⟩

theorem serve_popDue_eq_ok_iff {deadline : Duration} :
    ledger.serve (.popDue deadline) = .ok after ↔
      ledger.agenda.popDue deadline = none ∧ after = ledger ∨
        ∃ task, earliest? ledger.agenda.queue = some task ∧ task.due ≤ deadline ∧
          after = ledger.takeOut task := by
  simp only [serve]
  cases popped : ledger.agenda.popDue deadline with
  | none =>
    have idle := popDue_eq_none_iff.mp popped
    constructor
    · rintro ⟨⟩
      exact .inl ⟨rfl, rfl⟩
    · rintro (⟨_, rfl⟩ | ⟨task, found, due, _⟩)
      · rfl
      · exact absurd due (Nat.not_le.mpr (idle task (earliest?_mem found)))
  | some round =>
    obtain ⟨task, agenda⟩ := round
    obtain ⟨found, due, rfl⟩ := popDue_eq_some_iff_earliest?.mp popped
    constructor
    · rintro ⟨⟩
      exact .inr ⟨task, found, due, rfl⟩
    · rintro (⟨none, _⟩ | ⟨other, foundToo, _, rfl⟩)
      · cases none
      · cases found.symm.trans foundToo
        rfl

/-! ## The books balance -/

/-- Each accepted task is in one of three places, and what was taken out came in order. -/
structure Balanced (ledger : Ledger) : Prop where
  numbered : ledger.accepted.map (·.seq) = List.range ledger.agenda.nextSeq
  places : (ledger.taken ++ ledger.agenda.queue ++ ledger.dropped).Perm ledger.accepted
  ordered : ledger.taken.Pairwise fun first second => first.before second = true
  passed : ∀ task ∈ ledger.taken, task.due ≤ ledger.agenda.now
  waiting : ∀ task ∈ ledger.taken, ∀ other ∈ ledger.agenda.queue, task.before other = true
  stopped : ledger.agenda.cancelled = true → ledger.agenda.queue = []

theorem balanced_new : new.Balanced := by
  constructor <;> simp [new, Agenda.new]

private theorem Balanced.nodup_accepted (balanced : ledger.Balanced) : ledger.accepted.Nodup := by
  apply List.Nodup.of_map (·.seq)
  rw [balanced.numbered]
  exact List.nodup_range

private theorem Balanced.nodup_places (balanced : ledger.Balanced) :
    (ledger.taken ++ ledger.agenda.queue ++ ledger.dropped).Nodup :=
  balanced.places.nodup_iff.mpr balanced.nodup_accepted

theorem Balanced.accepted_of_taken (balanced : ledger.Balanced) (member : task ∈ ledger.taken) :
    task ∈ ledger.accepted := by
  apply balanced.places.subset
  simp [member]

theorem Balanced.accepted_of_queued (balanced : ledger.Balanced)
    (member : task ∈ ledger.agenda.queue) : task ∈ ledger.accepted := by
  apply balanced.places.subset
  simp [member]

theorem Balanced.seq_lt (balanced : ledger.Balanced) (member : task ∈ ledger.accepted) :
    task.seq < ledger.agenda.nextSeq := by
  rw [← List.mem_range, ← balanced.numbered]
  exact List.mem_map_of_mem member

theorem Balanced.eq_of_seq_eq (balanced : ledger.Balanced) {first second : Task}
    (member : first ∈ ledger.accepted) (memberToo : second ∈ ledger.accepted)
    (same : first.seq = second.seq) : first = second := by
  refine List.inj_on_of_nodup_map ?_ member memberToo same
  rw [balanced.numbered]
  exact List.nodup_range

/-- A task that is accepted now comes after every task that was taken out: it is not due before
them, and it has a larger number. -/
theorem Balanced.enqueue (balanced : ledger.Balanced) (live : ledger.agenda.cancelled = false)
    (future : ledger.agenda.now ≤ due) (action : Action) : (ledger.enqueue due action).Balanced where
  numbered := by
    simp [Ledger.enqueue, Agenda.enqueue, balanced.numbered, List.range_succ]
  places := by
    have moved (joined : List Task) :
        (ledger.taken ++ (ledger.agenda.queue ++ joined) ++ ledger.dropped).Perm
          (ledger.taken ++ ledger.agenda.queue ++ ledger.dropped ++ joined) := by
      simpa only [List.append_assoc] using
        (List.perm_append_comm.append_left ledger.agenda.queue).append_left ledger.taken
    exact (moved _).trans (balanced.places.append_right _)
  ordered := balanced.ordered
  passed := balanced.passed
  waiting task member other waits := by
    rcases List.mem_append.mp waits with before | single
    · exact balanced.waiting task member other before
    · obtain rfl := List.mem_singleton.mp single
      have past := balanced.passed task member
      have number := balanced.seq_lt (balanced.accepted_of_taken member)
      rw [Duration.le_def] at past future
      rw [Task.before_iff]
      simp only
      omega
  stopped cancelled := by
    rw [Ledger.enqueue, cancelled_enqueue, live] at cancelled
    cases cancelled

/-- The earliest task comes before the others that wait, since no two tasks have one number. -/
private theorem Balanced.earliest_before (balanced : ledger.Balanced)
    (found : earliest? ledger.agenda.queue = some task) :
    ∀ other ∈ ledger.agenda.queue.erase task, task.before other = true := by
  have distinct : ledger.agenda.queue.Nodup := by
    have places := balanced.nodup_places
    rw [List.append_assoc] at places
    exact places.of_append_right.of_append_left
  intro other left
  obtain ⟨different, waits⟩ := distinct.mem_erase_iff.mp left
  have notBefore := earliest?_not_before found other waits
  have numbers : task.seq ≠ other.seq := fun same =>
    different (balanced.eq_of_seq_eq (balanced.accepted_of_queued (earliest?_mem found))
      (balanced.accepted_of_queued waits) same).symm
  rw [Task.before_iff] at notBefore ⊢
  omega

theorem Balanced.takeOut (balanced : ledger.Balanced)
    (found : earliest? ledger.agenda.queue = some task) : (ledger.takeOut task).Balanced where
  numbered := balanced.numbered
  places := by
    have moved := (List.perm_cons_erase (earliest?_mem found)).symm.append_left ledger.taken
    have taken := (moved.append_right ledger.dropped).trans balanced.places
    rwa [List.append_cons] at taken
  ordered := by
    refine List.pairwise_append.mpr ⟨balanced.ordered, List.pairwise_singleton _ _, ?_⟩
    intro first member second single
    obtain rfl := List.mem_singleton.mp single
    exact balanced.waiting first member second (earliest?_mem found)
  passed other member := by
    rw [Duration.le_def, Ledger.takeOut, now_takeOut, Duration.nanos_max]
    rcases List.mem_append.mp member with before | single
    · have past := balanced.passed other before
      rw [Duration.le_def] at past
      omega
    · obtain rfl := List.mem_singleton.mp single
      omega
  waiting first member second left := by
    rcases List.mem_append.mp member with before | single
    · exact balanced.waiting first before second (List.mem_of_mem_erase left)
    · obtain rfl := List.mem_singleton.mp single
      exact balanced.earliest_before found second left
  stopped cancelled := by
    simp only [Ledger.takeOut, queue_takeOut, balanced.stopped cancelled, List.erase_nil]

theorem Balanced.settle (balanced : ledger.Balanced) (deadline : Duration) :
    Balanced { ledger with agenda := ledger.agenda.settle deadline } where
  numbered := balanced.numbered
  places := balanced.places
  ordered := balanced.ordered
  passed task member := by
    have past := balanced.passed task member
    rw [Duration.le_def] at past ⊢
    rw [now_settle, Duration.nanos_max]
    omega
  waiting := balanced.waiting
  stopped := balanced.stopped

theorem Balanced.cancelAll (balanced : ledger.Balanced) :
    Balanced { ledger with
      agenda := ledger.agenda.cancelAll
      dropped := ledger.dropped ++ ledger.agenda.queue } where
  numbered := balanced.numbered
  places := by
    have moved : (ledger.dropped ++ ledger.agenda.queue).Perm
        (ledger.agenda.queue ++ ledger.dropped) := List.perm_append_comm
    have dropped := moved.append_left ledger.taken
    rw [← List.append_assoc ledger.taken ledger.agenda.queue] at dropped
    simpa [Agenda.cancelAll] using dropped.trans balanced.places
  ordered := balanced.ordered
  passed := balanced.passed
  waiting := by simp [Agenda.cancelAll]
  stopped := by simp [Agenda.cancelAll]

theorem Balanced.serve (balanced : ledger.Balanced) (served : ledger.serve request = .ok after) :
    after.Balanced := by
  cases request with
  | schedule delay action =>
    obtain ⟨_, rfl⟩ | ⟨live, due, sum, rfl⟩ := serve_schedule_eq_ok_iff.mp served
    · exact balanced
    · refine balanced.enqueue live ?_ action
      have total := Duration.add?_eq_some_iff.mp sum
      rw [Duration.le_def]
      omega
  | popDue deadline =>
    obtain ⟨_, rfl⟩ | ⟨task, found, _, rfl⟩ := serve_popDue_eq_ok_iff.mp served
    · exact balanced
    · exact balanced.takeOut found
  | settle deadline =>
    cases served
    exact balanced.settle deadline
  | cancelAll =>
    cases served
    exact balanced.cancelAll

theorem balanced_of_serveAll (served : new.serveAll requests = .ok ledger) : ledger.Balanced :=
  foldlM_keeps Balanced (fun balanced => balanced.serve) balanced_new served

/-! ## The numbers, the clock, and the end of all work -/

private theorem nextSeq_le_of_serve (served : ledger.serve request = .ok after) :
    after.agenda.nextSeq ≤ ledger.agenda.nextSeq + 1 := by
  cases request with
  | schedule delay action =>
    obtain ⟨_, rfl⟩ | ⟨_, _, _, rfl⟩ := serve_schedule_eq_ok_iff.mp served
    · exact Nat.le_succ _
    · exact Nat.le_refl _
  | popDue deadline =>
    obtain ⟨_, rfl⟩ | ⟨_, _, _, rfl⟩ := serve_popDue_eq_ok_iff.mp served <;> exact Nat.le_succ _
  | _ =>
    cases served
    exact Nat.le_succ _

/-- A request uses up one number at most. -/
theorem nextSeq_le_of_serveAll (served : ledger.serveAll requests = .ok last) :
    last.agenda.nextSeq ≤ ledger.agenda.nextSeq + requests.length := by
  induction requests generalizing ledger with
  | nil =>
    cases served
    exact Nat.le_refl _
  | cons request rest ih =>
    obtain ⟨middle, first, others⟩ := serveAll_cons_eq_ok_iff.mp served
    have one := nextSeq_le_of_serve first
    have more := ih others
    rw [List.length_cons]
    omega

private theorem now_le_of_serve (served : ledger.serve request = .ok after) :
    ledger.agenda.now ≤ after.agenda.now := by
  rw [Duration.le_def]
  cases request with
  | schedule delay action =>
    obtain ⟨_, rfl⟩ | ⟨_, _, _, rfl⟩ := serve_schedule_eq_ok_iff.mp served <;> exact Nat.le_refl _
  | popDue deadline =>
    obtain ⟨_, rfl⟩ | ⟨task, _, _, rfl⟩ := serve_popDue_eq_ok_iff.mp served
    · exact Nat.le_refl _
    · rw [Ledger.takeOut, now_takeOut, Duration.nanos_max]
      exact Nat.le_max_left ..
  | settle deadline =>
    cases served
    rw [now_settle, Duration.nanos_max]
    exact Nat.le_max_left ..
  | cancelAll =>
    cases served
    exact Nat.le_refl _

theorem now_le_of_serveAll (served : ledger.serveAll requests = .ok last) :
    ledger.agenda.now ≤ last.agenda.now :=
  foldlM_keeps (fun next => ledger.agenda.now ≤ next.agenda.now)
    (fun reached step => Nat.le_trans reached (now_le_of_serve step)) (Nat.le_refl _) served

/-- The request to cancel is what cancels an agenda, and nothing undoes it. -/
private theorem cancelled_serve_iff (served : ledger.serve request = .ok after) :
    after.agenda.cancelled = true ↔ ledger.agenda.cancelled = true ∨ request = .cancelAll := by
  cases request with
  | schedule delay action =>
    obtain ⟨_, rfl⟩ | ⟨_, _, _, rfl⟩ := serve_schedule_eq_ok_iff.mp served <;> simp [enqueue]
  | popDue deadline =>
    obtain ⟨_, rfl⟩ | ⟨task, _, _, rfl⟩ := serve_popDue_eq_ok_iff.mp served <;> simp [takeOut]
  | settle deadline =>
    cases served
    simp [Agenda.settle]
  | cancelAll =>
    cases served
    simp [Agenda.cancelAll]

theorem cancelled_serveAll_iff (served : ledger.serveAll requests = .ok last) :
    last.agenda.cancelled = true ↔ ledger.agenda.cancelled = true ∨ .cancelAll ∈ requests := by
  induction requests generalizing ledger with
  | nil =>
    cases served
    simp
  | cons request rest ih =>
    obtain ⟨middle, first, others⟩ := serveAll_cons_eq_ok_iff.mp served
    rw [ih others, cancelled_serve_iff first, List.mem_cons, or_assoc, eq_comm (a := request)]

/-- After any requests the books balance. The clock never goes back. The tasks that were taken out
came by the time at which they were due and, of those due at one time, in the order in which they
were accepted. Each accepted task is in just one of three places. Nothing is taken out exactly when
no task is due. Before the agenda is cancelled it accepts every task, due after the delay, and then
it holds none and refuses all. -/
theorem account_of_serveAll (served : new.serveAll requests = .ok ledger) :
    (∀ more last, ledger.serveAll more = .ok last → ledger.agenda.now ≤ last.agenda.now) ∧
      ledger.accepted.map (·.seq) = List.range ledger.accepted.length ∧
      ledger.taken.Pairwise (fun first second => first.due < second.due ∨
        first.due = second.due ∧ first.seq < second.seq) ∧
      (ledger.taken ++ ledger.agenda.queue ++ ledger.dropped).Perm ledger.accepted ∧
      (ledger.taken ++ ledger.agenda.queue ++ ledger.dropped).Nodup ∧
      (∀ deadline, ledger.agenda.popDue deadline = none ↔
        ¬∃ task ∈ ledger.agenda.queue, task.due ≤ deadline) ∧
      (.cancelAll ∉ requests → ∀ delay action due, ledger.agenda.now.add? delay = some due →
        ∃ after, ledger.agenda.schedule delay action = .ok (true, after) ∧
          after.queue = ledger.agenda.queue ++ [⟨due, action, ledger.accepted.length⟩]) ∧
      (.cancelAll ∈ requests → ledger.agenda.queue = [] ∧
        ∀ delay action, ledger.agenda.schedule delay action = .ok (false, ledger.agenda)) := by
  have balanced := balanced_of_serveAll served
  have count : ledger.accepted.length = ledger.agenda.nextSeq := by
    simpa using congrArg List.length balanced.numbered
  have cancelled := cancelled_serveAll_iff served
  refine ⟨fun more last => now_le_of_serveAll, ?_, ?_, balanced.places, balanced.nodup_places,
    ?_, ?_, ?_⟩
  · rw [count, balanced.numbered]
  · apply balanced.ordered.imp
    intro first second before
    simpa [Task.before] using before
  · intro deadline
    simp [popDue_eq_none_iff, Duration.lt_def, Duration.le_def]
  · intro running delay action due sum
    have live : ledger.agenda.cancelled = false := by
      rw [Bool.eq_false_iff, Ne, cancelled]
      simp [new, Agenda.new, running]
    refine ⟨ledger.agenda.enqueue due action, ?_, by rw [count]; rfl⟩
    exact schedule_eq_ok_iff.mpr (.inr ⟨live, rfl, due, sum, rfl⟩)
  · intro asked
    have stopped := cancelled.mpr (.inr asked)
    exact ⟨balanced.stopped stopped, fun delay action => by simp [schedule, stopped]⟩

/-- The clock is moved past two tasks, and two more are scheduled for that very moment. They come out
by their times and then by their numbers, a deadline in the past gives nothing, and the last one is
dropped. -/
theorem account_of_serveAll_settledPast : ∃ ledger,
    new.serveAll
        [.schedule (.ofMillis 5000) (.startRollout "api"),
          .schedule (.ofMillis 1000) (.startRollout "web"), .settle (.ofMillis 10000),
          .schedule .zero (.finishRollout "api"), .schedule .zero (.finishRollout "web"),
          .popDue (.ofMillis 20000), .popDue (.ofMillis 3000), .popDue (.ofMillis 10000),
          .popDue (.ofMillis 10000), .cancelAll, .schedule .zero (.startRollout "api")] =
      .ok ledger ∧
      ledger.taken.map (·.seq) = [1, 0, 2] ∧ ledger.dropped.map (·.seq) = [3] ∧
      ledger.taken.Pairwise (fun first second => first.due < second.due ∨
        first.due = second.due ∧ first.seq < second.seq) ∧
      (ledger.taken ++ ledger.agenda.queue ++ ledger.dropped).Perm ledger.accepted := by
  obtain ⟨ledger, served, read⟩ := map_eq_ok_iff.mp
    (show (new.serveAll
        [.schedule (.ofMillis 5000) (.startRollout "api"),
          .schedule (.ofMillis 1000) (.startRollout "web"), .settle (.ofMillis 10000),
          .schedule .zero (.finishRollout "api"), .schedule .zero (.finishRollout "web"),
          .popDue (.ofMillis 20000), .popDue (.ofMillis 3000), .popDue (.ofMillis 10000),
          .popDue (.ofMillis 10000), .cancelAll, .schedule .zero (.startRollout "api")]).map
        (fun ledger => (ledger.taken.map (·.seq), ledger.dropped.map (·.seq))) =
          .ok ([1, 0, 2], [3]) by decide +kernel)
  obtain ⟨taken, dropped⟩ := Prod.mk.inj read
  have account := account_of_serveAll served
  exact ⟨ledger, served, taken, dropped, account.2.2.1, account.2.2.2.1⟩

end Ledger

end KubeSim.Agenda
