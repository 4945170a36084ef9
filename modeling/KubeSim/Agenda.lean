import KubeSim.Duration
import KubeSim.Overflow

/-! # The agenda of scripted actions

An agenda holds a virtual clock and the actions that are to happen later. An action is scheduled
relative to the clock and taken out once it is due, the earliest first and, of those due at the
same time, the one that was scheduled first. Cancelling drops every action for good.
-/

namespace KubeSim

/-- A scripted stage of a rollout. -/
inductive Action where
  /-- The deployment picks up the fix. -/
  | startRollout (deployment : String)
  /-- The rollout reports success. -/
  | finishRollout (deployment : String)
deriving DecidableEq

/-- An action with its time. `seq` counts what was scheduled before it. A number of 64 bits has room
for that in every run: no more is scheduled than was asked for
(`Agenda.Ledger.nextSeq_le_of_serveAll`), and a session asks at most three times for each of its
commands, which are counted in 32 bits (`Session.nextSeq_lt_of_play`). -/
structure Task where
  due : Duration
  action : Action
  seq : Nat
deriving DecidableEq

/-- Whether a task comes strictly before another: it is due earlier, or was scheduled earlier. -/
def Task.before (a b : Task) : Bool := a.due < b.due || (a.due = b.due && a.seq < b.seq)

/-- The clock and the tasks in the order in which they were scheduled. -/
structure Agenda where
  now : Duration
  queue : List Task
  nextSeq : Nat
  cancelled : Bool
deriving DecidableEq

namespace Agenda

def new : Agenda := ⟨.zero, [], 0, false⟩

instance : Inhabited Agenda := ⟨new⟩

/-- Adds an action that is due after `delay`. A cancelled agenda refuses it. -/
def schedule (agenda : Agenda) (delay : Duration) (action : Action) :
    Except Overflow (Bool × Agenda) :=
  if agenda.cancelled then .ok (false, agenda)
  else match agenda.now.add? delay with
    | none => .error .clock
    | some due =>
      .ok (true, { agenda with
        queue := agenda.queue ++ [⟨due, action, agenda.nextSeq⟩]
        nextSeq := agenda.nextSeq + 1 })

/-- The first of the earliest tasks. -/
def earliest? : List Task → Option Task
  | [] => none
  | task :: rest =>
    match earliest? rest with
    | none => some task
    | some other => if other.before task then some other else some task

/-- Takes out the earliest task that is due by `deadline` and moves the clock on to its time. -/
def popDue (agenda : Agenda) (deadline : Duration) : Option (Task × Agenda) :=
  (earliest? (agenda.queue.filter (·.due ≤ deadline))).map fun task =>
    (task, { agenda with now := max agenda.now task.due, queue := agenda.queue.erase task })

def settle (agenda : Agenda) (deadline : Duration) : Agenda :=
  { agenda with now := max agenda.now deadline }

def isPending (agenda : Agenda) (action : Action) : Bool :=
  agenda.queue.any fun task => task.action = action

def pending (agenda : Agenda) : Nat := agenda.queue.length

/-- Drops every task and refuses new ones. -/
def cancelAll (agenda : Agenda) : Agenda := { agenda with queue := [], cancelled := true }

theorem earliest?_mem {tasks : List Task} {task : Task} (found : earliest? tasks = some task) :
    task ∈ tasks := by
  induction tasks with
  | nil => simp [earliest?] at found
  | cons head rest ih =>
    simp only [earliest?] at found
    split at found
    · cases found
      exact List.mem_cons_self
    · next other other_found =>
      split at found <;> cases found
      · exact List.mem_cons_of_mem _ (ih other_found)
      · exact List.mem_cons_self

theorem popDue_eq_some_iff {agenda after : Agenda} {deadline : Duration} {task : Task} :
    agenda.popDue deadline = some (task, after) ↔
      earliest? (agenda.queue.filter (·.due ≤ deadline)) = some task ∧
        after =
          { agenda with now := max agenda.now task.due, queue := agenda.queue.erase task } := by
  simp only [popDue, Option.map_eq_some_iff, Prod.mk.injEq]
  constructor
  · rintro ⟨_, found, rfl, rfl⟩
    exact ⟨found, rfl⟩
  · rintro ⟨found, rfl⟩
    exact ⟨task, found, rfl, rfl⟩

theorem popDue_mem {agenda after : Agenda} {deadline : Duration} {task : Task}
    (popped : agenda.popDue deadline = some (task, after)) :
    task ∈ agenda.queue ∧ task.due ≤ deadline := by
  have found := earliest?_mem (popDue_eq_some_iff.mp popped).1
  simpa using List.mem_filter.mp found

end Agenda

/-- The number of agenda entries that an action leads to, itself included. -/
def Action.weight : Action → Nat
  | .startRollout _ => 2
  | .finishRollout _ => 1

namespace Agenda

/-- The number of actions that the agenda still leads to. -/
def workload (agenda : Agenda) : Nat := agenda.queue.foldr (·.action.weight + ·) 0

theorem foldr_weight (queue : List Task) (load : Nat) :
    queue.foldr (·.action.weight + ·) load = queue.foldr (·.action.weight + ·) 0 + load := by
  induction queue with
  | nil => simp
  | cons task rest ih =>
    simp only [List.foldr_cons, ih]
    omega

theorem workload_schedule_le {agenda after : Agenda} {delay : Duration} {action : Action}
    {accepted : Bool} (scheduled : agenda.schedule delay action = .ok (accepted, after)) :
    after.workload ≤ agenda.workload + action.weight := by
  unfold schedule at scheduled
  split at scheduled
  · cases scheduled
    omega
  · split at scheduled
    · cases scheduled
    · cases scheduled
      simp [workload, foldr_weight _ action.weight]

theorem workload_popDue {agenda after : Agenda} {deadline : Duration} {task : Task}
    (popped : agenda.popDue deadline = some (task, after)) :
    after.workload + task.action.weight = agenda.workload := by
  have member := (popDue_mem popped).1
  obtain ⟨_, rfl⟩ := popDue_eq_some_iff.mp popped
  have total := (List.perm_cons_erase member).foldr_eq' (f := (·.action.weight + ·))
    (fun first _ second _ load => Nat.add_left_comm ..) 0
  simp only [workload, total, List.foldr_cons]
  omega

end Agenda

end KubeSim
