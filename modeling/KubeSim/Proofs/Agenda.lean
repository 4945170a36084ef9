import KubeSim.Agenda

/-! # Which task an agenda takes out

The deadline of `Agenda.popDue` decides only whether a task is taken out, and never which one:
the earliest of the tasks due by a deadline is the earliest of all tasks, provided that one is due
by then. So an agenda gives nothing exactly when all its tasks lie beyond the deadline.

`Agenda.takeOut` and `Agenda.enqueue` name the two changes that a queue undergoes, and the
inversion lemmas of `popDue` and `schedule` say when each of them happens.
-/

namespace KubeSim

theorem Task.before_iff {a b : Task} :
    a.before b = true ↔
      a.due.nanos < b.due.nanos ∨ a.due.nanos = b.due.nanos ∧ a.seq < b.seq := by
  simp [before, Duration.lt_def, Duration.ext_iff]

namespace Agenda

/-! ## The earliest task -/

private theorem earliest?_cons_of_none {head : Task} {rest : List Task}
    (search : earliest? rest = none) : earliest? (head :: rest) = some head := by
  simp only [earliest?, search]

private theorem earliest?_cons_of_some {head first : Task} {rest : List Task}
    (search : earliest? rest = some first) :
    earliest? (head :: rest) = some (if first.before head then first else head) := by
  simp only [earliest?, search]
  split <;> rfl

theorem earliest?_eq_none_iff {tasks : List Task} : earliest? tasks = none ↔ tasks = [] := by
  cases tasks with
  | nil => simp [earliest?]
  | cons head rest =>
    cases search : earliest? rest with
    | none => simp [earliest?_cons_of_none search]
    | some first => simp [earliest?_cons_of_some search]

/-- No task comes before the earliest. -/
theorem earliest?_not_before {tasks : List Task} {task : Task}
    (found : earliest? tasks = some task) : ∀ other ∈ tasks, ¬other.before task = true := by
  induction tasks generalizing task with
  | nil => simp
  | cons head rest ih =>
    intro other member
    cases search : earliest? rest with
    | none =>
      obtain rfl := earliest?_eq_none_iff.mp search
      obtain rfl := List.mem_singleton.mp member
      cases found
      simp [Task.before_iff]
    | some first =>
      rw [earliest?_cons_of_some search] at found
      obtain rfl := Option.some.inj found
      have least := ih search
      simp only [Task.before_iff] at least ⊢
      split
      · next sooner =>
        rcases List.mem_cons.mp member with rfl | present
        · omega
        · exact least other present
      · next notSooner =>
        rcases List.mem_cons.mp member with rfl | present
        · omega
        · have := least other present
          omega

/-- The earliest task is due no later than any other. -/
theorem earliest?_due_le {tasks : List Task} {task : Task} (found : earliest? tasks = some task) :
    ∀ other ∈ tasks, task.due ≤ other.due := by
  intro other member
  have notBefore := earliest?_not_before found other member
  rw [Task.before_iff] at notBefore
  rw [Duration.le_def]
  omega

/-- A task that comes before every other one is the earliest. -/
theorem earliest?_of_before {tasks : List Task} {task : Task} (member : task ∈ tasks)
    (first : ∀ other ∈ tasks, other ≠ task → task.before other = true) :
    earliest? tasks = some task := by
  induction tasks with
  | nil => cases member
  | cons head rest ih =>
    by_cases inside : task ∈ rest
    · rw [earliest?_cons_of_some
        (ih inside fun other present => first other (List.mem_cons_of_mem _ present))]
      by_cases same : head = task
      · simp [same]
      · simp [first head List.mem_cons_self same]
    · obtain rfl := (List.mem_cons.mp member).resolve_right inside
      cases search : earliest? rest with
      | none => exact earliest?_cons_of_none search
      | some other =>
        have present := earliest?_mem search
        have distinct : other ≠ task := by
          rintro rfl
          exact inside present
        have ahead := first other (List.mem_cons_of_mem _ present) distinct
        have notBefore : ¬other.before task = true := by
          rw [Task.before_iff] at ahead ⊢
          omega
        rw [earliest?_cons_of_some search, if_neg notBefore]

/-- The deadline decides whether the earliest task is taken, and never which task that is. -/
private theorem earliest?_filter_due (tasks : List Task) (deadline : Duration) :
    earliest? (tasks.filter (·.due ≤ deadline)) =
      (earliest? tasks).filter (·.due ≤ deadline) := by
  induction tasks with
  | nil => rfl
  | cons head rest ih =>
    cases search : earliest? rest with
    | none =>
      obtain rfl := earliest?_eq_none_iff.mp search
      by_cases soon : head.due ≤ deadline <;> simp [earliest?, Option.filter, soon]
    | some first =>
      rw [search] at ih
      rw [earliest?_cons_of_some search]
      by_cases soon : head.due ≤ deadline
      · rw [List.filter_cons_of_pos (by simpa using soon)]
        by_cases due : first.due ≤ deadline
        · rw [Option.filter_some_pos (by simpa using due)] at ih
          rw [earliest?_cons_of_some ih, Option.filter_some_pos]
          split <;> simp [soon, due]
        · rw [Option.filter_some_neg (by simpa using due)] at ih
          -- The head is due and the earliest of the rest is not, so the head comes first.
          have notBefore : ¬first.before head = true := by
            simp only [Duration.le_def, Task.before_iff] at soon due ⊢
            omega
          rw [earliest?_cons_of_none ih, if_neg notBefore, Option.filter_some_pos]
          simpa using soon
      · rw [List.filter_cons_of_neg (by simpa using soon), ih]
        split
        · rfl
        · next notBefore =>
          have late : ¬first.due ≤ deadline := by
            simp only [Duration.le_def, Task.before_iff] at soon notBefore ⊢
            omega
          rw [Option.filter_some_neg (by simpa using late),
            Option.filter_some_neg (by simpa using soon)]

/-! ## Taking a task out and adding one -/

/-- The agenda once a task of its queue has come due. -/
def takeOut (agenda : Agenda) (task : Task) : Agenda :=
  { agenda with now := max agenda.now task.due, queue := agenda.queue.erase task }

/-- The agenda with one more action, at the end of its queue. -/
def enqueue (agenda : Agenda) (due : Duration) (action : Action) : Agenda :=
  { agenda with
    queue := agenda.queue ++ [⟨due, action, agenda.nextSeq⟩]
    nextSeq := agenda.nextSeq + 1 }

@[simp] theorem now_takeOut (agenda : Agenda) (task : Task) :
    (agenda.takeOut task).now = max agenda.now task.due := rfl

@[simp] theorem queue_takeOut (agenda : Agenda) (task : Task) :
    (agenda.takeOut task).queue = agenda.queue.erase task := rfl

@[simp] theorem cancelled_takeOut (agenda : Agenda) (task : Task) :
    (agenda.takeOut task).cancelled = agenda.cancelled := rfl

@[simp] theorem now_enqueue (agenda : Agenda) (due : Duration) (action : Action) :
    (agenda.enqueue due action).now = agenda.now := rfl

@[simp] theorem queue_enqueue (agenda : Agenda) (due : Duration) (action : Action) :
    (agenda.enqueue due action).queue = agenda.queue ++ [⟨due, action, agenda.nextSeq⟩] := rfl

@[simp] theorem cancelled_enqueue (agenda : Agenda) (due : Duration) (action : Action) :
    (agenda.enqueue due action).cancelled = agenda.cancelled := rfl

@[simp] theorem now_settle (agenda : Agenda) (deadline : Duration) :
    (agenda.settle deadline).now = max agenda.now deadline := rfl

/-- Where each action waits once, no task that is left has the action of the one taken out. -/
theorem action_ne_of_mem_erase {queue : List Task} {task other : Task}
    (distinct : (queue.map (·.action)).Nodup) (member : task ∈ queue)
    (left : other ∈ queue.erase task) : other.action ≠ task.action := by
  have permuted := (List.perm_cons_erase member).map (·.action)
  rw [permuted.nodup_iff, List.map_cons, List.nodup_cons] at distinct
  intro same
  exact distinct.1 (same ▸ List.mem_map_of_mem left)

private theorem popDue_eq (agenda : Agenda) (deadline : Duration) :
    agenda.popDue deadline =
      ((earliest? agenda.queue).filter (·.due ≤ deadline)).map fun task =>
        (task, agenda.takeOut task) := by
  rw [popDue, earliest?_filter_due]
  rfl

theorem popDue_eq_some_iff_earliest? {agenda after : Agenda} {deadline : Duration} {task : Task} :
    agenda.popDue deadline = some (task, after) ↔
      earliest? agenda.queue = some task ∧ task.due ≤ deadline ∧ after = agenda.takeOut task := by
  simp only [popDue_eq, Option.map_eq_some_iff, Option.filter_eq_some_iff, Prod.mk.injEq,
    decide_eq_true_eq]
  constructor
  · rintro ⟨_, ⟨found, due⟩, rfl, rfl⟩
    exact ⟨found, due, rfl⟩
  · rintro ⟨found, due, rfl⟩
    exact ⟨task, ⟨found, due⟩, rfl, rfl⟩

/-- Nothing is taken out exactly when every task lies beyond the deadline. -/
theorem popDue_eq_none_iff {agenda : Agenda} {deadline : Duration} :
    agenda.popDue deadline = none ↔ ∀ task ∈ agenda.queue, deadline < task.due := by
  simp only [popDue, Option.map_eq_none_iff, earliest?_eq_none_iff, List.filter_eq_nil_iff,
    decide_eq_true_eq, Duration.le_def, Duration.lt_def, Nat.not_le]

theorem schedule_eq_ok_iff {agenda after : Agenda} {delay : Duration} {action : Action}
    {accepted : Bool} :
    agenda.schedule delay action = .ok (accepted, after) ↔
      agenda.cancelled = true ∧ accepted = false ∧ after = agenda ∨
        agenda.cancelled = false ∧ accepted = true ∧
          ∃ due, agenda.now.add? delay = some due ∧ after = agenda.enqueue due action := by
  unfold schedule
  cases refuses : agenda.cancelled with
  | true => simp [eq_comm]
  | false =>
    cases agenda.now.add? delay with
    | none => simp
    | some due => simp [enqueue, refuses, eq_comm]

/-- Scheduling fails only where the clock has no room for the delay. -/
theorem schedule_eq_error_iff {agenda : Agenda} {delay : Duration} {action : Action}
    {failure : Overflow} :
    agenda.schedule delay action = .error failure ↔
      failure = .clock ∧ agenda.cancelled = false ∧
        Duration.capacity ≤ agenda.now.nanos + delay.nanos := by
  rw [← Duration.add?_eq_none_iff]
  unfold schedule
  cases agenda.cancelled with
  | true => simp
  | false => cases agenda.now.add? delay <;> simp [eq_comm]

end Agenda

end KubeSim
