import KubeSim.Proofs.Chronicle
import KubeSim.Proofs.Queue
import KubeSim.Proofs.Tokens

/-! # A session shows its timeline

The queue of a session holds one task for each event that only waits for its time: a start that is
still ahead, or an end whose start has happened. `Agenda.Expects` says so, and that the queue gives
its tasks in the order of the timeline. For the events of one moment this rests on when each task
was numbered: starts are numbered by the edits, and ends by the rounds that carry out the starts.

`Session.Tracks` ties a session to the events that are still ahead, also in the middle of a drain,
where each round makes the first of them happen.
-/

namespace KubeSim

/-- The task makes the event happen at its time. -/
structure Task.Stands (task : Task) (event : Event) : Prop where
  due : task.due.nanos = event.time
  action : task.action = event.action

namespace Agenda

/-- The queue holds a task for each of these events, and nothing else, in the order of the events. -/
structure Expects (ready : Event → Prop) (agenda : Agenda) : Prop where
  waits : ∀ event, ready event → ∃ task ∈ agenda.queue, task.Stands event
  stands : ∀ task ∈ agenda.queue, ∃ event, ready event ∧ task.Stands event
  numbered : ∀ task ∈ agenda.queue, task.seq < agenda.nextSeq
  ordered : ∀ first ∈ agenda.queue, ∀ second ∈ agenda.queue, ∀ a b, ready a → ready b →
    first.Stands a → second.Stands b → a.Before b → first.before second = true

variable {ready others : Event → Prop} {agenda : Agenda} {task : Task} {event : Event}

theorem Expects.congr (expects : agenda.Expects ready)
    (same : ∀ event, others event ↔ ready event) : agenda.Expects others := by
  have equal : others = ready := funext fun event => propext (same event)
  rwa [equal]

/-- The earliest task is that of the first event. -/
theorem Expects.earliest? (expects : agenda.Expects ready)
    (distinct : (agenda.queue.map (·.action)).Nodup) (member : ready event)
    (first : ∀ other, ready other → other ≠ event → event.Before other) :
    ∃ task, Agenda.earliest? agenda.queue = some task ∧ task.Stands event := by
  obtain ⟨task, waiting, stands⟩ := expects.waits event member
  refine ⟨task, earliest?_of_before waiting fun other waitingToo different => ?_, stands⟩
  obtain ⟨later, memberToo, standsToo⟩ := expects.stands other waitingToo
  refine expects.ordered task waiting other waitingToo event later member memberToo stands
    standsToo (first later memberToo ?_)
  rintro rfl
  exact different (List.inj_on_of_nodup_map distinct waitingToo waiting
    (standsToo.action.trans stands.action.symm))

/-- Taking out the task of an event leaves the tasks of the others. -/
theorem Expects.takeOut (expects : agenda.Expects ready)
    (distinct : (agenda.queue.map (·.action)).Nodup)
    (apart : ∀ other, ready other → other.action = event.action → other = event)
    (waiting : task ∈ agenda.queue) (stands : task.Stands event) :
    (agenda.takeOut task).Expects fun other => ready other ∧ other ≠ event where
  waits other member := by
    obtain ⟨present, different⟩ := member
    obtain ⟨next, waitingToo, standsToo⟩ := expects.waits other present
    refine ⟨next, (List.mem_erase_of_ne ?_).mpr waitingToo, standsToo⟩
    rintro rfl
    exact different (apart other present (standsToo.action.symm.trans stands.action))
  stands next left := by
    obtain ⟨other, present, standsToo⟩ := expects.stands next (List.mem_of_mem_erase left)
    refine ⟨other, ⟨present, ?_⟩, standsToo⟩
    rintro rfl
    exact action_ne_of_mem_erase distinct waiting left
      (standsToo.action.trans stands.action.symm)
  numbered next left := expects.numbered next (List.mem_of_mem_erase left)
  ordered first left second leftToo a b member memberToo :=
    expects.ordered first (List.mem_of_mem_erase left) second (List.mem_of_mem_erase leftToo) a b
      member.1 memberToo.1

/-- A new task joins for an event that is not before any of the others at its time. -/
theorem Expects.enqueue (expects : agenda.Expects ready) {due : Duration}
    (time : due.nanos = event.time)
    (apart : ∀ other, ready other → other.action = event.action → other = event)
    (last : ∀ other, ready other → event.Before other → event.time < other.time) :
    (agenda.enqueue due event.action).Expects fun other => ready other ∨ other = event := by
  have single : ∀ other, ready other ∨ other = event → other.action = event.action →
      other = event := by
    rintro other (present | rfl) same
    · exact apart other present same
    · rfl
  -- A task that waited before stands for one of the events from before.
  have earlier : ∀ task ∈ agenda.queue, ∀ other, ready other ∨ other = event →
      task.Stands other → ready other := by
    rintro task waiting other (present | rfl) stands
    · exact present
    · obtain ⟨old, present, standsToo⟩ := expects.stands task waiting
      rwa [← apart old present (standsToo.action.symm.trans stands.action)]
  constructor
  · rintro other (present | rfl)
    · obtain ⟨task, waiting, stands⟩ := expects.waits other present
      exact ⟨task, List.mem_append_left _ waiting, stands⟩
    · exact ⟨_, List.mem_append_right _ (List.mem_singleton_self _), time, rfl⟩
  · intro task member
    rcases List.mem_append.mp member with waiting | new
    · obtain ⟨other, present, stands⟩ := expects.stands task waiting
      exact ⟨other, .inl present, stands⟩
    · obtain rfl := List.mem_singleton.mp new
      exact ⟨event, .inr rfl, time, rfl⟩
  · intro task member
    rcases List.mem_append.mp member with waiting | new
    · exact Nat.lt_succ_of_lt (expects.numbered task waiting)
    · obtain rfl := List.mem_singleton.mp new
      exact Nat.lt_succ_self _
  · intro first member second memberToo a b isReady isReadyToo stands standsToo before
    rcases List.mem_append.mp member with waiting | new <;>
      rcases List.mem_append.mp memberToo with waitingToo | newToo
    · exact expects.ordered first waiting second waitingToo a b (earlier first waiting a isReady stands)
        (earlier second waitingToo b isReadyToo standsToo) stands standsToo before
    · obtain rfl := List.mem_singleton.mp newToo
      have number := expects.numbered first waiting
      have soon := before.time_le
      rw [← stands.due, ← standsToo.due] at soon
      rw [Task.before_iff]
      simp only at soon ⊢
      omega
    · obtain rfl := List.mem_singleton.mp new
      obtain rfl := single a isReady stands.action.symm
      have late := last b (earlier second waitingToo b isReadyToo standsToo) before
      rw [← stands.due, ← standsToo.due] at late
      exact Task.before_iff.mpr (.inl late)
    · obtain rfl := List.mem_singleton.mp new
      obtain rfl := List.mem_singleton.mp newToo
      obtain rfl := single a isReady stands.action.symm
      exact absurd (single b isReadyToo standsToo.action.symm) before.ne.symm

end Agenda

/-- Whether an event only waits for its time, where `rest` are the events ahead. -/
def Event.ReadyIn (rest : List Event) (event : Event) : Prop :=
  event ∈ rest ∧ (event.stage = .finish → (⟨.start, event.edit⟩ : Event) ∉ rest)

namespace Session

/-- The session shows `rest`, the later part of its timeline, if time passes. -/
structure Tracks (start : Cluster) (past : Chronicle) (rest : List Event) (session : Session) :
    Prop where
  sorted : rest.Pairwise Event.Before
  made : ∀ event ∈ rest, event.edit ∈ past.edits
  closed : ∀ event ∈ rest, ∀ later : Event, later.edit ∈ past.edits → event.Before later →
    later ∈ rest
  expects : session.agenda.Expects (Event.ReadyIn rest)
  keys : session.cluster.deployments.keys = start.deployments.keys
  wired : ∀ edit ∈ past.edits, ⟨.start, edit⟩ ∉ rest →
    session.cluster.isRemediated edit.key = true
  unchanged : ∀ key, (∀ edit ∈ past.edits, edit.key = key → ⟨.start, edit⟩ ∈ rest) →
    session.cluster.deployments.get? key = start.deployments.get? key
  live : session.agenda.cancelled = false

variable {start : Cluster} {past : Chronicle} {head event : Event} {rest tail : List Event}
  {session after : Session} {deadline : Duration} {task : Task} {lines : List String}

/-! ## One round -/

private theorem Tracks.head_before (tracks : session.Tracks start past (head :: tail)) :
    ∀ later ∈ tail, head.Before later := fun _ => List.rel_of_pairwise_cons tracks.sorted

private theorem Tracks.head_not_mem (tracks : session.Tracks start past (head :: tail)) :
    head ∉ tail :=
  fun member => (tracks.head_before head member).ne rfl

/-- The first event ahead only waits for its time. -/
private theorem Tracks.readyIn_head (tracks : session.Tracks start past (head :: tail)) :
    head.ReadyIn (head :: tail) := by
  obtain ⟨stage, edit⟩ := head
  refine ⟨List.mem_cons_self, ?_⟩
  rintro rfl member
  rcases List.mem_cons.mp member with same | later
  · cases same
  · exact (tracks.head_before _ later).not_before (Event.start_before_finish edit)

theorem Tracks.eq_of_action_eq (tracks : session.Tracks start past rest)
    (sound : past.Sound start) {first second : Event} (ahead : first ∈ rest)
    (aheadToo : second ∈ rest) (same : first.action = second.action) : first = second :=
  sound.eq_of_action_eq (tracks.made first ahead) (tracks.made second aheadToo) same

/-- The task that a round takes out is that of the first event ahead. -/
theorem Tracks.stands_head (tracks : session.Tracks start past rest) (coherent : session.Coherent)
    (fires : Fires deadline session task lines after) :
    ∃ head tail, rest = head :: tail ∧ task.Stands head := by
  have found := fires.popped.1
  obtain ⟨event, ⟨ahead, _⟩, _⟩ := tracks.expects.stands task (Agenda.earliest?_mem found)
  cases rest with
  | nil => cases ahead
  | cons head tail =>
    obtain ⟨first, earliest, stands⟩ := tracks.expects.earliest? coherent.distinct
      tracks.readyIn_head fun other isReady different =>
        tracks.head_before other ((List.mem_cons.mp isReady.1).resolve_left different)
    rw [found] at earliest
    cases earliest
    exact ⟨head, tail, rfl, stands⟩

/-- Once the end of a rollout has happened, the other events wait as before. -/
private theorem readyIn_tail_of_finish {edit : Edit} (fresh : ⟨.finish, edit⟩ ∉ tail) :
    event.ReadyIn tail ↔
      event.ReadyIn (⟨.finish, edit⟩ :: tail) ∧ event ≠ ⟨.finish, edit⟩ := by
  have same : ∀ other : Edit, (⟨.start, other⟩ : Event) ∈ (⟨.finish, edit⟩ : Event) :: tail ↔
      (⟨.start, other⟩ : Event) ∈ tail := by
    simp
  simp only [Event.ReadyIn, same, List.mem_cons]
  constructor
  · rintro ⟨member, begun⟩
    exact ⟨⟨.inr member, begun⟩, fun equal => fresh (equal ▸ member)⟩
  · rintro ⟨⟨member, begun⟩, different⟩
    exact ⟨member.resolve_left different, begun⟩

/-- Once the start of a rollout has happened, its end waits too. -/
private theorem readyIn_tail_of_start {edit : Edit} (fresh : ⟨.start, edit⟩ ∉ tail)
    (follows : ⟨.finish, edit⟩ ∈ tail) :
    event.ReadyIn tail ↔
      (event.ReadyIn (⟨.start, edit⟩ :: tail) ∧ event ≠ ⟨.start, edit⟩) ∨
        event = ⟨.finish, edit⟩ := by
  obtain ⟨stage, other⟩ := event
  by_cases same : other = edit
  · subst same
    cases stage <;> simp [Event.ReadyIn, fresh, follows]
  · cases stage <;> simp [Event.ReadyIn, same]

/-- What remains ahead after the first event. -/
private theorem Tracks.closed_tail (tracks : session.Tracks start past (head :: tail)) :
    ∀ event ∈ tail, ∀ later : Event, later.edit ∈ past.edits → event.Before later →
      later ∈ tail := by
  intro event member later present before
  have ahead := tracks.closed event (List.mem_cons_of_mem _ member) later present before
  apply (List.mem_cons.mp ahead).resolve_left
  rintro rfl
  exact (tracks.head_before event member).not_before before

private theorem Tracks.finish_mem_tail {edit : Edit}
    (tracks : session.Tracks start past (⟨.start, edit⟩ :: tail)) : ⟨.finish, edit⟩ ∈ tail := by
  have ahead := tracks.closed _ List.mem_cons_self ⟨.finish, edit⟩
    (tracks.made ⟨.start, edit⟩ List.mem_cons_self) (Event.start_before_finish edit)
  simpa using ahead

/-- While the start of its rollout is ahead, a deployment is as it was. -/
private theorem Tracks.get?_head {edit : Edit}
    (tracks : session.Tracks start past (⟨.start, edit⟩ :: tail))
    (sound : past.Sound start) :
    session.cluster.deployments.get? edit.key = start.deployments.get? edit.key := by
  apply tracks.unchanged edit.key
  intro other made same
  rw [sound.eq_of_key_eq made (tracks.made _ List.mem_cons_self) same]
  exact List.mem_cons_self

/-- The end of the rollout that is to start next comes last among the waiting events of its
moment: every other end that waits belongs to an earlier edit. -/
private theorem Tracks.time_lt_of_finish_before {edit : Edit} {other : Event}
    (tracks : session.Tracks start past (⟨.start, edit⟩ :: tail))
    (ready : other.ReadyIn (⟨.start, edit⟩ :: tail)) (before : Event.Before ⟨.finish, edit⟩ other) :
    Event.time ⟨.finish, edit⟩ < other.time := by
  obtain ⟨ahead, begun⟩ := ready
  obtain ⟨stage, edited⟩ := other
  cases stage with
  | start =>
    simp only [Event.Before, Stage.rank] at before
    omega
  | finish =>
    exact absurd (tracks.closed _ List.mem_cons_self ⟨.start, edited⟩
      (tracks.made ⟨.finish, edited⟩ ahead) (Event.finish_before_finish_iff.mp before)) (begun rfl)

/-- Once the task of the first event is out, the queue expects the other events. -/
theorem Tracks.takeOut (tracks : session.Tracks start past (head :: tail))
    (sound : past.Sound start) (coherent : session.Coherent)
    (waiting : task ∈ session.agenda.queue) (stands : task.Stands head) :
    (session.agenda.takeOut task).Expects fun other =>
      other.ReadyIn (head :: tail) ∧ other ≠ head :=
  tracks.expects.takeOut coherent.distinct
    (fun _ ready => tracks.eq_of_action_eq sound ready.1 List.mem_cons_self) waiting stands

/-- The end of a rollout leaves the cluster alone. -/
private theorem Tracks.finished {edit : Edit}
    (tracks : session.Tracks start past (⟨.finish, edit⟩ :: tail))
    (taken : (session.agenda.takeOut task).Expects fun other =>
      other.ReadyIn (⟨.finish, edit⟩ :: tail) ∧ other ≠ ⟨.finish, edit⟩) :
    Tracks start past tail { session with agenda := session.agenda.takeOut task } where
  sorted := tracks.sorted.of_cons
  made event member := tracks.made event (List.mem_cons_of_mem _ member)
  closed := tracks.closed_tail
  expects := taken.congr fun _ => readyIn_tail_of_finish tracks.head_not_mem
  keys := tracks.keys
  wired other made begun := tracks.wired other made (by simpa using begun)
  unchanged key pending :=
    tracks.unchanged key fun other made same => List.mem_cons_of_mem _ (pending other made same)
  live := tracks.live

/-- The start of a rollout wires its deployment, and its end joins the queue. -/
theorem Tracks.started {edit : Edit} {deployment : Deployment} {due : Duration}
    (tracks : session.Tracks start past (⟨.start, edit⟩ :: tail)) (sound : past.Sound start)
    (taken : (session.agenda.takeOut task).Expects fun other =>
      other.ReadyIn (⟨.start, edit⟩ :: tail) ∧ other ≠ ⟨.start, edit⟩)
    (stored : session.cluster.deployments.get? edit.key = some deployment)
    (time : due.nanos = Event.time ⟨.finish, edit⟩) (pods : List Pod) (progress : Progress) :
    Tracks start past tail { session with
      cluster := session.cluster.wired edit.key pods
      progress
      agenda := (session.agenda.takeOut task).enqueue due (.finishRollout edit.key) } where
  sorted := tracks.sorted.of_cons
  made event member := tracks.made event (List.mem_cons_of_mem _ member)
  closed := tracks.closed_tail
  expects := by
    have follows := tracks.finish_mem_tail
    have joined := taken.enqueue time
      (fun other member => tracks.eq_of_action_eq sound member.1.1
        (List.mem_cons_of_mem _ follows))
      fun other member => tracks.time_lt_of_finish_before member.1
    exact joined.congr fun _ => readyIn_tail_of_start tracks.head_not_mem follows
  keys := by rw [Cluster.keys_deployments_wired, tracks.keys]
  wired other made begun := by
    by_cases equal : other.key = edit.key
    · rw [equal]
      exact Cluster.isRemediated_wired_self stored pods
    · rw [Cluster.isRemediated_wired_of_ne equal]
      apply tracks.wired other made
      intro member
      rcases List.mem_cons.mp member with head | later
      · cases head
        exact equal rfl
      · exact begun later
  unchanged key pending := by
    have different : key ≠ edit.key := by
      rintro rfl
      exact tracks.head_not_mem (pending edit (tracks.made ⟨.start, edit⟩ List.mem_cons_self) rfl)
    rw [Cluster.get?_deployments_wired, if_neg different]
    exact tracks.unchanged key fun other made same =>
      List.mem_cons_of_mem _ (pending other made same)
  live := tracks.live

/-- A round makes the first event ahead happen. -/
theorem Tracks.fires (tracks : session.Tracks start past (head :: tail))
    (sound : past.Sound start) (coherent : session.Coherent) (stands : task.Stands head)
    (fires : Fires deadline session task lines after) :
    lines = head.lines ∧ after.Tracks start past tail := by
  have taken := tracks.takeOut sound coherent (Agenda.earliest?_mem fires.popped.1) stands
  obtain ⟨stage, edit⟩ := head
  obtain ⟨key, action, rfl, rfl⟩ | ⟨key, deployment, pods, due, action, stored, _, _, sum, rfl,
      rfl⟩ := coherent.fires_cases fires
  · cases stage with
    | start => cases stands.action.symm.trans action
    | finish =>
      obtain rfl := Action.finishRollout.inj (stands.action.symm.trans action)
      exact ⟨rfl, tracks.finished taken⟩
  · cases stage with
    | finish => cases stands.action.symm.trans action
    | start =>
      obtain rfl := Action.startRollout.inj (stands.action.symm.trans action)
      have replicas : edit.replicas = deployment.replicas := by
        obtain ⟨original, found, same⟩ :=
          sound.replicas edit (tracks.made ⟨.start, edit⟩ List.mem_cons_self)
        rw [tracks.get?_head sound, found] at stored
        rw [← same, Option.some.inj stored]
      have time : due.nanos = Event.time ⟨.finish, edit⟩ := by
        have begun := stands.due
        simp only [Event.time, Stage.delay, rolloutFinishDelay] at begun sum ⊢
        omega
      exact ⟨by rw [Event.lines_start, replicas], tracks.started sound taken stored time pods _⟩

/-! ## A whole drain -/

/-- When no task is due any more, every event ahead lies beyond the deadline. -/
private theorem Tracks.lt_time_of_idle (tracks : session.Tracks start past rest)
    (idle : session.agenda.popDue deadline = none) :
    ∀ event ∈ rest, deadline.nanos < event.time := by
  cases rest with
  | nil => simp
  | cons head tail =>
    obtain ⟨task, waiting, stands⟩ := tracks.expects.waits head tracks.readyIn_head
    have late := Agenda.popDue_eq_none_iff.mp idle task waiting
    rw [Duration.lt_def, stands.due] at late
    intro event member
    rcases List.mem_cons.mp member with rfl | later
    · exact late
    · exact Nat.lt_of_lt_of_le late (tracks.head_before event later).time_le

/-- A drain shows the events ahead up to the deadline, and leaves those beyond it. -/
theorem Tracks.drains (tracks : session.Tracks start past rest) (sound : past.Sound start)
    (coherent : session.Coherent) (drains : Drains deadline session lines after) :
    lines = (rest.filter fun event => event.time ≤ deadline.nanos).flatMap Event.lines ∧
      after.Tracks start past (rest.filter fun event => deadline.nanos < event.time) := by
  induction drains generalizing rest with
  | settled idle =>
    have beyond := tracks.lt_time_of_idle idle
    have none : (rest.filter fun event => event.time ≤ deadline.nanos) = [] := by
      simpa [List.filter_eq_nil_iff] using beyond
    have all : (rest.filter fun event => deadline.nanos < event.time) = rest := by
      simpa [List.filter_eq_self] using beyond
    obtain ⟨waits, stands, numbered, ordered⟩ := tracks.expects
    rw [none, all]
    exact ⟨rfl, tracks.sorted, tracks.made, tracks.closed, ⟨waits, stands, numbered, ordered⟩,
      tracks.keys, tracks.wired, tracks.unchanged, tracks.live⟩
  | fired fires _ ih =>
    obtain ⟨head, tail, rfl, stands⟩ := tracks.stands_head coherent fires
    obtain ⟨rfl, onwards⟩ := tracks.fires sound coherent stands fires
    obtain ⟨rfl, last⟩ := ih onwards (coherent.fires fires)
    have due := fires.popped.2
    rw [Duration.le_def, stands.due] at due
    rw [List.filter_cons_of_pos (by simpa using due), List.filter_cons_of_neg (by simpa using due)]
    exact ⟨rfl, last⟩

/-! ## Moves and runs -/

/-- Between moves, the session is at the time of the chronicle and shows the events after it. -/
structure Follows (start : Cluster) (past : Chronicle) (session : Session) : Prop where
  sound : past.Sound start
  rest : session.AtRest
  clock : session.now.nanos = past.now
  tracks : session.Tracks start past past.ahead

theorem follows_ofCluster (cluster : Cluster) : (ofCluster cluster).Follows cluster .empty := by
  refine ⟨Chronicle.sound_empty cluster, atRest_ofCluster cluster, rfl, ?_⟩
  rw [Chronicle.ahead_empty]
  constructor <;> try simp [Chronicle.empty, ofCluster, Agenda.new]
  constructor <;> simp [Event.ReadyIn]

theorem Follows.advance (follows : session.Follows start past) {elapsed : Duration}
    (advanced : session.advance elapsed = .ok (lines, after)) :
    lines = past.shown session.now.nanos after.now.nanos ∧
      after.Follows start { past with now := past.now + elapsed.nanos } := by
  obtain ⟨deadline, sum, drained⟩ := advance_eq_ok_iff.mp advanced
  have total := Duration.add?_eq_some_iff.mp sum
  have clock := now_advance advanced
  obtain ⟨rfl, tracks⟩ := follows.tracks.drains follows.sound follows.rest.coherent
    (drain_eq_ok_iff.mp drained)
  rw [clock, follows.clock, Chronicle.shown_now_eq]
  rw [total, follows.clock, ← Chronicle.ahead_later] at tracks
  refine ⟨by rw [total, follows.clock], ?_, follows.rest.advance advanced, ?_, ?_⟩
  · exact follows.sound.later elapsed.nanos
  · rw [clock, follows.clock]
  · obtain ⟨sorted, made, closed, expects, keys, wired, unchanged, live⟩ := tracks
    exact ⟨sorted, made, closed, expects, keys, wired, unchanged, live⟩

/-- An edit has nothing to change when the deployment was wired at the start, or when it was edited
before. -/
theorem Tracks.isSettled_eq_false_iff (tracks : session.Tracks start past rest) {key : String} :
    session.isSettled key = false ↔
      start.isRemediated key = false ∧ ∀ edit ∈ past.edits, edit.key ≠ key := by
  rw [Session.isSettled_eq_false_iff]
  constructor
  · rintro ⟨broken, idle⟩
    have fresh : ∀ edit ∈ past.edits, edit.key ≠ key := by
      rintro edit made rfl
      by_cases ahead : (⟨.start, edit⟩ : Event) ∈ rest
      · obtain ⟨task, waiting, stands⟩ := tracks.expects.waits ⟨.start, edit⟩ ⟨ahead, by simp⟩
        exact idle task waiting stands.action
      · rw [tracks.wired edit made ahead] at broken
        cases broken
    refine ⟨?_, fresh⟩
    rwa [← Cluster.isRemediated_congr (tracks.unchanged key fun edit made same =>
      absurd same (fresh edit made))]
  · rintro ⟨broken, fresh⟩
    constructor
    · rwa [Cluster.isRemediated_congr (tracks.unchanged key fun edit made same =>
        absurd same (fresh edit made))]
    · intro task waiting action
      obtain ⟨⟨stage, edit⟩, ready, stands⟩ := tracks.expects.stands task waiting
      cases stage with
      | start =>
        exact fresh edit (tracks.made _ ready.1)
          (Action.startRollout.inj (stands.action.symm.trans action))
      | finish => cases stands.action.symm.trans action

/-- An accepted edit adds its start to the events that only wait for their time. -/
private theorem readyIn_ahead_accept (sound : past.Sound start) {key : String} {replicas : UInt32} :
    event.ReadyIn (past.accept key replicas).ahead ↔
      event.ReadyIn past.ahead ∨ event = ⟨.start, past.next key replicas⟩ := by
  obtain ⟨stage, edit⟩ := event
  rw [Event.ReadyIn, Event.ReadyIn, Chronicle.start_mem_ahead_accept_iff]
  cases stage with
  | start => simp [Chronicle.start_mem_ahead_accept_iff]
  | finish =>
    have fresh := sound.next_not_mem key replicas
    simp only [Chronicle.mem_ahead_iff, Chronicle.mem_edits_accept_iff]
    by_cases same : edit = past.next key replicas
    · simp [same, fresh]
    · simp [same, Chronicle.accept]

/-- The start of the rollout that is edited now comes last among the waiting events of its moment:
the starts that wait belong to earlier edits, and the ends that wait come sooner. -/
private theorem time_lt_of_start_before (sound : past.Sound start) {key : String}
    {replicas : UInt32}
    (ready : event.ReadyIn past.ahead)
    (before : Event.Before ⟨.start, past.next key replicas⟩ event) :
    Event.time ⟨.start, past.next key replicas⟩ < event.time := by
  obtain ⟨ahead, begun⟩ := ready
  have made := (Chronicle.mem_ahead_iff.mp ahead).1
  have ordinal := sound.ordinal_lt made
  have elapsed := sound.elapsed event.edit made
  obtain ⟨stage, edit⟩ := event
  cases stage with
  | start =>
    simp only [Event.Before, Event.time, Chronicle.next] at before ordinal ⊢
    omega
  | finish =>
    have happened : edit.time + 2000000000 ≤ past.now := by
      have := begun rfl
      rw [Chronicle.mem_ahead_iff, not_and, Nat.not_lt] at this
      exact this made
    have := before.time_le
    simp only [Event.time, Stage.delay, Chronicle.next] at this
    omega

/-- The session follows an edit that is accepted. -/
theorem Follows.tracks_accept (follows : session.Follows start past) {key : String}
    {deployment : Deployment} (stored : start.deployments.get? key = some deployment)
    (accepts : past.Accepts start key) {due : Duration}
    (sum : session.now.add? rolloutStartDelay = some due) (count : UInt32) :
    Tracks start (past.accept key deployment.replicas) (past.accept key deployment.replicas).ahead
      { session with
        agenda := session.agenda.enqueue due (.startRollout key)
        commandsRun := count } := by
  have sound := follows.sound
  have tracks := follows.tracks
  have time : due.nanos = Event.time ⟨.start, past.next key deployment.replicas⟩ := by
    have total := Duration.add?_eq_some_iff.mp sum
    rw [follows.clock] at total
    exact total
  have apart : ∀ other : Event, other.ReadyIn past.ahead →
      other.action ≠ Event.action ⟨.start, past.next key deployment.replicas⟩ := by
    rintro ⟨stage, edit⟩ ready same
    cases stage with
    | start => exact accepts.2.2 edit (tracks.made _ ready.1) (Action.startRollout.inj same)
    | finish => cases same
  have joined := tracks.expects.enqueue time
    (fun other ready same => absurd same (apart other ready))
    fun other ready => time_lt_of_start_before sound ready
  refine ⟨(sound.accept stored accepts).pairwise_ahead,
    fun event ahead => (Chronicle.mem_ahead_iff.mp ahead).1,
    fun event ahead other made => Chronicle.mem_ahead_of_before ahead made,
    joined.congr fun event => readyIn_ahead_accept sound, tracks.keys, ?_, ?_, tracks.live⟩
  · intro edit made begun
    rw [Chronicle.start_mem_ahead_accept_iff, not_or] at begun
    exact tracks.wired edit ((Chronicle.mem_edits_accept_iff.mp made).resolve_right begun.2) begun.1
  · intro name pending
    apply tracks.unchanged name
    intro edit made same
    have ahead := pending edit (Chronicle.mem_edits_accept_iff.mpr (.inl made)) same
    apply (Chronicle.start_mem_ahead_accept_iff.mp ahead).resolve_right
    rintro rfl
    exact sound.next_not_mem _ _ made

/-- An edit of a known deployment tells whether it is accepted. -/
theorem Tracks.answer (tracks : session.Tracks start past rest) {line key : String}
    {response : Response} (parsed : Command.parse line = .editDeployment key)
    (known : key ∈ start.deployments.keys)
    (executed : session.execute line = .ok (response, after)) :
    response = ⟨Chronicle.manifest key ++
      if past.Accepts start key then ["", "# Configuration updated. Applying changes..."]
      else ["Edit cancelled, no changes made."], false⟩ := by
  rw [← tracks.keys] at known
  obtain ⟨deployment, stored⟩ := Catalog.mem_keys_iff.mp known
  rw [tracks.keys] at known
  obtain ⟨count, ⟨settled, rfl, _⟩ | ⟨unsettled, rfl, _⟩⟩ := execute_editDeployment parsed
    (Command.trim_ne_empty_of_parse_editDeployment parsed) stored executed
  · have refuses : ¬past.Accepts start key := by
      intro accepts
      rw [tracks.isSettled_eq_false_iff.mpr accepts.2] at settled
      cases settled
    rw [if_neg refuses, Chronicle.manifest_eq]
    rfl
  · have accepts : past.Accepts start key :=
      ⟨known, tracks.isSettled_eq_false_iff.mp unsettled⟩
    rw [if_pos accepts, Chronicle.manifest_eq]
    rfl

/-- The first edit of a deployment that was broken at the start schedules its rollout. -/
theorem Tracks.enqueue_of_accepts (tracks : session.Tracks start past rest) {line key : String}
    {response : Response} (parsed : Command.parse line = .editDeployment key)
    (accepts : past.Accepts start key)
    (executed : session.execute line = .ok (response, after)) :
    ∃ due count, session.now.add? rolloutStartDelay = some due ∧
      after = { session with
        agenda := session.agenda.enqueue due (.startRollout key)
        commandsRun := count } := by
  have unsettled := tracks.isSettled_eq_false_iff.mpr accepts.2
  have present : key ∈ session.cluster.deployments.keys := by
    rw [tracks.keys]
    exact accepts.1
  obtain ⟨deployment, stored⟩ := Catalog.mem_keys_iff.mp present
  obtain ⟨count, ⟨settled, _⟩ | ⟨_, _, _, agenda, scheduled, rfl⟩⟩ := execute_editDeployment parsed
    (Command.trim_ne_empty_of_parse_editDeployment parsed) stored executed
  · rw [unsettled] at settled
    cases settled
  · obtain ⟨cancelled, _⟩ | ⟨_, _, due, sum, rfl⟩ := Agenda.schedule_eq_ok_iff.mp scheduled
    · rw [tracks.live] at cancelled
      cases cancelled
    · exact ⟨due, count, sum, rfl⟩

/-- A session that is not edited stays as it is but for the counter. -/
theorem Tracks.eq_of_not_accepts (tracks : session.Tracks start past rest) {line : String}
    {response : Response}
    (refuses : ∀ key, Command.parse line = .editDeployment key → ¬past.Accepts start key)
    (executed : session.execute line = .ok (response, after)) :
    ∃ count, after = { session with commandsRun := count } := by
  obtain unedited | ⟨key, deployment, _, _, parsed, stored, unsettled, _, _, _⟩ :=
    execute_cases executed
  · exact unedited
  · refine absurd ⟨?_, tracks.isSettled_eq_false_iff.mp unsettled⟩ (refuses key parsed)
    rw [← tracks.keys]
    exact Catalog.mem_keys_iff.mpr ⟨deployment, stored⟩

theorem Follows.execute (follows : session.Follows start past) {line : String}
    {response : Response} (executed : session.execute line = .ok (response, after)) :
    after.Follows start (past.record start (.execute line)) := by
  have tracks := follows.tracks
  have rest : after.AtRest := follows.rest.move (show session.move (.execute line) = _ from executed)
  by_cases edits : ∃ key, Command.parse line = .editDeployment key ∧ past.Accepts start key
  · obtain ⟨key, parsed, accepts⟩ := edits
    obtain ⟨deployment, stored⟩ := Catalog.mem_keys_iff.mp accepts.1
    obtain ⟨due, count, sum, rfl⟩ := tracks.enqueue_of_accepts parsed accepts executed
    rw [Chronicle.record_execute_of_accepts parsed stored accepts]
    exact ⟨follows.sound.accept stored accepts, rest, follows.clock,
      follows.tracks_accept stored accepts sum count⟩
  · have refuses : ∀ key, Command.parse line = .editDeployment key → ¬past.Accepts start key :=
      fun key parsed accepts => edits ⟨key, parsed, accepts⟩
    obtain ⟨count, rfl⟩ := tracks.eq_of_not_accepts refuses executed
    rw [Chronicle.record_execute_of_not_accepts refuses]
    obtain ⟨sorted, made, closed, expects, keys, wired, unchanged, live⟩ := tracks
    exact ⟨follows.sound, rest, follows.clock,
      sorted, made, closed, expects, keys, wired, unchanged, live⟩

variable {moves : List Move} {responses : List Response}

theorem Follows.move (follows : session.Follows start past) {move : Move} {response : Response}
    (running : move ≠ .shutdown) (moved : session.move move = .ok (response, after)) :
    after.Follows start (past.record start move) := by
  cases move with
  | execute line => exact follows.execute moved
  | advance elapsed =>
    obtain ⟨lines, advanced, _⟩ := move_advance_eq_ok_iff.mp moved
    exact (follows.advance advanced).2
  | shutdown => exact absurd rfl running

theorem Follows.play (follows : session.Follows start past) (running : Move.shutdown ∉ moves)
    (played : session.play moves = .ok (responses, after)) :
    after.Follows start (moves.foldl (Chronicle.record start) past) := by
  induction moves generalizing session past responses with
  | nil =>
    cases played
    exact follows
  | cons first rest ih =>
    obtain ⟨_, middle, others, moved, played, _⟩ := play_cons_eq_ok_iff.mp played
    rw [List.mem_cons, not_or] at running
    exact ih (follows.move (Ne.symm running.1) moved) running.2 played

/-- A session shows what the timeline of its run says. An edit of a known deployment shows its
manifest and tells whether it is accepted, which only the first edit of a deployment that was broken
at the start is. As time passes, the lines are those of the events in between. -/
theorem timeline_of_play (running : Move.shutdown ∉ moves)
    (played : (ofCluster start).play moves = .ok (responses, session)) :
    session.now.nanos = (Chronicle.ofMoves start moves).now ∧
      (∀ line key response after, Command.parse line = .editDeployment key →
        key ∈ start.deployments.keys → session.execute line = .ok (response, after) →
        (Chronicle.manifest key).length = 16 ∧
          response = ⟨Chronicle.manifest key ++
            if (Chronicle.ofMoves start moves).Accepts start key then
              ["", "# Configuration updated. Applying changes..."]
            else ["Edit cancelled, no changes made."], false⟩) ∧
      ∀ elapsed lines after, session.advance elapsed = .ok (lines, after) →
        after.now.nanos = session.now.nanos + elapsed.nanos ∧
          lines = (Chronicle.ofMoves start moves).shown session.now.nanos after.now.nanos := by
  have follows := (follows_ofCluster start).play running played
  refine ⟨follows.clock, ?_, ?_⟩
  · intro line key response after parsed known executed
    exact ⟨rfl, follows.tracks.answer parsed known executed⟩
  · intro elapsed lines after advanced
    exact ⟨now_advance advanced, (follows.advance advanced).1⟩

def twoBroken : Cluster := .ofResources [] [] [.new "api" 2, .new "web" 1]

/-- Where an edit follows another by a second, its rollout starts at the moment that the other ends,
and the start is shown first. A second edit of a deployment is not accepted. -/
theorem timeline_of_play_twoBroken : ∃ responses session lines after response last,
    (ofCluster twoBroken).play
        [.execute "kubectl edit deployment api", .advance (.ofMillis 1000),
          .execute "kubectl edit deployment web"] = .ok (responses, session) ∧
      session.advance (.ofMillis 2000) = .ok (lines, after) ∧
      (Chronicle.ofMoves twoBroken
          [.execute "kubectl edit deployment api", .advance (.ofMillis 1000),
            .execute "kubectl edit deployment web"]).shown session.now.nanos after.now.nanos =
        lines ∧
      lines = [
        "deployment.apps/api edited",
        "Waiting for deployment \"api\" rollout to finish: " ++
          "0 of 2 updated replicas are available...",
        "deployment.apps/web edited",
        "Waiting for deployment \"web\" rollout to finish: " ++
          "0 of 1 updated replicas are available...",
        "deployment \"api\" successfully rolled out"] ∧
      session.execute "kubectl edit deployment web" = .ok (response, last) ∧
      response.lines = Chronicle.manifest "web" ++ ["Edit cancelled, no changes made."] := by
  obtain ⟨responses, session, played, ends⟩ := exists_of_map_play
    (show ((ofCluster twoBroken).play
        [.execute "kubectl edit deployment api", .advance (.ofMillis 1000),
          .execute "kubectl edit deployment web"]).map
        (fun run => ((run.2.advance (.ofMillis 2000)).map (·.1),
          (run.2.execute "kubectl edit deployment web").map fun _ => ())) =
          .ok (.ok [
            "deployment.apps/api edited",
            "Waiting for deployment \"api\" rollout to finish: " ++
              "0 of 2 updated replicas are available...",
            "deployment.apps/web edited",
            "Waiting for deployment \"web\" rollout to finish: " ++
              "0 of 1 updated replicas are available...",
            "deployment \"api\" successfully rolled out"], .ok ()) by
      decide +kernel)
  obtain ⟨showed, answered⟩ := Prod.mk.inj ends
  obtain ⟨⟨lines, after⟩, advanced, rfl⟩ := map_eq_ok_iff.mp showed
  obtain ⟨⟨response, last⟩, executed, _⟩ := map_eq_ok_iff.mp answered
  obtain ⟨_, answers, shows⟩ := timeline_of_play (by decide) played
  refine ⟨responses, session, _, after, response, last, played, advanced,
    (shows _ _ _ advanced).2.symm, rfl, executed, ?_⟩
  obtain ⟨_, rfl⟩ := answers _ "web" _ _ (by decide +kernel) (by decide +kernel) executed
  rw [if_neg (by decide +kernel)]

end Session

end KubeSim
