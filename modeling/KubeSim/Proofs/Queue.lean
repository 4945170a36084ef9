import KubeSim.Proofs.Run
import Mathlib.Logic.Relation

/-! # What waits in the queue of a session

The queue, the clock and the cluster agree. The start of a rollout waits for a deployment that is
there and not wired, its end waits for one that is wired, and neither waits twice. `Coherent` says
so in a form that every round of a drain keeps, while tasks that are due now are still being taken
out; between moves a session is also `Settled`, that is no task is due any more.

From this follow the shape of the queue after any run (`queue_of_play`), that a rollout which
starts always finds its deployment broken, and that three seconds leave nothing waiting.
-/

namespace KubeSim.Session

/-- The queue agrees with the clock and the cluster, also in the middle of a drain. -/
structure Coherent (session : Session) : Prop where
  distinct : (session.agenda.queue.map (·.action)).Nodup
  start : ∀ task ∈ session.agenda.queue, ∀ key, task.action = .startRollout key →
    key ∈ session.cluster.deployments.keys ∧ session.cluster.isRemediated key = false ∧
      task.due.nanos ≤ session.now.nanos + rolloutStartDelay.nanos
  finish : ∀ task ∈ session.agenda.queue, ∀ key, task.action = .finishRollout key →
    session.cluster.isRemediated key = true ∧
      task.due.nanos ≤ session.now.nanos + rolloutFinishDelay.nanos
  ahead : ∀ task ∈ session.agenda.queue, session.now ≤ task.due
  stopped : session.agenda.cancelled = true → session.agenda.queue = []

/-- No waiting action is due. -/
def Settled (session : Session) : Prop :=
  ∀ task ∈ session.agenda.queue, session.now < task.due

theorem coherent_ofCluster (cluster : Cluster) : (ofCluster cluster).Coherent := by
  constructor <;> simp [ofCluster, Agenda.new]

theorem settled_ofCluster (cluster : Cluster) : (ofCluster cluster).Settled := by
  simp [Settled, ofCluster, Agenda.new]

variable {session middle after : Session} {deadline : Duration} {task : Task}
  {lines : List String}

/-! ## One round -/

private theorem Coherent.live_of_mem (coherent : session.Coherent)
    (member : task ∈ session.agenda.queue) : session.agenda.cancelled = false := by
  by_contra cancelled
  rw [coherent.stopped (by simpa using cancelled)] at member
  cases member

theorem Coherent.deployment_of_start (coherent : session.Coherent)
    (member : task ∈ session.agenda.queue) {key : String} (action : task.action = .startRollout key) :
    ∃ deployment, session.cluster.deployments.get? key = some deployment ∧
      session.cluster.isRemediated key = false ∧ session.agenda.cancelled = false := by
  obtain ⟨present, broken, _⟩ := coherent.start task member key action
  obtain ⟨deployment, stored⟩ := Catalog.mem_keys_iff.mp present
  exact ⟨deployment, stored, broken, coherent.live_of_mem member⟩

/-- A round ends a rollout, or starts one for a deployment that is there and broken. -/
theorem Coherent.fires_cases (coherent : session.Coherent)
    (fires : Fires deadline session task lines after) :
    (∃ key, task.action = .finishRollout key ∧ lines = [rolloutFinished key] ∧
      after = { session with agenda := session.agenda.takeOut task }) ∨
    ∃ key deployment pods due, task.action = .startRollout key ∧
      session.cluster.deployments.get? key = some deployment ∧
      session.cluster.isRemediated key = false ∧
      Cluster.recoverPods key session.cluster.pods = .ok pods ∧
      due.nanos = task.due.nanos + rolloutFinishDelay.nanos ∧
      lines = rolloutStarted key deployment.replicas ∧
      after = { session with
        cluster := session.cluster.wired key pods
        progress := session.progress.advanced Progress.remediated
        agenda := (session.agenda.takeOut task).enqueue due (.finishRollout key) } := by
  have member := Agenda.earliest?_mem fires.popped.1
  cases action : task.action with
  | finishRollout key =>
    obtain ⟨shown, ended⟩ := fires.of_finishRollout action
    exact .inl ⟨key, rfl, shown, ended⟩
  | startRollout key =>
    obtain ⟨deployment, stored, broken, live⟩ := coherent.deployment_of_start member action
    obtain ⟨pods, due, recovered, sum, shown, started⟩ :=
      fires.of_startRollout action stored broken live
    have ahead := coherent.ahead task member
    rw [Duration.le_def] at ahead
    rw [Duration.nanos_max, Nat.max_eq_right ahead] at sum
    exact .inr ⟨key, deployment, pods, due, rfl, stored, broken, recovered, sum, shown, started⟩

theorem Coherent.takeOut (coherent : session.Coherent)
    (found : Agenda.earliest? session.agenda.queue = some task) :
    Coherent { session with agenda := session.agenda.takeOut task } := by
  have first := coherent.ahead task (Agenda.earliest?_mem found)
  simp only [Duration.le_def, now] at first
  constructor
  · exact coherent.distinct.sublist (List.erase_sublist.map _)
  · intro other left key action
    obtain ⟨present, broken, soon⟩ := coherent.start other (List.mem_of_mem_erase left) key action
    refine ⟨present, broken, ?_⟩
    simp only [now, Agenda.now_takeOut, Duration.nanos_max] at soon ⊢
    omega
  · intro other left key action
    obtain ⟨wired, soon⟩ := coherent.finish other (List.mem_of_mem_erase left) key action
    refine ⟨wired, ?_⟩
    simp only [now, Agenda.now_takeOut, Duration.nanos_max] at soon ⊢
    omega
  · intro other left
    have least := Agenda.earliest?_due_le found other (List.mem_of_mem_erase left)
    simp only [now, Agenda.now_takeOut, Duration.le_def, Duration.nanos_max] at least ⊢
    omega
  · intro cancelled
    simp only [Agenda.queue_takeOut, coherent.stopped cancelled, List.erase_nil]

/-- The queue stays free of repetitions when an action that is not in it joins. -/
private theorem Coherent.distinct_enqueue (coherent : session.Coherent) {action : Action}
    (fresh : ∀ task ∈ session.agenda.queue, task.action ≠ action) (due : Duration) :
    ((session.agenda.enqueue due action).queue.map (·.action)).Nodup := by
  simp only [Agenda.queue_enqueue, List.map_append, List.map_cons, List.map_nil]
  refine List.nodup_append.mpr ⟨coherent.distinct, by simp, ?_⟩
  intro waiting member other single
  obtain ⟨task, present, rfl⟩ := List.mem_map.mp member
  obtain rfl := List.mem_singleton.mp single
  exact fresh task present

/-- Wiring a deployment whose start no longer waits makes room for the end of its rollout. -/
theorem Coherent.wired (coherent : session.Coherent) {key : String} {deployment : Deployment}
    (stored : session.cluster.deployments.get? key = some deployment)
    (broken : session.cluster.isRemediated key = false)
    (gone : ∀ task ∈ session.agenda.queue, task.action ≠ .startRollout key)
    (live : session.agenda.cancelled = false) {due : Duration}
    (sum : due.nanos = session.now.nanos + rolloutFinishDelay.nanos) (pods : List Pod)
    (progress : Progress) :
    Coherent { session with
      cluster := session.cluster.wired key pods
      progress
      agenda := session.agenda.enqueue due (.finishRollout key) } := by
  have fresh : ∀ task ∈ session.agenda.queue, task.action ≠ .finishRollout key := by
    intro task member action
    have wired := (coherent.finish task member key action).1
    rw [broken] at wired
    cases wired
  constructor
  · exact coherent.distinct_enqueue fresh due
  · intro task member name action
    rcases List.mem_append.mp member with waiting | single
    · obtain ⟨present, unwired, soon⟩ := coherent.start task waiting name action
      have distinct : name ≠ key := by
        rintro rfl
        exact gone task waiting action
      refine ⟨by rwa [Cluster.keys_deployments_wired], ?_, soon⟩
      rwa [Cluster.isRemediated_wired_of_ne distinct]
    · obtain rfl := List.mem_singleton.mp single
      cases action
  · intro task member name action
    rcases List.mem_append.mp member with waiting | single
    · obtain ⟨wired, soon⟩ := coherent.finish task waiting name action
      have distinct : name ≠ key := by
        rintro rfl
        exact fresh task waiting action
      refine ⟨?_, soon⟩
      rwa [Cluster.isRemediated_wired_of_ne distinct]
    · obtain rfl := List.mem_singleton.mp single
      cases action
      exact ⟨Cluster.isRemediated_wired_self stored pods, Nat.le_of_eq sum⟩
  · intro task member
    rcases List.mem_append.mp member with waiting | single
    · exact coherent.ahead task waiting
    · obtain rfl := List.mem_singleton.mp single
      simp only [Duration.le_def, now, Agenda.now_enqueue] at sum ⊢
      omega
  · intro cancelled
    rw [Agenda.cancelled_enqueue, live] at cancelled
    cases cancelled

theorem Coherent.fires (coherent : session.Coherent)
    (fires : Fires deadline session task lines after) : after.Coherent := by
  have found := fires.popped.1
  have member := Agenda.earliest?_mem found
  have taken := coherent.takeOut found
  obtain ⟨key, _, _, rfl⟩ | ⟨key, deployment, pods, due, action, stored, broken, _, sum, _, rfl⟩ :=
    coherent.fires_cases fires
  · exact taken
  · have gone : ∀ other ∈ session.agenda.queue.erase task, other.action ≠ .startRollout key :=
      fun other left => action ▸ Agenda.action_ne_of_mem_erase coherent.distinct member left
    refine taken.wired stored broken gone (coherent.live_of_mem member) ?_ pods _
    have first := coherent.ahead task member
    simp only [Duration.le_def, now, Agenda.now_takeOut, Duration.nanos_max] at first ⊢
    omega

/-! ## A whole drain -/

theorem Coherent.settle (coherent : session.Coherent)
    (idle : session.agenda.popDue deadline = none) :
    Coherent { session with agenda := session.agenda.settle deadline } := by
  have beyond := Agenda.popDue_eq_none_iff.mp idle
  constructor
  · exact coherent.distinct
  · intro task member key action
    obtain ⟨present, broken, soon⟩ := coherent.start task member key action
    refine ⟨present, broken, ?_⟩
    simp only [now, Agenda.now_settle, Duration.nanos_max] at soon ⊢
    omega
  · intro task member key action
    obtain ⟨wired, soon⟩ := coherent.finish task member key action
    refine ⟨wired, ?_⟩
    simp only [now, Agenda.now_settle, Duration.nanos_max] at soon ⊢
    omega
  · intro task member
    have late := beyond task member
    have ahead := coherent.ahead task member
    simp only [Duration.le_def, Duration.lt_def, now, Agenda.now_settle,
      Duration.nanos_max] at late ahead ⊢
    omega
  · exact coherent.stopped

theorem Coherent.drains (coherent : session.Coherent) (drains : Drains deadline session lines after) :
    after.Coherent := by
  induction drains with
  | settled idle => exact coherent.settle idle
  | fired fires _ ih => exact ih (coherent.fires fires)

/-- A drain to a deadline that has not passed leaves no task due. -/
theorem Drains.settled_of_le (drains : Drains deadline session lines after)
    (future : session.now ≤ deadline) : after.Settled := by
  induction drains with
  | settled idle =>
    intro task member
    have late := Agenda.popDue_eq_none_iff.mp idle task member
    simp only [Duration.le_def, Duration.lt_def, now, Agenda.now_settle,
      Duration.nanos_max] at future late ⊢
    omega
  | fired fires _ ih =>
    apply ih
    have due := fires.popped.2
    simp only [fires.now_eq, Duration.le_def, Duration.nanos_max] at future due ⊢
    omega

/-! ## Moves and runs -/

/-- Between moves the queue agrees with the rest of the session and nothing is due. -/
structure AtRest (session : Session) : Prop where
  coherent : session.Coherent
  settled : session.Settled

theorem atRest_ofCluster (cluster : Cluster) : (ofCluster cluster).AtRest :=
  ⟨coherent_ofCluster cluster, settled_ofCluster cluster⟩

theorem isSettled_eq_false_iff {key : String} :
    session.isSettled key = false ↔
      session.cluster.isRemediated key = false ∧
        ∀ task ∈ session.agenda.queue, task.action ≠ .startRollout key := by
  simp [isSettled, Agenda.isPending]

theorem AtRest.edited (rest : session.AtRest) {key : String} {deployment : Deployment}
    {due : Duration} (stored : session.cluster.deployments.get? key = some deployment)
    (unsettled : session.isSettled key = false) (live : session.agenda.cancelled = false)
    (sum : session.now.add? rolloutStartDelay = some due) (count : UInt32) :
    AtRest { session with
      agenda := session.agenda.enqueue due (.startRollout key)
      commandsRun := count } := by
  obtain ⟨broken, fresh⟩ := isSettled_eq_false_iff.mp unsettled
  have total := Duration.add?_eq_some_iff.mp sum
  have soon : session.now < due := by
    simp only [Duration.lt_def, total, rolloutStartDelay]
    omega
  refine ⟨⟨rest.coherent.distinct_enqueue fresh due, ?_, ?_, ?_, ?_⟩, ?_⟩
  · intro task member name action
    rcases List.mem_append.mp member with waiting | single
    · exact rest.coherent.start task waiting name action
    · obtain rfl := List.mem_singleton.mp single
      cases action
      exact ⟨Catalog.mem_keys_iff.mpr ⟨deployment, stored⟩, broken, Nat.le_of_eq total⟩
  · intro task member name action
    rcases List.mem_append.mp member with waiting | single
    · exact rest.coherent.finish task waiting name action
    · obtain rfl := List.mem_singleton.mp single
      cases action
  · intro task member
    rcases List.mem_append.mp member with waiting | single
    · exact rest.coherent.ahead task waiting
    · obtain rfl := List.mem_singleton.mp single
      exact Nat.le_of_lt soon
  · intro cancelled
    rw [Agenda.cancelled_enqueue, live] at cancelled
    cases cancelled
  · intro task member
    rcases List.mem_append.mp member with waiting | single
    · exact rest.settled task waiting
    · obtain rfl := List.mem_singleton.mp single
      exact soon

/-- Whatever was due before, nothing is due once time has passed. -/
theorem settled_of_advance {elapsed : Duration}
    (advanced : session.advance elapsed = .ok (lines, after)) : after.Settled := by
  obtain ⟨deadline, sum, drained⟩ := advance_eq_ok_iff.mp advanced
  have total := Duration.add?_eq_some_iff.mp sum
  apply (drain_eq_ok_iff.mp drained).settled_of_le
  rw [Duration.le_def]
  omega

theorem AtRest.advance (rest : session.AtRest) {elapsed : Duration}
    (advanced : session.advance elapsed = .ok (lines, after)) : after.AtRest := by
  obtain ⟨deadline, _, drained⟩ := advance_eq_ok_iff.mp advanced
  exact ⟨rest.coherent.drains (drain_eq_ok_iff.mp drained), settled_of_advance advanced⟩

theorem atRest_shutdown (session : Session) : session.shutdown.AtRest := by
  refine ⟨?_, ?_⟩
  · constructor <;> simp [Session.shutdown, Agenda.cancelAll]
  · simp [Settled, Session.shutdown, Agenda.cancelAll]

theorem AtRest.move (rest : session.AtRest) {move : Move} {response : Response}
    (moved : session.move move = .ok (response, after)) : after.AtRest := by
  cases move with
  | execute line =>
    obtain ⟨count, rfl⟩ | ⟨key, deployment, due, count, _, stored, unsettled, live, sum, rfl⟩ :=
      execute_cases moved
    · exact ⟨⟨rest.coherent.distinct, rest.coherent.start, rest.coherent.finish,
        rest.coherent.ahead, rest.coherent.stopped⟩, rest.settled⟩
    · exact rest.edited stored unsettled live sum count
  | advance elapsed =>
    obtain ⟨lines, advanced, _⟩ := move_advance_eq_ok_iff.mp moved
    exact rest.advance advanced
  | shutdown =>
    cases moved
    exact atRest_shutdown session

variable {start : Cluster} {moves : List Move} {responses : List Response}

theorem atRest_of_play (played : (ofCluster start).play moves = .ok (responses, session)) :
    session.AtRest :=
  play_keeps AtRest (fun rest => rest.move) (atRest_ofCluster start) played

/-! ## How far ahead the queue reaches -/

/-- The time by which a task and what it leads to are over. -/
def horizon (task : Task) : Nat :=
  match task.action with
  | .startRollout _ => task.due.nanos + rolloutFinishDelay.nanos
  | .finishRollout _ => task.due.nanos

/-- No round reaches beyond the horizon of the queue that it starts from. -/
private theorem Coherent.horizon_fires (coherent : session.Coherent)
    (fires : Fires deadline session task lines after) {bound : Nat}
    (within : ∀ other ∈ session.agenda.queue, horizon other ≤ bound) :
    ∀ other ∈ after.agenda.queue, horizon other ≤ bound := by
  intro other waiting
  obtain ⟨key, _, _, rfl⟩ | ⟨key, _, pods, due, action, _, _, _, sum, _, rfl⟩ :=
    coherent.fires_cases fires
  · exact within other (List.mem_of_mem_erase waiting)
  · rcases List.mem_append.mp waiting with left | single
    · exact within other (List.mem_of_mem_erase left)
    · obtain rfl := List.mem_singleton.mp single
      have reached := within task (Agenda.earliest?_mem fires.popped.1)
      simp only [horizon, action] at reached ⊢
      omega

private theorem Coherent.horizon_drains (coherent : session.Coherent)
    (drains : Drains deadline session lines after) {bound : Nat}
    (within : ∀ task ∈ session.agenda.queue, horizon task ≤ bound) :
    ∀ task ∈ after.agenda.queue, horizon task ≤ bound := by
  induction drains with
  | settled idle => exact within
  | fired fires _ ih => exact ih (coherent.fires fires) (coherent.horizon_fires fires within)

theorem Coherent.horizon_le (coherent : session.Coherent) (member : task ∈ session.agenda.queue) :
    horizon task ≤ session.now.nanos + rolloutStartDelay.nanos + rolloutFinishDelay.nanos := by
  cases action : task.action with
  | startRollout key =>
    have soon := (coherent.start task member key action).2.2
    simp only [horizon, action]
    omega
  | finishRollout key =>
    have soon := (coherent.finish task member key action).2
    simp only [horizon, action]
    omega

/-- Three seconds are enough for everything that waits. -/
theorem AtRest.queue_eq_nil (rest : session.AtRest) {elapsed : Duration}
    (advanced : session.advance elapsed = .ok (lines, after))
    (long : rolloutStartDelay.nanos + rolloutFinishDelay.nanos ≤ elapsed.nanos) :
    after.agenda.queue = [] := by
  obtain ⟨deadline, _, drained⟩ := advance_eq_ok_iff.mp advanced
  have within := rest.coherent.horizon_drains (drain_eq_ok_iff.mp drained)
    fun task => rest.coherent.horizon_le
  have settled := (rest.advance advanced).settled
  have clock := now_advance advanced
  apply List.eq_nil_iff_forall_not_mem.mpr
  intro task waiting
  have late := settled task waiting
  have reached := within task waiting
  simp only [Duration.lt_def, horizon] at late reached
  split at reached <;> omega

/-! ## The queue after any run -/

/-- What waits between moves: at most one action for each deployment, a start only for one that is
there and broken, an end only for one that is wired, and each within its delay from now. -/
structure QueueInvariant (session : Session) : Prop where
  single : ∀ key, (session.agenda.queue.map (·.action)).count (.startRollout key) +
    (session.agenda.queue.map (·.action)).count (.finishRollout key) ≤ 1
  start : ∀ task ∈ session.agenda.queue, ∀ key, task.action = .startRollout key →
    key ∈ session.cluster.deployments.keys ∧ session.cluster.isRemediated key = false ∧
      session.now < task.due ∧ task.due.nanos ≤ session.now.nanos + 2000000000
  finish : ∀ task ∈ session.agenda.queue, ∀ key, task.action = .finishRollout key →
    session.cluster.isRemediated key = true ∧
      session.now < task.due ∧ task.due.nanos ≤ session.now.nanos + 1000000000

theorem AtRest.queueInvariant (rest : session.AtRest) : session.QueueInvariant where
  single key := by
    have starts := List.nodup_iff_count.mp rest.coherent.distinct (.startRollout key)
    have ends := List.nodup_iff_count.mp rest.coherent.distinct (.finishRollout key)
    by_cases waits : Action.startRollout key ∈ session.agenda.queue.map (·.action)
    · -- A start waits for a broken deployment and an end for a wired one.
      have absent : Action.finishRollout key ∉ session.agenda.queue.map (·.action) := by
        intro waitsToo
        obtain ⟨first, present, starts⟩ := List.mem_map.mp waits
        obtain ⟨second, presentToo, ends⟩ := List.mem_map.mp waitsToo
        have broken := (rest.coherent.start first present key starts).2.1
        have wired := (rest.coherent.finish second presentToo key ends).1
        rw [broken] at wired
        cases wired
      rw [List.count_eq_zero_of_not_mem absent]
      omega
    · rw [List.count_eq_zero_of_not_mem waits]
      omega
  start task member key action := by
    obtain ⟨present, broken, soon⟩ := rest.coherent.start task member key action
    exact ⟨present, broken, rest.settled task member, soon⟩
  finish task member key action := by
    obtain ⟨wired, soon⟩ := rest.coherent.finish task member key action
    exact ⟨wired, rest.settled task member, soon⟩

/-- One round of a drain, whatever it shows. -/
def Round (deadline : Duration) (session after : Session) : Prop :=
  ∃ task lines, Fires deadline session task lines after

theorem Coherent.rounds (coherent : session.Coherent)
    (rounds : Relation.ReflTransGen (Round deadline) session after) : after.Coherent := by
  induction rounds with
  | refl => exact coherent
  | tail _ round ih =>
    obtain ⟨task, lines, fires⟩ := round
    exact ih.fires fires

/-- Where a rollout is to start, the remediation is applied or a pod cannot count its restart. -/
theorem Coherent.remediate (coherent : session.Coherent) (member : task ∈ session.agenda.queue)
    {key : String} (action : task.action = .startRollout key) :
    session.cluster.remediate key = .error .counter ∨
      ∃ cluster, session.cluster.remediate key = .ok (.applied, cluster) := by
  obtain ⟨deployment, stored, broken, _⟩ := coherent.deployment_of_start member action
  rw [Cluster.remediate_of_not_isRemediated stored broken]
  cases recovered : Cluster.recoverPods key session.cluster.pods with
  | error failure =>
    obtain ⟨rfl, _⟩ := Cluster.recoverPods_eq_error_iff.mp recovered
    exact .inl rfl
  | ok pods => exact .inr ⟨_, rfl⟩

/-- After every run the queue agrees with the clock and the cluster. Every rollout that starts
while time passes is applied, no action that is due stays behind, the clock moves by just the time
that passes, and three seconds leave nothing waiting. -/
theorem queue_of_play (played : (ofCluster start).play moves = .ok (responses, session)) :
    session.QueueInvariant ∧
      (∀ elapsed deadline, session.now.add? elapsed = some deadline →
        ∀ middle, Relation.ReflTransGen (Round deadline) session middle →
          ∀ task agenda key, middle.agenda.popDue deadline = some (task, agenda) →
            task.action = .startRollout key →
            middle.cluster.remediate key = .error .counter ∨
              ∃ cluster, middle.cluster.remediate key = .ok (.applied, cluster)) ∧
      ∀ elapsed lines after, session.advance elapsed = .ok (lines, after) →
        (∀ task ∈ after.agenda.queue, after.now < task.due) ∧
          after.now.nanos = session.now.nanos + elapsed.nanos ∧
          (3000000000 ≤ elapsed.nanos → after.hasPendingWork = false) := by
  have rest := atRest_of_play played
  refine ⟨rest.queueInvariant, ?_, ?_⟩
  · intro elapsed deadline _ middle rounds task agenda key popped action
    exact (rest.coherent.rounds rounds).remediate (Agenda.popDue_mem popped).1 action
  · intro elapsed lines after advanced
    refine ⟨(rest.advance advanced).settled, now_advance advanced, fun long => ?_⟩
    simp [hasPendingWork, Agenda.pending, rest.queue_eq_nil advanced long]

/-- Half a second after a rollout has started, its end waits and nothing else does. -/
theorem queue_of_play_scenario : ∃ responses session,
    (ofCluster .scenario).play
        [.execute "kubectl edit deployment auth-service", .advance (.ofMillis 2500),
          .execute "kubectl edit deployment auth-service"] = .ok (responses, session) ∧
      session.agenda.queue.map (·.action) = [.finishRollout authService] ∧
      session.QueueInvariant := by
  obtain ⟨responses, session, played, waits⟩ := exists_of_map_play
    (show ((ofCluster .scenario).play
        [.execute "kubectl edit deployment auth-service", .advance (.ofMillis 2500),
          .execute "kubectl edit deployment auth-service"]).map
        (fun run => run.2.agenda.queue.map (·.action)) = .ok [.finishRollout authService] by
      decide +kernel)
  exact ⟨responses, session, played, waits, (queue_of_play played).1⟩

end KubeSim.Session
