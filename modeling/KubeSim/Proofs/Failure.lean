import KubeSim.Proofs.Queue
import KubeSim.Proofs.Tally

/-! # When a step fails

A failure can be told before the step. A line fails when it is an edit whose rollout would start
beyond the range of the clock. Time that passes fails when its sum leaves that range, or when one of
the rollouts that start meanwhile cannot schedule its end or cannot count the restart of a pod.

The rollouts of one drain share their pods, since one name can begin with several keys. So
`Agenda.restartsBy` counts ahead how often a pod comes up by a deadline. Each round of a drain moves
one restart from this number to the counter of the pod and leaves their sum as it is. Hence
`Session.HasRoom` holds before a round exactly if it holds after it, and a drain ends well exactly
if it holds at the start.
-/

namespace KubeSim

/-- What related elements have in common, all elements of related lists have in common. -/
private theorem forall_mem_iff_of_forall₂ {α β : Type} {R : α → β → Prop} {P : α → Prop}
    {Q : β → Prop}
    (same : ∀ {a b}, R a b → (P a ↔ Q b)) {before : List α} {after : List β}
    (related : List.Forall₂ R before after) : (∀ a ∈ before, P a) ↔ ∀ b ∈ after, Q b := by
  induction related with
  | nil => simp
  | cons head _ ih => simp only [List.forall_mem_cons, same head, ih]

/-- Whether the task starts a rollout that restarts the pods of this name. -/
def Task.restarts (task : Task) (pod : String) : Bool :=
  match task.action with
  | .startRollout key => Text.startsWith pod key
  | .finishRollout _ => false

/-- Whether the task, if it starts a rollout by the deadline, can schedule the end. -/
def Task.EndFits (deadline : Duration) (task : Task) : Prop :=
  ∀ key, task.action = .startRollout key → task.due ≤ deadline →
    task.due.nanos + rolloutFinishDelay.nanos < Duration.capacity

namespace Agenda

/-- How many of the waiting rollouts start by a time and restart the pods of this name. -/
def restartsBy (agenda : Agenda) (nanos : Nat) (pod : String) : Nat :=
  agenda.queue.countP fun task => task.restarts pod ∧ task.due.nanos ≤ nanos

theorem restartsBy_takeOut {agenda : Agenda} {task : Task} {nanos : Nat}
    (member : task ∈ agenda.queue) (due : task.due.nanos ≤ nanos) (pod : String) :
    agenda.restartsBy nanos pod =
      (agenda.takeOut task).restartsBy nanos pod + if task.restarts pod then 1 else 0 := by
  rw [restartsBy, (List.perm_cons_erase member).countP_eq, List.countP_cons]
  simp only [due, and_true, decide_eq_true_eq]
  rfl

@[simp] theorem restartsBy_enqueue_finishRollout (agenda : Agenda) (due : Duration) (key : String)
    (nanos : Nat) (pod : String) :
    (agenda.enqueue due (.finishRollout key)).restartsBy nanos pod =
      agenda.restartsBy nanos pod := by
  simp [restartsBy, Task.restarts]

private theorem restartsBy_of_idle {agenda : Agenda} {deadline : Duration}
    (idle : agenda.popDue deadline = none) (pod : String) :
    agenda.restartsBy deadline.nanos pod = 0 := by
  refine List.countP_eq_zero.mpr fun task member => ?_
  have late := popDue_eq_none_iff.mp idle task member
  rw [Duration.lt_def] at late
  simp only [decide_eq_true_eq, not_and]
  omega

end Agenda

namespace Session

variable {session after : Session} {deadline : Duration} {task : Task} {lines : List String}

/-! ## Time that passes -/

/-- Every rollout that starts by the deadline can schedule its end, and every pod can count all its
restarts. -/
structure HasRoom (session : Session) (deadline : Duration) : Prop where
  ends : ∀ task ∈ session.agenda.queue, task.EndFits deadline
  restarts : ∀ pod ∈ session.cluster.pods,
    pod.restarts.toNat + session.agenda.restartsBy deadline.nanos pod.name < UInt32.size

private theorem hasRoom_of_idle (idle : session.agenda.popDue deadline = none) :
    session.HasRoom deadline := by
  constructor
  · intro task member key _ due
    have late := Agenda.popDue_eq_none_iff.mp idle task member
    rw [Duration.le_def] at due
    rw [Duration.lt_def] at late
    omega
  · intro pod _
    rw [Agenda.restartsBy_of_idle idle]
    exact pod.restarts.toNat_lt_size

/-- What a round trades: its task goes, and with it one restart of each of its pods is no longer
ahead but counted. -/
structure Trades (deadline : Duration) (task : Task) (session after : Session) : Prop where
  fits : task.EndFits deadline
  ends : (∀ other ∈ session.agenda.queue.erase task, other.EndFits deadline) ↔
    ∀ other ∈ after.agenda.queue, other.EndFits deadline
  ahead : ∀ pod, session.agenda.restartsBy deadline.nanos pod =
    after.agenda.restartsBy deadline.nanos pod + if task.restarts pod then 1 else 0
  restarted : List.Forall₂
    (fun pod => Pod.Restarted (if task.restarts pod.name then 1 else 0) pod)
    session.cluster.pods after.cluster.pods

theorem Coherent.trades (coherent : session.Coherent)
    (fires : Fires deadline session task lines after) : Trades deadline task session after := by
  obtain ⟨found, due⟩ := fires.popped
  have ahead := Agenda.restartsBy_takeOut (Agenda.earliest?_mem found) (Duration.le_def.mp due)
  obtain ⟨key, action, _, rfl⟩ | ⟨key, _, pods, last, action, _, _, recovered, sum, _, rfl⟩ :=
    coherent.fires_cases fires
  · refine ⟨?_, Iff.rfl, ahead, ?_⟩
    · simp [Task.EndFits, action]
    · simp [Task.restarts, action, List.forall₂_same, Pod.restarted_zero_iff]
  · refine ⟨fun _ _ _ => sum ▸ last.nanos_lt, ?_, ?_, ?_⟩
    · simp [Task.EndFits, or_imp, forall_and]
    · simpa using ahead
    · simp only [Task.restarts, action]
      exact Cluster.recoverPods_eq_ok_iff.mp recovered

/-- A round neither makes room nor takes any. -/
theorem Trades.hasRoom_iff (trades : Trades deadline task session after)
    (member : task ∈ session.agenda.queue) :
    session.HasRoom deadline ↔ after.HasRoom deadline := by
  have ends : (∀ other ∈ session.agenda.queue, other.EndFits deadline) ↔
      ∀ other ∈ after.agenda.queue, other.EndFits deadline := by
    simp only [(List.perm_cons_erase member).mem_iff, List.forall_mem_cons, trades.fits, true_and,
      trades.ends]
  have restarts : (∀ pod ∈ session.cluster.pods,
      pod.restarts.toNat + session.agenda.restartsBy deadline.nanos pod.name < UInt32.size) ↔
      ∀ pod ∈ after.cluster.pods,
        pod.restarts.toNat + after.agenda.restartsBy deadline.nanos pod.name < UInt32.size := by
    refine forall_mem_iff_of_forall₂ (fun {before _} restarted => ?_) trades.restarted
    rw [restarted.restarts, restarted.name_eq, trades.ahead before.name]
    omega
  exact ⟨fun room => ⟨ends.mp room.ends, restarts.mp room.restarts⟩,
    fun room => ⟨ends.mpr room.ends, restarts.mpr room.restarts⟩⟩

/-- Where there is room, an action that came due is carried out. -/
private theorem Coherent.exists_fires (coherent : session.Coherent) {agenda : Agenda}
    (popped : session.agenda.popDue deadline = some (task, agenda))
    (room : session.HasRoom deadline) : ∃ lines after, Fires deadline session task lines after := by
  obtain ⟨member, due⟩ := Agenda.popDue_mem popped
  obtain ⟨_, _, rfl⟩ := Agenda.popDue_eq_some_iff_earliest?.mp popped
  cases action : task.action with
  | finishRollout key => exact ⟨_, _, _, popped, by rw [action]; rfl⟩
  | startRollout key =>
    obtain ⟨deployment, stored, broken, live⟩ := coherent.deployment_of_start member action
    have fits := room.ends task member key action due
    have ahead := coherent.ahead task member
    rw [Duration.le_def] at ahead
    cases recovered : Cluster.recoverPods key session.cluster.pods with
    | error failure =>
      obtain ⟨_, pod, inside, matched, full⟩ := Cluster.recoverPods_eq_error_iff.mp recovered
      have counted := room.restarts pod inside
      rw [Agenda.restartsBy_takeOut member (Duration.le_def.mp due)] at counted
      simp only [Task.restarts, action, matched, ↓reduceIte] at counted
      omega
    | ok pods =>
      have last : (⟨_, fits⟩ : Duration).nanos =
          (max session.now task.due).nanos + rolloutFinishDelay.nanos := by
        rw [Duration.nanos_max, Nat.max_eq_right ahead]
      obtain ⟨lines, after, performed⟩ : ∃ lines after,
          ({ session with agenda := session.agenda.takeOut task } : Session).perform
            (.startRollout key) = .ok (lines, after) :=
        ⟨_, _, (perform_startRollout_eq_ok_iff (by exact stored) (by exact broken)
          (by exact live)).mpr ⟨pods, _, recovered, last, rfl, rfl⟩⟩
      rw [← action] at performed
      exact ⟨lines, after, _, popped, performed⟩

/-- A drain ends well exactly if there is room for all of it when it starts. -/
theorem Coherent.exists_drain_iff (coherent : session.Coherent) :
    (∃ result, session.drain deadline = .ok result) ↔ session.HasRoom deadline := by
  constructor
  · rintro ⟨⟨lines, last⟩, drained⟩
    have drains := drain_eq_ok_iff.mp drained
    clear drained
    induction drains with
    | settled idle => exact hasRoom_of_idle idle
    | fired fires _ ih =>
      have member := Agenda.earliest?_mem fires.popped.1
      exact ((coherent.trades fires).hasRoom_iff member).mpr (ih (coherent.fires fires))
  · intro room
    -- A round goes well where there is room, and leaves room for the rest: nothing can fail.
    fun_induction drain session deadline with
    | case1 session idle => exact ⟨_, rfl⟩
    | case2 session task agenda popped failure failed =>
      obtain ⟨lines, after, _, same, performed⟩ := coherent.exists_fires popped room
      rw [popped] at same
      cases same
      rw [failed] at performed
      cases performed
    | case3 session task agenda popped lines after performed _ failure failed ih =>
      have fires : Fires deadline session task lines after := ⟨agenda, popped, performed⟩
      have member := Agenda.earliest?_mem fires.popped.1
      obtain ⟨result, drained⟩ := ih (coherent.fires fires)
        (((coherent.trades fires).hasRoom_iff member).mp room)
      rw [failed] at drained
      cases drained
    | case4 => exact ⟨_, rfl⟩

/-- Time cannot pass: the clock has no room for it, a rollout that starts meanwhile has no room for
its end, or a pod has none for all its restarts. -/
def AdvanceOverflows (session : Session) (elapsed : Duration) : Prop :=
  Duration.capacity ≤ session.now.nanos + elapsed.nanos ∨
    (∃ task ∈ session.agenda.queue, ∃ key, task.action = .startRollout key ∧
      task.due.nanos ≤ session.now.nanos + elapsed.nanos ∧
      Duration.capacity ≤ task.due.nanos + 1000000000) ∨
    ∃ pod ∈ session.cluster.pods, UInt32.size ≤ pod.restarts.toNat +
      session.agenda.restartsBy (session.now.nanos + elapsed.nanos) pod.name

theorem hasRoom_iff {elapsed : Duration} (sum : session.now.add? elapsed = some deadline) :
    session.HasRoom deadline ↔ ¬session.AdvanceOverflows elapsed := by
  have total := Duration.add?_eq_some_iff.mp sum
  have bound := total ▸ deadline.nanos_lt
  constructor
  · rintro ⟨ends, restarts⟩ (late | ⟨task, member, key, action, due, late⟩ | ⟨pod, member, full⟩)
    · omega
    · have fits := ends task member key action (by rwa [Duration.le_def, total])
      exact absurd fits (Nat.not_lt.mpr late)
    · have room := restarts pod member
      rw [total] at room
      omega
  · intro fits
    constructor
    · intro task member key action due
      by_contra late
      rw [Duration.le_def, total] at due
      exact fits (.inr (.inl ⟨task, member, key, action, due, Nat.not_lt.mp late⟩))
    · intro pod member
      by_contra full
      rw [total] at full
      exact fits (.inr (.inr ⟨pod, member, Nat.not_lt.mp full⟩))

theorem Coherent.exists_advance_iff (coherent : session.Coherent) (elapsed : Duration) :
    (∃ result, session.advance elapsed = .ok result) ↔ ¬session.AdvanceOverflows elapsed := by
  unfold advance
  cases sum : session.now.add? elapsed with
  | none =>
    have late := Duration.add?_eq_none_iff.mp sum
    simp [AdvanceOverflows, late]
  | some deadline => exact coherent.exists_drain_iff.trans (hasRoom_iff sum)

/-! ## Lines -/

/-- The line is an edit whose rollout would start beyond the range of the clock. -/
def EditOverflows (session : Session) (line : String) : Prop :=
  ∃ key, Command.parse line = .editDeployment key ∧ key ∈ session.cluster.deployments.keys ∧
    session.cluster.isRemediated key = false ∧
    session.agenda.isPending (.startRollout key) = false ∧
    Duration.capacity ≤ session.now.nanos + 2000000000

theorem edit_eq_error_iff {key : String} {failure : Overflow} :
    session.edit key = .error failure ↔
      key ∈ session.cluster.deployments.keys ∧ session.isSettled key = false ∧
        failure = .clock ∧ session.agenda.cancelled = false ∧
        Duration.capacity ≤ session.now.nanos + rolloutStartDelay.nanos := by
  unfold edit
  rw [Catalog.mem_keys_iff]
  cases session.cluster.deployments.get? key with
  | none => simp
  | some deployment =>
    cases session.isSettled key <;>
      simp [bind_eq_error_iff, pure, Except.pure, Agenda.schedule_eq_error_iff, now]

theorem run_eq_error_iff {command : Command} {failure : Overflow} :
    session.run command = .error failure ↔
      ∃ key, command = .editDeployment key ∧ session.edit key = .error failure := by
  cases command <;> simp [run]

/-- A line fails only as an edit, and only while the session takes on rollouts. -/
theorem execute_eq_error_iff {line : String} {failure : Overflow}
    (few : session.commandsRun.toNat + 1 < UInt32.size) :
    session.execute line = .error failure ↔
      failure = .clock ∧ session.agenda.cancelled = false ∧ session.EditOverflows line := by
  have counted : Counter.next session.commandsRun = .ok (session.commandsRun + 1) := if_pos few
  have failed : session.execute line = .error failure ↔ Text.trim line ≠ "" ∧
      ∃ key, Command.parse line = .editDeployment key ∧
        ({ session with commandsRun := session.commandsRun + 1 } : Session).edit key =
          .error failure := by
    unfold execute
    by_cases blank : Text.trim line = ""
    · simp [blank]
    · simp [blank, bind_eq_error_iff, counted, run_eq_error_iff]
  rw [failed]
  constructor
  · rintro ⟨_, key, parsed, refused⟩
    obtain ⟨present, unsettled, late, live, full⟩ := edit_eq_error_iff.mp refused
    obtain ⟨broken, idle⟩ := Bool.or_eq_false_iff.mp unsettled
    exact ⟨late, live, key, parsed, present, broken, idle, full⟩
  · rintro ⟨late, live, key, parsed, present, broken, idle, full⟩
    refine ⟨Command.trim_ne_empty_of_parse_editDeployment parsed, key, parsed, ?_⟩
    exact edit_eq_error_iff.mpr
      ⟨present, Bool.or_eq_false_iff.mpr ⟨broken, idle⟩, late, live, full⟩

variable {start : Cluster} {moves : List Move} {responses : List Response}

/-- After a run a line fails exactly as an edit, before any shutdown, whose rollout would start
beyond the range of the clock. Time that passes fails exactly if its sum leaves that range, a rollout
that starts meanwhile cannot schedule its end, or the restarts ahead are too many for a pod. -/
theorem fails_iff_of_play (played : (ofCluster start).play moves = .ok (responses, session))
    (few : commandCount moves + 1 < UInt32.size) :
    (∀ line,
      ((∃ failure, session.execute line = .error failure) ↔
        .shutdown ∉ moves ∧ session.EditOverflows line) ∧
      ((∃ result, session.execute line = .ok result) ↔
        ¬(.shutdown ∉ moves ∧ session.EditOverflows line))) ∧
    ∀ elapsed,
      ((∃ failure, session.advance elapsed = .error failure) ↔ session.AdvanceOverflows elapsed) ∧
      ((∃ result, session.advance elapsed = .ok result) ↔ ¬session.AdvanceOverflows elapsed) := by
  have counted := commandsRun_of_play played
  have live : session.agenda.cancelled = false ↔ .shutdown ∉ moves := by
    rw [← Bool.not_eq_true, cancelled_of_play played]
  constructor
  · intro line
    have failed : (∃ failure, session.execute line = .error failure) ↔
        .shutdown ∉ moves ∧ session.EditOverflows line := by
      simp only [execute_eq_error_iff (counted ▸ few), live, exists_eq_left]
    exact ⟨failed, by rw [← failed, exists_error_iff, not_not]⟩
  · intro elapsed
    have succeeded := (atRest_of_play played).coherent.exists_advance_iff elapsed
    exact ⟨by rw [exists_error_iff, succeeded, not_not], succeeded⟩

/-- A cluster in which two deployments restart one pod, which can count one restart more. -/
def lastRestart : Cluster :=
  .ofResources [.crashLooping "api-gateway-0" "10.0.0.1" 4294967294 []] []
    [.new "api" 1, .new "api-gateway" 1]

/-- The second of two rollouts finds no room for its restart, and an edit in the last moment of the
clock has no room for its rollout. -/
theorem fails_iff_of_play_lastRestart :
    (∃ responses session, (ofCluster lastRestart).play
          [.execute "kubectl edit deployment api", .execute "kubectl edit deployment api-gateway"] =
        .ok (responses, session) ∧
      (∃ result, session.execute "help" = .ok result) ∧
      ∃ failure, session.advance (.ofMillis 2000) = .error failure) ∧
    ∃ responses session, (ofCluster lastRestart).play
          [.advance ⟨Duration.capacity - 1, by decide⟩] = .ok (responses, session) ∧
      ∃ failure, session.execute "kubectl edit deployment api" = .error failure := by
  constructor
  · obtain ⟨responses, session, played, full⟩ := exists_of_map_play
      (show ((ofCluster lastRestart).play
          [.execute "kubectl edit deployment api", .execute "kubectl edit deployment api-gateway"]).map
          (fun run => decide (∃ pod ∈ run.2.cluster.pods, UInt32.size ≤ pod.restarts.toNat +
            run.2.agenda.restartsBy (run.2.now.nanos + 2000000000) pod.name)) = .ok true by
        decide +kernel)
    obtain ⟨lines, time⟩ := fails_iff_of_play played (by decide +kernel)
    refine ⟨responses, session, played, (lines "help").2.mpr ?_, (time _).1.mpr (.inr (.inr ?_))⟩
    · rintro ⟨_, key, parsed, _⟩
      cases (show Command.parse "help" = .help by decide +kernel).symm.trans parsed
    · exact of_decide_eq_true full
  · obtain ⟨responses, session, played, observed⟩ := exists_of_map_play
      (show ((ofCluster lastRestart).play [.advance ⟨Duration.capacity - 1, by decide⟩]).map
          (fun run => decide ("api" ∈ run.2.cluster.deployments.keys ∧
            run.2.cluster.isRemediated "api" = false ∧
            run.2.agenda.isPending (.startRollout "api") = false ∧
            Duration.capacity ≤ run.2.now.nanos + 2000000000)) = .ok true by decide +kernel)
    obtain ⟨lines, _⟩ := fails_iff_of_play played (by decide +kernel)
    refine ⟨responses, session, played, (lines _).1.mpr ⟨by decide, "api", ?_, ?_⟩⟩
    · decide +kernel
    · exact of_decide_eq_true observed

end Session

end KubeSim
