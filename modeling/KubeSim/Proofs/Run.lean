import KubeSim.Proofs.Agenda
import KubeSim.Proofs.Remediation
import KubeSim.Session

/-! # Runs of a session

A `Move` is what is done to a session from outside, and `Session.play` makes a list of moves. A
move that lets time pass is itself a run of rounds: `Session.Fires` is one round, in which the
earliest due action is carried out, and `Session.Drains` is a whole drain that ends well.

The inversion lemmas say once what each step can do. A command changes at most the counter and,
when it is an edit with something to change, the end of the queue; a round takes one task out and,
when that starts a rollout, wires the deployment and queues the end of the rollout.
-/

namespace KubeSim

/-- What is done to a session from outside. -/
inductive Move where
  | execute (line : String)
  | advance (elapsed : Duration)
  | shutdown
deriving DecidableEq

namespace Session

/-- Makes a move. The lines of the actions that come due are shown like those of a command. -/
def move (session : Session) : Move → Except Overflow (Response × Session)
  | .execute line => session.execute line
  | .advance elapsed => do
    let (lines, after) ← session.advance elapsed
    return (.ofLines lines, after)
  | .shutdown => .ok (.silent, session.shutdown)

def play (session : Session) : List Move → Except Overflow (List Response × Session)
  | [] => .ok ([], session)
  | first :: rest => do
    let (response, middle) ← session.move first
    let (responses, last) ← middle.play rest
    return (response :: responses, last)

theorem play_cons_eq_ok_iff {session last : Session} {first : Move} {rest : List Move}
    {responses : List Response} :
    session.play (first :: rest) = .ok (responses, last) ↔
      ∃ response middle others, session.move first = .ok (response, middle) ∧
        middle.play rest = .ok (others, last) ∧ responses = response :: others := by
  simp only [play, bind_eq_ok_iff, pure, Except.pure, Except.ok.injEq, Prod.mk.injEq, Prod.exists]
  constructor
  · rintro ⟨response, middle, moved, others, _, played, rfl, rfl⟩
    exact ⟨response, middle, others, moved, played, rfl⟩
  · rintro ⟨response, middle, others, moved, played, rfl⟩
    exact ⟨response, middle, moved, others, last, played, rfl, rfl⟩

/-- A run may stop on the way. -/
theorem play_append (session : Session) (first second : List Move) :
    session.play (first ++ second) = do
      let (responses, middle) ← session.play first
      let (others, last) ← middle.play second
      return (responses ++ others, last) := by
  induction first generalizing session with
  | nil =>
    simp only [List.nil_append, play, bind, Except.bind]
    cases session.play second <;> rfl
  | cons move rest ih =>
    simp only [List.cons_append, play, ih, bind, Except.bind, pure, Except.pure]
    cases session.move move with
    | error failure => rfl
    | ok step =>
      simp only
      cases step.2.play rest with
      | error failure => rfl
      | ok run =>
        simp only
        cases run.2.play second <;> rfl

/-- What every move keeps, a whole run keeps. -/
theorem play_keeps (Holds : Session → Prop)
    (kept : ∀ {session after : Session} {move : Move} {response : Response}, Holds session →
      session.move move = .ok (response, after) → Holds after)
    {session last : Session} {moves : List Move} {responses : List Response}
    (holds : Holds session) (played : session.play moves = .ok (responses, last)) :
    Holds last := by
  induction moves generalizing session responses with
  | nil =>
    cases played
    exact holds
  | cons first rest ih =>
    obtain ⟨_, middle, _, moved, played, _⟩ := play_cons_eq_ok_iff.mp played
    exact ih (kept holds moved) played

/-- A run of which something can be observed has succeeded. -/
theorem exists_of_map_play {α : Type} {session : Session} {moves : List Move}
    {observe : List Response × Session → α} {value : α}
    (observed : (session.play moves).map observe = .ok value) :
    ∃ responses last, session.play moves = .ok (responses, last) ∧
      observe (responses, last) = value := by
  obtain ⟨⟨responses, last⟩, played, same⟩ := map_eq_ok_iff.mp observed
  exact ⟨responses, last, played, same⟩

theorem advance_eq_ok_iff {session after : Session} {elapsed : Duration} {lines : List String} :
    session.advance elapsed = .ok (lines, after) ↔
      ∃ deadline, session.now.add? elapsed = some deadline ∧
        session.drain deadline = .ok (lines, after) := by
  unfold advance
  cases session.now.add? elapsed <;> simp

theorem move_advance_eq_ok_iff {session after : Session} {elapsed : Duration}
    {response : Response} :
    session.move (.advance elapsed) = .ok (response, after) ↔
      ∃ lines, session.advance elapsed = .ok (lines, after) ∧ response = .ofLines lines := by
  simp only [move, bind_eq_ok_iff, pure, Except.pure, Except.ok.injEq, Prod.mk.injEq, Prod.exists]
  constructor
  · rintro ⟨lines, _, advanced, rfl, rfl⟩
    exact ⟨lines, advanced, rfl⟩
  · rintro ⟨lines, advanced, rfl⟩
    exact ⟨lines, after, advanced, rfl, rfl⟩

/-! ## Commands -/

/-- An edit of a known deployment shows its manifest, and schedules the rollout if the edit has
something to change. -/
theorem edit_eq_ok_iff {session after : Session} {key : String} {deployment : Deployment}
    {response : Response} (stored : session.cluster.deployments.get? key = some deployment) :
    session.edit key = .ok (response, after) ↔
      session.isSettled key = true ∧
          response = .ofLines (deploymentManifest key ++ [editCancelled]) ∧ after = session ∨
        session.isSettled key = false ∧
          response = .ofLines (deploymentManifest key ++ ["", editAccepted]) ∧
          ∃ accepted agenda,
            session.agenda.schedule rolloutStartDelay (.startRollout key) = .ok (accepted, agenda) ∧
            after = { session with agenda } := by
  unfold edit
  simp only [stored]
  cases session.isSettled key with
  | true => simp [eq_comm]
  | false =>
    simp only [Bool.false_eq_true, ↓reduceIte, bind_eq_ok_iff, pure, Except.pure, Except.ok.injEq,
      Prod.mk.injEq, Prod.exists, false_and, true_and, false_or]
    constructor
    · rintro ⟨accepted, agenda, scheduled, rfl, rfl⟩
      exact ⟨rfl, accepted, agenda, scheduled, rfl⟩
    · rintro ⟨rfl, accepted, agenda, scheduled, rfl⟩
      exact ⟨accepted, agenda, scheduled, rfl, rfl⟩

theorem execute_eq_ok_iff {session after : Session} {line : String} {response : Response} :
    session.execute line = .ok (response, after) ↔
      Text.trim line = "" ∧ response = .silent ∧ after = session ∨
        Text.trim line ≠ "" ∧ ∃ count, Counter.next session.commandsRun = .ok count ∧
          { session with commandsRun := count }.run (Command.parse line) = .ok (response, after) := by
  unfold execute
  by_cases blank : Text.trim line = ""
  · simp [blank, eq_comm]
  · simp only [blank, ↓reduceIte, bind_eq_ok_iff, false_and, ne_eq, not_false_eq_true, true_and,
      false_or]

/-- A line that edits a known deployment is counted and answered like the edit. -/
theorem execute_editDeployment {session after : Session} {line key : String}
    {deployment : Deployment} {response : Response}
    (parsed : Command.parse line = .editDeployment key) (filled : Text.trim line ≠ "")
    (stored : session.cluster.deployments.get? key = some deployment)
    (executed : session.execute line = .ok (response, after)) :
    ∃ count,
      session.isSettled key = true ∧
          response = .ofLines (deploymentManifest key ++ [editCancelled]) ∧
          after = { session with commandsRun := count } ∨
        session.isSettled key = false ∧
          response = .ofLines (deploymentManifest key ++ ["", editAccepted]) ∧
          ∃ accepted agenda,
            session.agenda.schedule rolloutStartDelay (.startRollout key) = .ok (accepted, agenda) ∧
            after = { session with agenda, commandsRun := count } := by
  obtain ⟨blank, _⟩ | ⟨_, count, _, ran⟩ := execute_eq_ok_iff.mp executed
  · exact absurd blank filled
  · rw [parsed] at ran
    have counted : { session with commandsRun := count }.cluster.deployments.get? key =
        some deployment := stored
    exact ⟨count, (edit_eq_ok_iff counted).mp ran⟩

/-- A command changes at most the counter and, when it is an edit with something to change, the
end of the queue. -/
theorem execute_cases {session after : Session} {line : String} {response : Response}
    (executed : session.execute line = .ok (response, after)) :
    (∃ count, after = { session with commandsRun := count }) ∨
      ∃ key deployment due count, Command.parse line = .editDeployment key ∧
        session.cluster.deployments.get? key = some deployment ∧
        session.isSettled key = false ∧ session.agenda.cancelled = false ∧
        session.now.add? rolloutStartDelay = some due ∧
        after = { session with
          agenda := session.agenda.enqueue due (.startRollout key)
          commandsRun := count } := by
  obtain ⟨_, _, rfl⟩ | ⟨filled, count, _, ran⟩ := execute_eq_ok_iff.mp executed
  · exact .inl ⟨after.commandsRun, rfl⟩
  · cases parsed : Command.parse line with
    | editDeployment key =>
      cases search : session.cluster.deployments.get? key with
      | none =>
        rw [parsed] at ran
        change ({ session with commandsRun := count } : Session).edit key = _ at ran
        simp only [edit, search, Except.ok.injEq, Prod.mk.injEq] at ran
        exact .inl ⟨count, ran.2.symm⟩
      | some deployment =>
        obtain ⟨count, ⟨_, _, rfl⟩ | ⟨unsettled, _, accepted, agenda, scheduled, rfl⟩⟩ :=
          execute_editDeployment parsed filled search executed
        · exact .inl ⟨count, rfl⟩
        · obtain ⟨_, _, rfl⟩ | ⟨live, _, due, sum, rfl⟩ := Agenda.schedule_eq_ok_iff.mp scheduled
          · exact .inl ⟨count, rfl⟩
          · exact .inr ⟨key, deployment, due, count, rfl, search, unsettled, live, sum, rfl⟩
    | _ =>
      rw [parsed] at ran
      cases ran
      exact .inl ⟨count, rfl⟩

/-! ## Rounds of a drain -/

theorem drain_of_idle {session : Session} {deadline : Duration}
    (idle : session.agenda.popDue deadline = none) :
    session.drain deadline =
      .ok ([], { session with agenda := session.agenda.settle deadline }) := by
  rw [drain]
  split
  · rfl
  · next popped =>
    rw [idle] at popped
    cases popped

/-- Shows the lines of one step and then those of the next, which starts where the first ends. -/
def andThen (first : Except Overflow (List String × Session))
    (second : Session → Except Overflow (List String × Session)) :
    Except Overflow (List String × Session) := do
  let (lines, middle) ← first
  let (others, last) ← second middle
  return (lines ++ others, last)

@[simp] theorem andThen_error (failure : Overflow)
    (second : Session → Except Overflow (List String × Session)) :
    andThen (.error failure) second = .error failure := rfl

@[simp] theorem andThen_ok_nil (middle : Session)
    (second : Session → Except Overflow (List String × Session)) :
    andThen (.ok ([], middle)) second = second middle := by
  simp only [andThen, bind, Except.bind, List.nil_append]
  cases second middle <;> rfl

theorem andThen_assoc (first : Except Overflow (List String × Session))
    (second third : Session → Except Overflow (List String × Session)) :
    andThen (andThen first second) third =
      andThen first fun middle => andThen (second middle) third := by
  cases first with
  | error failure => rfl
  | ok run =>
    obtain ⟨lines, middle⟩ := run
    simp only [andThen, bind, Except.bind, pure, Except.pure]
    cases second middle with
    | error failure => rfl
    | ok next =>
      obtain ⟨others, last⟩ := next
      simp only
      cases third last <;> simp [List.append_assoc]

theorem andThen_congr {first : Except Overflow (List String × Session)}
    {second third : Session → Except Overflow (List String × Session)}
    (same : ∀ lines middle, first = .ok (lines, middle) → second middle = third middle) :
    andThen first second = andThen first third := by
  cases first with
  | error failure => rfl
  | ok run => simp only [andThen, bind, Except.bind, same run.1 run.2 rfl]

theorem drain_of_due {session : Session} {deadline : Duration} {task : Task} {agenda : Agenda}
    (due : session.agenda.popDue deadline = some (task, agenda)) :
    session.drain deadline =
      andThen ({ session with agenda }.perform task.action) (·.drain deadline) := by
  rw [drain]
  split
  · next idle =>
    rw [due] at idle
    cases idle
  · next popped =>
    rw [due] at popped
    cases popped
    split
    · next failed =>
      rw [failed]
      rfl
    · next performed =>
      simp only [performed, andThen, bind, Except.bind, pure, Except.pure]
      split
      · next failed => rw [failed]
      · next drained => rw [drained]

/-- One round of a drain: the earliest task is due and its action is carried out. -/
def Fires (deadline : Duration) (session : Session) (task : Task) (lines : List String)
    (after : Session) : Prop :=
  ∃ agenda, session.agenda.popDue deadline = some (task, agenda) ∧
    { session with agenda }.perform task.action = .ok (lines, after)

/-- A drain that ends well: rounds as long as a task is due, and then the clock moves on. -/
inductive Drains (deadline : Duration) : Session → List String → Session → Prop
  | settled {session : Session} (idle : session.agenda.popDue deadline = none) :
      Drains deadline session [] { session with agenda := session.agenda.settle deadline }
  | fired {session middle last : Session} {task : Task} {lines others : List String}
      (fires : Fires deadline session task lines middle)
      (rest : Drains deadline middle others last) :
      Drains deadline session (lines ++ others) last

theorem drain_eq_ok_iff {deadline : Duration} {session last : Session} {lines : List String} :
    session.drain deadline = .ok (lines, last) ↔ Drains deadline session lines last := by
  constructor
  · intro drained
    fun_induction drain session deadline generalizing lines last with
    | case1 session idle =>
      cases drained
      exact .settled idle
    | case2 => cases drained
    | case3 => cases drained
    | case4 session task agenda popped before middle performed _ others final rest ih =>
      cases drained
      exact .fired ⟨agenda, popped, performed⟩ (ih rest)
  · intro drains
    induction drains with
    | settled idle => exact drain_of_idle idle
    | fired fires _ ih =>
      obtain ⟨agenda, popped, performed⟩ := fires
      rw [drain_of_due popped, performed]
      simp only [andThen, bind, Except.bind, ih, pure, Except.pure]

theorem Fires.popped {deadline : Duration} {session after : Session} {task : Task}
    {lines : List String} (fires : Fires deadline session task lines after) :
    Agenda.earliest? session.agenda.queue = some task ∧ task.due ≤ deadline := by
  obtain ⟨_, popped, _⟩ := fires
  obtain ⟨found, due, _⟩ := Agenda.popDue_eq_some_iff_earliest?.mp popped
  exact ⟨found, due⟩

/-- An action counts no command, and queues at most the end of a rollout. -/
theorem perform_frame {session after : Session} {action : Action} {lines : List String}
    (performed : session.perform action = .ok (lines, after)) :
    after.commandsRun = session.commandsRun ∧
      (after.agenda = session.agenda ∨
        ∃ due key, after.agenda = session.agenda.enqueue due (.finishRollout key)) := by
  cases action with
  | finishRollout key =>
    cases performed
    exact ⟨rfl, .inl rfl⟩
  | startRollout key =>
    simp only [perform, bind_eq_ok_iff, Prod.exists] at performed
    obtain ⟨_, _, _, performed⟩ := performed
    split at performed
    · cases performed
      exact ⟨rfl, .inl rfl⟩
    · simp only [bind_eq_ok_iff, Prod.exists, pure, Except.pure, Except.ok.injEq,
        Prod.mk.injEq] at performed
      obtain ⟨_, _, scheduled, _, rfl⟩ := performed
      obtain ⟨_, _, rfl⟩ | ⟨_, _, due, _, rfl⟩ := Agenda.schedule_eq_ok_iff.mp scheduled
      · exact ⟨rfl, .inl rfl⟩
      · exact ⟨rfl, .inr ⟨due, key, rfl⟩⟩

/-- Carrying out an action takes no time. -/
private theorem now_perform {session after : Session} {action : Action} {lines : List String}
    (performed : session.perform action = .ok (lines, after)) : after.now = session.now := by
  obtain ⟨_, same | ⟨_, _, queued⟩⟩ := perform_frame performed
  · rw [now, same, now]
  · rw [now, queued, Agenda.now_enqueue, now]

theorem Fires.now_eq {deadline : Duration} {session after : Session} {task : Task}
    {lines : List String} (fires : Fires deadline session task lines after) :
    after.now = max session.now task.due := by
  obtain ⟨agenda, popped, performed⟩ := fires
  obtain ⟨_, _, rfl⟩ := Agenda.popDue_eq_some_iff_earliest?.mp popped
  rw [now_perform performed]
  rfl

/-- A drain leaves the clock at its deadline, unless the clock was beyond it already. -/
theorem Drains.now_eq {deadline : Duration} {session last : Session} {lines : List String}
    (drains : Drains deadline session lines last) : last.now = max session.now deadline := by
  induction drains with
  | settled idle => rfl
  | fired fires _ ih =>
    have due := fires.popped.2
    simp only [Duration.le_def] at due
    rw [ih, fires.now_eq]
    simp only [Duration.ext_iff, Duration.nanos_max]
    omega

/-- Time that passes is time on the clock. -/
theorem now_advance {session after : Session} {elapsed : Duration} {lines : List String}
    (advanced : session.advance elapsed = .ok (lines, after)) :
    after.now.nanos = session.now.nanos + elapsed.nanos := by
  obtain ⟨deadline, sum, drained⟩ := advance_eq_ok_iff.mp advanced
  have total := Duration.add?_eq_some_iff.mp sum
  rw [(drain_eq_ok_iff.mp drained).now_eq, Duration.nanos_max]
  omega

/-- The end of a rollout is reported, and nothing happens but that its task is taken out. -/
theorem Fires.of_finishRollout {deadline : Duration} {session after : Session} {task : Task}
    {lines : List String} {key : String} (fires : Fires deadline session task lines after)
    (action : task.action = .finishRollout key) :
    lines = [rolloutFinished key] ∧
      after = { session with agenda := session.agenda.takeOut task } := by
  obtain ⟨agenda, popped, performed⟩ := fires
  obtain ⟨_, _, rfl⟩ := Agenda.popDue_eq_some_iff_earliest?.mp popped
  rw [action] at performed
  cases performed
  exact ⟨rfl, rfl⟩

/-- The start of a rollout of a broken deployment wires it, moves the progress on and schedules the
end. It goes well where the pods can restart and the clock has room for the end. -/
theorem perform_startRollout_eq_ok_iff {session after : Session} {lines : List String}
    {key : String} {deployment : Deployment}
    (stored : session.cluster.deployments.get? key = some deployment)
    (broken : session.cluster.isRemediated key = false)
    (live : session.agenda.cancelled = false) :
    session.perform (.startRollout key) = .ok (lines, after) ↔
      ∃ pods due, Cluster.recoverPods key session.cluster.pods = .ok pods ∧
        due.nanos = session.now.nanos + rolloutFinishDelay.nanos ∧
        lines = rolloutStarted key deployment.replicas ∧
        after = { session with
          cluster := session.cluster.wired key pods
          progress := session.progress.advanced Progress.remediated
          agenda := session.agenda.enqueue due (.finishRollout key) } := by
  have replicas (pods : List Pod) :
      (((session.cluster.wired key pods).deployments.get? key).map (·.replicas)).getD 1 =
        deployment.replicas := by
    rw [Cluster.get?_deployments_wired, if_pos rfl, stored]
    rfl
  simp only [perform, Cluster.remediate_of_not_isRemediated stored broken, bind_eq_ok_iff,
    map_eq_ok_iff, Prod.exists, pure, Except.pure]
  constructor
  · rintro ⟨_, _, ⟨pods, recovered, same⟩, performed⟩
    cases same
    simp only [reduceCtorEq, ↓reduceIte, bind_eq_ok_iff, Prod.exists, Except.ok.injEq,
      Prod.mk.injEq, replicas] at performed
    obtain ⟨_, _, scheduled, rfl, rfl⟩ := performed
    obtain ⟨cancelled, _⟩ | ⟨_, _, due, sum, rfl⟩ := Agenda.schedule_eq_ok_iff.mp scheduled
    · rw [live] at cancelled
      cases cancelled
    · exact ⟨pods, due, recovered, Duration.add?_eq_some_iff.mp sum, rfl, rfl⟩
  · rintro ⟨pods, due, recovered, sum, rfl, rfl⟩
    refine ⟨_, _, ⟨pods, recovered, rfl⟩, ?_⟩
    have scheduled : session.agenda.schedule rolloutFinishDelay (.finishRollout key) =
        .ok (true, session.agenda.enqueue due (.finishRollout key)) :=
      Agenda.schedule_eq_ok_iff.mpr
        (.inr ⟨live, rfl, due, Duration.add?_eq_some_iff.mpr sum, rfl⟩)
    simp only [reduceCtorEq, ↓reduceIte, bind_eq_ok_iff, Prod.exists, replicas]
    exact ⟨_, _, scheduled, rfl⟩

/-- The start of a rollout wires the deployment, moves the progress on and schedules the end. -/
theorem Fires.of_startRollout {deadline : Duration} {session after : Session} {task : Task}
    {lines : List String} {key : String} {deployment : Deployment}
    (fires : Fires deadline session task lines after) (action : task.action = .startRollout key)
    (stored : session.cluster.deployments.get? key = some deployment)
    (broken : session.cluster.isRemediated key = false)
    (live : session.agenda.cancelled = false) :
    ∃ pods due, Cluster.recoverPods key session.cluster.pods = .ok pods ∧
      due.nanos = (max session.now task.due).nanos + rolloutFinishDelay.nanos ∧
      lines = rolloutStarted key deployment.replicas ∧
      after = { session with
        cluster := session.cluster.wired key pods
        progress := session.progress.advanced Progress.remediated
        agenda := (session.agenda.takeOut task).enqueue due (.finishRollout key) } := by
  obtain ⟨agenda, popped, performed⟩ := fires
  obtain ⟨_, _, rfl⟩ := Agenda.popDue_eq_some_iff_earliest?.mp popped
  rw [action] at performed
  -- The session of the lemma is the one with the task taken out, which `performed` tells.
  exact (perform_startRollout_eq_ok_iff (by exact stored) (by exact broken) (by exact live)).mp
    performed

end Session

end KubeSim
