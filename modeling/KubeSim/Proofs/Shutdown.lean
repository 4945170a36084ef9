import KubeSim.Proofs.Tally
import KubeSim.Proofs.Tape

/-! # Nothing happens after the end

A session that was shut down has nothing to wait for and takes on nothing new, which is
`Session.Stopped`. Whatever is done to it, it is the session of the shutdown but for its clock and its
counter: `Session.later` names these sessions. An edit that would be accepted still shows the same
lines, but its rollout is refused. So every line has one answer, whenever it is run, and a run after
the end changes no more than what `Tally` counts. A console that was quit has such a session, and its
tape tells what its inputs do to it.
-/

namespace KubeSim

/-- What a move shows, where every line has an answer and time passes in silence. -/
def Move.reply (answer : String → Response) : Move → Response
  | .execute line => answer line
  | _ => .silent

namespace Session

/-- The session takes on no action, and none waits. -/
structure Stopped (session : Session) : Prop where
  idle : session.agenda.queue = []
  cancelled : session.agenda.cancelled = true

/-- The session with another time on its clock and another number of commands. -/
def later (session : Session) (now : Duration) (count : UInt32) : Session :=
  { session with agenda := { session.agenda with now }, commandsRun := count }

theorem stopped_shutdown (session : Session) : session.shutdown.Stopped := ⟨rfl, rfl⟩

private theorem later_self (session : Session) :
    session.later session.now session.commandsRun = session :=
  rfl

@[simp] private theorem now_later (session : Session) (now : Duration) (count : UInt32) :
    (session.later now count).now = now := rfl

@[simp] private theorem commandsRun_later (session : Session) (now : Duration) (count : UInt32) :
    (session.later now count).commandsRun = count := rfl

variable {session : Session}

theorem Stopped.later (stopped : session.Stopped) (now : Duration) (count : UInt32) :
    (session.later now count).Stopped := ⟨stopped.idle, stopped.cancelled⟩

theorem Stopped.hasPendingWork_eq (stopped : session.Stopped) : session.hasPendingWork = false := by
  simp [hasPendingWork, Agenda.pending, stopped.idle]

/-! ## One move -/

theorem Stopped.isSettled_eq (stopped : session.Stopped) (key : String) :
    session.isSettled key = session.cluster.isRemediated key := by
  simp [isSettled, Agenda.isPending, stopped.idle]

/-- The answer to an edit depends on the cluster alone, and the rollout is refused. -/
theorem Stopped.edit (stopped : session.Stopped) (key : String) :
    ∃ response, ∀ now count,
      (session.later now count).edit key = .ok (response, session.later now count) := by
  cases search : session.cluster.deployments.get? key with
  | none =>
    refine ⟨.error (.deploymentNotFound key), fun now count => ?_⟩
    simp only [Session.edit, Session.later, search]
  | some deployment =>
    have stored (now : Duration) (count : UInt32) :
        (session.later now count).cluster.deployments.get? key = some deployment := search
    cases wired : session.cluster.isRemediated key with
    | true =>
      refine ⟨.ofLines (deploymentManifest key ++ [editCancelled]), fun now count => ?_⟩
      have settled : (session.later now count).isSettled key = true :=
        ((stopped.later now count).isSettled_eq key).trans wired
      exact (edit_eq_ok_iff (stored now count)).mpr (.inl ⟨settled, rfl, rfl⟩)
    | false =>
      refine ⟨.ofLines (deploymentManifest key ++ ["", editAccepted]), fun now count => ?_⟩
      have unsettled : (session.later now count).isSettled key = false :=
        ((stopped.later now count).isSettled_eq key).trans wired
      have refused : (session.later now count).agenda.schedule rolloutStartDelay
          (.startRollout key) = .ok (false, (session.later now count).agenda) :=
        Agenda.schedule_eq_ok_iff.mpr (.inl ⟨stopped.cancelled, rfl, rfl⟩)
      exact (edit_eq_ok_iff (stored now count)).mpr
        (.inr ⟨unsettled, rfl, false, _, refused, rfl⟩)

theorem Stopped.run (stopped : session.Stopped) (command : Command) :
    ∃ response, ∀ now count,
      (session.later now count).run command = .ok (response, session.later now count) := by
  cases command with
  | editDeployment key => exact stopped.edit key
  | getPods => exact ⟨.ofLines (podTable session.cluster.pods), fun now count => rfl⟩
  | logs pod => exact ⟨session.aboutPod pod Pod.logs, fun now count => rfl⟩
  | describePod pod => exact ⟨session.aboutPod pod Pod.description, fun now count => rfl⟩
  | help | clear | unknown line => exact ⟨_, fun now count => rfl⟩

/-- Every line has one answer, which it gets as long as commands can be counted. -/
theorem Stopped.execute (stopped : session.Stopped) (line : String) :
    ∃ response, ∀ now count, count.toNat + (if (Move.execute line).isCommand then 1 else 0) <
        UInt32.size →
      ∃ next, (session.later now count).execute line = .ok (response, session.later now next) := by
  by_cases blank : Text.trim line = ""
  · refine ⟨.silent, fun now count _ => ⟨count, ?_⟩⟩
    exact execute_eq_ok_iff.mpr (.inl ⟨blank, rfl, rfl⟩)
  · obtain ⟨response, answers⟩ := stopped.run (Command.parse line)
    refine ⟨response, fun now count room => ⟨count + 1, ?_⟩⟩
    have counted : Counter.next (session.later now count).commandsRun = .ok (count + 1) :=
      if_pos (by simpa [Move.isCommand, blank] using room)
    exact execute_eq_ok_iff.mpr (.inr ⟨blank, _, counted, answers now (count + 1)⟩)

/-- Time passes in silence. -/
theorem Stopped.advance (stopped : session.Stopped) {now elapsed : Duration} (count : UInt32)
    (room : now.nanos + elapsed.nanos < Duration.capacity) :
    ∃ deadline, (session.later now count).advance elapsed =
      .ok ([], session.later deadline count) := by
  obtain ⟨deadline, sum⟩ : ∃ deadline, now.add? elapsed = some deadline :=
    ⟨⟨_, room⟩, Duration.add?_eq_some_iff.mpr rfl⟩
  have idle : (session.later now count).agenda.popDue deadline = none := by
    simp [Agenda.popDue_eq_none_iff, (stopped.later now count).idle]
  exact ⟨_, advance_eq_ok_iff.mpr ⟨deadline, sum, drain_of_idle idle⟩⟩

/-- Shutting a stopped session down again changes nothing. -/
theorem Stopped.shutdown_eq (stopped : session.Stopped) : session.shutdown = session := by
  obtain ⟨cluster, progress, ⟨now, queue, nextSeq, cancelled⟩, count⟩ := session
  obtain ⟨rfl, rfl⟩ := stopped
  rfl

/-! ## A whole run -/

/-- The session gives these answers to lines at any later time. -/
def Answers (session : Session) (answer : String → Response) : Prop :=
  ∀ line now count, count.toNat + (if (Move.execute line).isCommand then 1 else 0) < UInt32.size →
    ∃ next, (session.later now count).execute line = .ok (answer line, session.later now next)

theorem Stopped.exists_answers (stopped : session.Stopped) : ∃ answer, session.Answers answer := by
  choose answer answers using stopped.execute
  exact ⟨answer, answers⟩

theorem Stopped.move (stopped : session.Stopped) {answer : String → Response}
    (answers : session.Answers answer) (move : Move) {now : Duration} {count : UInt32}
    (few : count.toNat + (if move.isCommand then 1 else 0) < UInt32.size)
    (room : now.nanos + move.nanos < Duration.capacity) :
    ∃ clock next, (session.later now count).move move =
      .ok (move.reply answer, session.later clock next) := by
  cases move with
  | execute line =>
    obtain ⟨next, executed⟩ := answers line now count few
    exact ⟨now, next, executed⟩
  | advance elapsed =>
    obtain ⟨deadline, advanced⟩ := stopped.advance count room
    exact ⟨deadline, count, move_advance_eq_ok_iff.mpr ⟨[], advanced, rfl⟩⟩
  | shutdown =>
    refine ⟨now, count, ?_⟩
    rw [Session.move, (stopped.later now count).shutdown_eq]
    rfl

/-- No run fails that the clock and the counter have room for. -/
theorem Stopped.play (stopped : session.Stopped) {answer : String → Response}
    (answers : session.Answers answer) (moves : List Move) {now : Duration} {count : UInt32}
    (few : count.toNat + commandCount moves < UInt32.size)
    (room : now.nanos + elapsedNanos moves < Duration.capacity) :
    ∃ clock next, (session.later now count).play moves =
      .ok (moves.map (Move.reply answer), session.later clock next) := by
  induction moves generalizing now count with
  | nil => exact ⟨now, count, rfl⟩
  | cons move rest ih =>
    rw [commandCount_cons] at few
    rw [elapsedNanos_cons] at room
    have fewFirst : count.toNat + (if move.isCommand then 1 else 0) < UInt32.size := by omega
    have roomFirst : now.nanos + move.nanos < Duration.capacity := by omega
    obtain ⟨clock, next, moved⟩ := stopped.move answers move fewFirst roomFirst
    have commands : next.toNat = count.toNat + if move.isCommand then 1 else 0 :=
      (tallies_move moved).commands
    have time : clock.nanos = now.nanos + move.nanos := (tallies_move moved).now
    have fewRest : next.toNat + commandCount rest < UInt32.size := by omega
    have roomRest : clock.nanos + elapsedNanos rest < Duration.capacity := by omega
    obtain ⟨last, total, played⟩ := ih fewRest roomRest
    exact ⟨last, total, play_cons_eq_ok_iff.mpr ⟨_, _, _, moved, played, rfl⟩⟩

end Session

/-! ## A console that was quit -/

/-- Whether the input quits: the escape key, `c` with the control key, or the request itself. -/
def Input.quits : Input → Bool
  | .key .escape _ => true
  | .key (.char c) held => c = 'c' ∧ held.control
  | .quit => true
  | _ => false

theorem Input.cases_of_quits {input : Input} (quits : input.quits = true) :
    (∃ held, input = .key .escape held) ∨
      (∃ held : Modifiers, held.control = true ∧ input = .key (.char 'c') held) ∨ input = .quit := by
  cases input with
  | key key held =>
    cases key with
    | char c =>
      obtain ⟨rfl, control⟩ : c = 'c' ∧ held.control = true := by simpa [Input.quits] using quits
      exact .inr (.inl ⟨held, control, rfl⟩)
    | escape => exact .inl ⟨held, rfl⟩
    | _ => cases quits
  | quit => exact .inr (.inr rfl)
  | _ => cases quits

namespace Console

variable {console after : Console}

private theorem handle_of_quits {input : Input} (quits : input.quits = true) (console : Console) :
    console.handle input = .ok console.quit := by
  obtain ⟨held, rfl⟩ | ⟨held, control, rfl⟩ | rfl := Input.cases_of_quits quits
  · rfl
  · simp [handle, press_char, control]
  · rfl

private theorem tape_cons_of_quits {input : Input} (quits : input.quits = true) (prompt : Prompt)
    (rest : List Input) : tape prompt (input :: rest) = .shutdown :: tape prompt rest := by
  obtain ⟨held, rfl⟩ | ⟨held, control, rfl⟩ | rfl := Input.cases_of_quits quits
  · rfl
  · simp [tape, Input.moves_char, Prompt.handle, Prompt.press_char, control]
  · rfl

/-- Time that passes in silence leaves the output as it is. -/
private theorem output_tick_of_stopped {elapsed : Duration} (stopped : console.session.Stopped)
    (bounded : console.output.length ≤ scrollback)
    (ticked : console.tick elapsed = .ok after) : after.output = console.output := by
  simp only [tick, bind_eq_ok_iff, Prod.exists, pure, Except.pure, Except.ok.injEq] at ticked
  obtain ⟨lines, session, advanced, rfl⟩ := ticked
  obtain ⟨deadline, sum, _⟩ := Session.advance_eq_ok_iff.mp advanced
  have total := Duration.add?_eq_some_iff.mp sum
  obtain ⟨_, silent⟩ := stopped.advance console.session.commandsRun (total ▸ deadline.nanos_lt)
  rw [Session.later_self, advanced] at silent
  cases silent
  simp only [print, keep_nil bounded]

private theorem frame_ofSession {session : Session} {showHint : Bool} {inputs : List Input}
    (handled : (ofSession session showHint).handleAll inputs = .ok console) :
    console.output.length ≤ scrollback := by
  apply (frame_handleAll handled).bounded
  change welcome.length ≤ scrollback
  decide

end Console

variable {start : Cluster} {moves : List Move} {responses : List Response} {session : Session}

namespace Session

/-- A run that goes on after a shutdown. -/
private theorem play_shutdown (played : (ofCluster start).play moves = .ok (responses, session))
    {answer : String → Response} (answers : session.shutdown.Answers answer) (more : List Move)
    (few : commandCount (moves ++ more) < UInt32.size)
    (room : elapsedNanos (moves ++ more) < Duration.capacity) :
    ∃ clock count, session.shutdown.play more =
      .ok (more.map (Move.reply answer), session.shutdown.later clock count) := by
  rw [commandCount_append] at few
  rw [elapsedNanos_append] at room
  have counted := commandsRun_of_play played
  have passed := now_of_play played
  have fewMore : session.commandsRun.toNat + commandCount more < UInt32.size := by omega
  have roomMore : session.now.nanos + elapsedNanos more < Duration.capacity := by omega
  exact (stopped_shutdown session).play answers more fewMore roomMore

end Session

namespace Console

/-- A console that was quit handles further inputs, where their tape can be played. -/
private theorem handleAll_quit {console : Console} {showHint : Bool} {inputs : List Input}
    (handled : (ofSession (.ofCluster start) showHint).handleAll inputs = .ok console) {stop : Input}
    (quits : stop.quits = true) (more : List Input)
    (few : Session.commandCount (tape .new (inputs ++ stop :: more)) < UInt32.size)
    (room : Session.elapsedNanos (tape .new (inputs ++ stop :: more)) < Duration.capacity) :
    ∃ last clock count, console.quit.handleAll more = .ok last ∧
      last.session = console.session.shutdown.later clock count := by
  obtain ⟨typed, responses, played⟩ := play_tape_of_handleAll handled
  have prompt : console.prompt = inputs.foldl Prompt.handle .new := typed
  rw [tape_append, ← prompt, tape_cons_of_quits quits] at few room
  have fewMore : Session.commandCount (tape .new inputs ++ tape console.prompt more) <
      UInt32.size := by simpa [Move.isCommand] using few
  have roomMore : Session.elapsedNanos (tape .new inputs ++ tape console.prompt more) <
      Duration.capacity := by simpa [Move.nanos] using room
  obtain ⟨answer, answers⟩ := (Session.stopped_shutdown console.session).exists_answers
  obtain ⟨clock, count, continued⟩ := Session.play_shutdown played answers _ fewMore roomMore
  change console.quit.session.play (tape console.quit.prompt more) = _ at continued
  obtain ⟨last, handledMore, same⟩ := handleAll_of_play_tape continued
  exact ⟨last, clock, count, handledMore, same⟩

end Console

/-- After a session is shut down, no run fails that the clock and the counter have room for. Nothing
waits, time passes in silence, every line has its one answer, and nothing changes but the clock and
the counter. So after a console is quit it never runs again, ticks show nothing, and the cluster and
the progress stay. -/
theorem silent_after_shutdown (start : Cluster) :
    (∀ moves responses session,
      (Session.ofCluster start).play moves = .ok (responses, session) →
      ∃ answer : String → Response, ∀ more : List Move,
        Session.commandCount (moves ++ more) < UInt32.size →
        Session.elapsedNanos (moves ++ more) < Duration.capacity →
        ∃ last, session.shutdown.play more = .ok (more.map (Move.reply answer), last) ∧
          last = session.shutdown.later last.now last.commandsRun ∧
          last.now.nanos = session.now.nanos + Session.elapsedNanos more ∧
          last.hasPendingWork = false ∧ last.cluster = session.cluster ∧
          last.progress = session.progress) ∧
      ∀ showHint inputs console,
        (Console.ofSession (.ofCluster start) showHint).handleAll inputs = .ok console →
        ∀ stop : Input, stop.quits = true →
          ∃ stopped, console.handle stop = .ok stopped ∧ ∀ more : List Input,
            Session.commandCount (Console.tape .new (inputs ++ stop :: more)) < UInt32.size →
            Session.elapsedNanos (Console.tape .new (inputs ++ stop :: more)) < Duration.capacity →
            ∃ last, stopped.handleAll more = .ok last ∧ last.running = false ∧
              last.session.cluster = console.session.cluster ∧
              last.session.progress = console.session.progress ∧
              ∀ elapsed after, last.tick elapsed = .ok after → after.output = last.output := by
  constructor
  · intro moves responses session played
    have stopped := Session.stopped_shutdown session
    obtain ⟨answer, answers⟩ := stopped.exists_answers
    refine ⟨answer, fun more few room => ?_⟩
    obtain ⟨clock, count, continued⟩ := Session.play_shutdown played answers more few room
    have passed : (session.shutdown.later clock count).now.nanos =
        session.shutdown.now.nanos + Session.elapsedNanos more := Session.now_play continued
    have idle := (stopped.later clock count).hasPendingWork_eq
    exact ⟨_, continued, rfl, passed, idle, rfl, rfl⟩
  · intro showHint inputs console handled stop quits
    refine ⟨console.quit, Console.handle_of_quits quits console, fun more few room => ?_⟩
    obtain ⟨last, clock, count, continued, same⟩ :=
      Console.handleAll_quit handled quits more few room
    have frame := Console.frame_handleAll continued
    have within : console.output.length ≤ scrollback := Console.frame_ofSession handled
    refine ⟨last, continued, frame.stopped rfl, by rw [same]; rfl, by rw [same]; rfl, ?_⟩
    intro elapsed after ticked
    have stopped := (Session.stopped_shutdown console.session).later clock count
    rw [← same] at stopped
    exact Console.output_tick_of_stopped stopped (frame.bounded within) ticked

/-- Half a second after a rollout has started, its end waits. It is dropped, a further edit leads to
nothing, and a console that is left there with the escape key stays as it is. -/
theorem silent_after_shutdown_betweenStages :
    (∃ responses session, (Session.ofCluster .scenario).play
          [.execute "kubectl edit deployment auth-service", .advance (.ofMillis 2500)] =
        .ok (responses, session) ∧ session.hasPendingWork = true ∧
      ∃ responses last, session.shutdown.play
            [.execute "kubectl edit deployment auth-service", .advance (.ofMillis 5000)] =
          .ok (responses, last) ∧
        last.hasPendingWork = false ∧ last.cluster = session.cluster) ∧
    ∃ console stopped last, (Console.ofSession (.ofCluster .scenario) false).handleAll
          [.paste "kubectl edit deployment auth-service\n", .tick (.ofMillis 2500)] = .ok console ∧
      console.session.hasPendingWork = true ∧ console.handle (.key .escape .none) = .ok stopped ∧
      stopped.handleAll [.paste "kubectl get pods\n", .tick (.ofMillis 5000)] = .ok last ∧
      last.running = false ∧ last.session.cluster = console.session.cluster := by
  obtain ⟨ofMoves, ofInputs⟩ := silent_after_shutdown .scenario
  constructor
  · obtain ⟨responses, session, played, waits⟩ := Session.exists_of_map_play
      (show ((Session.ofCluster .scenario).play
          [.execute "kubectl edit deployment auth-service", .advance (.ofMillis 2500)]).map
          (·.2.hasPendingWork) = .ok true by decide +kernel)
    obtain ⟨answer, silent⟩ := ofMoves _ _ _ played
    obtain ⟨last, continued, _, _, idle, same, _⟩ := silent
      [.execute "kubectl edit deployment auth-service", .advance (.ofMillis 5000)]
      (by decide +kernel) (by decide)
    exact ⟨responses, session, played, waits, _, last, continued, idle, same⟩
  · obtain ⟨console, handled, waits⟩ := map_eq_ok_iff.mp
      (show ((Console.ofSession (.ofCluster .scenario) false).handleAll
          [.paste "kubectl edit deployment auth-service\n", .tick (.ofMillis 2500)]).map
          (·.session.hasPendingWork) = .ok true by decide +kernel)
    obtain ⟨stopped, quit, silent⟩ := ofInputs _ _ _ handled (.key .escape .none) rfl
    obtain ⟨last, continued, ended, same, _⟩ := silent
      [.paste "kubectl get pods\n", .tick (.ofMillis 5000)] (by decide +kernel) (by decide +kernel)
    exact ⟨console, stopped, last, handled, waits, quit, continued, ended, same⟩

end KubeSim
