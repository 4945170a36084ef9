import KubeSim.Proofs.Run
import KubeSim.Proofs.Tokens
import Mathlib.Algebra.Ring.Nat

/-! # What a run adds up to

Three things about a session can be read off the moves that led to it: the time on the clock is the
sum of the durations that passed, the number of commands is the number of lines that are not blank,
and the agenda is cancelled when the session was shut down. A fourth is bounded by them: the numbers
of the tasks, of which each command uses up three at most.
-/

namespace KubeSim

/-- Whether the move is counted as a command, which every line is but a blank one. -/
def Move.isCommand : Move → Bool
  | .execute line => Text.trim line ≠ ""
  | _ => false

def Move.nanos : Move → Nat
  | .advance elapsed => elapsed.nanos
  | _ => 0

namespace Session

def commandCount (moves : List Move) : Nat := moves.countP Move.isCommand

def elapsedNanos (moves : List Move) : Nat := (moves.map Move.nanos).sum

@[simp] theorem commandCount_nil : commandCount [] = 0 := rfl

@[simp] theorem commandCount_cons (move : Move) (moves : List Move) :
    commandCount (move :: moves) = commandCount moves + if move.isCommand then 1 else 0 :=
  List.countP_cons

@[simp] theorem commandCount_append (first second : List Move) :
    commandCount (first ++ second) = commandCount first + commandCount second :=
  List.countP_append

@[simp] theorem elapsedNanos_nil : elapsedNanos [] = 0 := rfl

@[simp] theorem elapsedNanos_cons (move : Move) (moves : List Move) :
    elapsedNanos (move :: moves) = move.nanos + elapsedNanos moves := List.sum_cons

@[simp] theorem elapsedNanos_append (first second : List Move) :
    elapsedNanos (first ++ second) = elapsedNanos first + elapsedNanos second := by
  rw [elapsedNanos, List.map_append, List.sum_append]
  rfl

variable {session after last : Session} {response : Response}

/-- A command leaves the counter alone: it was counted before it is run. -/
theorem commandsRun_run {command : Command} (ran : session.run command = .ok (response, after)) :
    after.commandsRun = session.commandsRun := by
  cases command with
  | editDeployment key =>
    change session.edit key = _ at ran
    cases search : session.cluster.deployments.get? key with
    | none =>
      simp only [edit, search, Except.ok.injEq, Prod.mk.injEq] at ran
      rw [ran.2]
    | some deployment =>
      obtain ⟨_, _, rfl⟩ | ⟨_, _, _, _, _, rfl⟩ := (edit_eq_ok_iff search).mp ran <;> rfl
  | _ =>
    cases ran
    rfl

/-- What a move adds: the time that passes, a command, or the end of all work. -/
structure Tallies (move : Move) (before after : Session) : Prop where
  now : after.now.nanos = before.now.nanos + move.nanos
  commands : after.commandsRun.toNat = before.commandsRun.toNat + if move.isCommand then 1 else 0
  cancelled : after.agenda.cancelled = true ↔
    before.agenda.cancelled = true ∨ move = .shutdown

private theorem tallies_execute {line : String}
    (executed : session.execute line = .ok (response, after)) :
    Tallies (.execute line) session after := by
  refine ⟨?_, ?_, ?_⟩
  · obtain ⟨_, rfl⟩ | ⟨_, _, _, _, _, _, _, _, _, rfl⟩ := execute_cases executed <;> rfl
  · obtain ⟨blank, _, rfl⟩ | ⟨filled, count, next, ran⟩ := execute_eq_ok_iff.mp executed
    · simp [Move.isCommand, blank]
    · rw [commandsRun_run ran, Counter.next_eq_ok_iff.mp next]
      simp [Move.isCommand, filled]
  · obtain ⟨_, rfl⟩ | ⟨_, _, _, _, _, _, _, _, _, rfl⟩ := execute_cases executed <;> simp

/-- The rounds of a drain count no command and cancel nothing. -/
theorem Drains.frame {deadline : Duration} {lines : List String}
    (drains : Drains deadline session lines after) :
    after.commandsRun = session.commandsRun ∧
      after.agenda.cancelled = session.agenda.cancelled := by
  induction drains with
  | settled idle => exact ⟨rfl, rfl⟩
  | fired fires _ ih =>
    obtain ⟨agenda, popped, performed⟩ := fires
    obtain ⟨_, _, rfl⟩ := Agenda.popDue_eq_some_iff_earliest?.mp popped
    obtain ⟨counted, same | ⟨due, key, queued⟩⟩ := perform_frame performed
    · exact ⟨ih.1.trans counted, by rw [ih.2, same, Agenda.cancelled_takeOut]⟩
    · refine ⟨ih.1.trans counted, ?_⟩
      rw [ih.2, queued, Agenda.cancelled_enqueue, Agenda.cancelled_takeOut]

theorem tallies_move {move : Move} (moved : session.move move = .ok (response, after)) :
    Tallies move session after := by
  cases move with
  | execute line => exact tallies_execute moved
  | advance elapsed =>
    obtain ⟨lines, advanced, _⟩ := move_advance_eq_ok_iff.mp moved
    obtain ⟨deadline, _, drained⟩ := advance_eq_ok_iff.mp advanced
    obtain ⟨counted, cancelled⟩ := (drain_eq_ok_iff.mp drained).frame
    exact ⟨now_advance advanced, by simp [Move.isCommand, counted], by simp [cancelled]⟩
  | shutdown =>
    cases moved
    refine ⟨rfl, rfl, ?_⟩
    simp [Session.shutdown, Agenda.cancelAll]

variable {moves : List Move} {responses : List Response}

theorem now_play (played : session.play moves = .ok (responses, last)) :
    last.now.nanos = session.now.nanos + elapsedNanos moves := by
  induction moves generalizing session responses with
  | nil =>
    cases played
    rfl
  | cons move rest ih =>
    obtain ⟨_, middle, _, moved, played, _⟩ := play_cons_eq_ok_iff.mp played
    rw [ih played, (tallies_move moved).now, elapsedNanos_cons, Nat.add_assoc]

theorem commandsRun_play (played : session.play moves = .ok (responses, last)) :
    last.commandsRun.toNat = session.commandsRun.toNat + commandCount moves := by
  induction moves generalizing session responses with
  | nil =>
    cases played
    rfl
  | cons move rest ih =>
    obtain ⟨_, middle, _, moved, played, _⟩ := play_cons_eq_ok_iff.mp played
    rw [ih played, (tallies_move moved).commands, commandCount_cons]
    omega

theorem cancelled_play_iff (played : session.play moves = .ok (responses, last)) :
    last.agenda.cancelled = true ↔ session.agenda.cancelled = true ∨ .shutdown ∈ moves := by
  induction moves generalizing session responses with
  | nil =>
    cases played
    simp
  | cons move rest ih =>
    obtain ⟨_, middle, _, moved, played, _⟩ := play_cons_eq_ok_iff.mp played
    rw [ih played, (tallies_move moved).cancelled, List.mem_cons, or_assoc, eq_comm (a := move)]

/-! ## Runs from the start -/

variable {start : Cluster}

theorem now_of_play (played : (ofCluster start).play moves = .ok (responses, last)) :
    last.now.nanos = elapsedNanos moves := by
  simpa [ofCluster, Agenda.new, now, Duration.zero] using now_play played

theorem commandsRun_of_play (played : (ofCluster start).play moves = .ok (responses, last)) :
    last.commandsRun.toNat = commandCount moves := by
  simpa [ofCluster] using commandsRun_play played

theorem cancelled_of_play (played : (ofCluster start).play moves = .ok (responses, last)) :
    last.agenda.cancelled = true ↔ .shutdown ∈ moves := by
  simpa [ofCluster, Agenda.new] using cancelled_play_iff played

end Session

/-! ## The numbers of the tasks -/

/-- The numbers that were given to tasks, and one more for each action that those that wait still
lead to. -/
def Agenda.claimed (agenda : Agenda) : Nat := agenda.nextSeq + agenda.workload

theorem Agenda.claimed_enqueue (agenda : Agenda) (due : Duration) (action : Action) :
    (agenda.enqueue due action).claimed = agenda.claimed + 1 + action.weight := by
  simp only [claimed, workload, enqueue, List.foldr_append, List.foldr_cons, List.foldr_nil,
    Nat.add_zero, foldr_weight _ action.weight]
  omega

private theorem Agenda.claimed_popDue {agenda after : Agenda} {deadline : Duration} {task : Task}
    (popped : agenda.popDue deadline = some (task, after)) :
    after.claimed + task.action.weight = agenda.claimed := by
  have load := workload_popDue popped
  obtain ⟨_, rfl⟩ := popDue_eq_some_iff.mp popped
  simp only [claimed] at load ⊢
  omega

namespace Session

variable {session after last : Session} {lines : List String}

/-- The start of a rollout makes way for its end. -/
private theorem claimed_perform_le {action : Action}
    (performed : session.perform action = .ok (lines, after)) :
    after.agenda.claimed ≤ session.agenda.claimed + action.weight := by
  cases action with
  | finishRollout key =>
    cases performed
    exact Nat.le_add_right _ _
  | startRollout key =>
    obtain ⟨_, same | ⟨due, name, queued⟩⟩ := perform_frame performed
    · rw [same]
      exact Nat.le_add_right _ _
    · rw [queued, Agenda.claimed_enqueue]
      exact Nat.le_refl _

/-- A drain claims nothing. -/
theorem Drains.claimed_le {deadline : Duration} (drains : Drains deadline session lines after) :
    after.agenda.claimed ≤ session.agenda.claimed := by
  induction drains with
  | settled idle => exact Nat.le_refl _
  | fired fires _ ih =>
    obtain ⟨agenda, popped, performed⟩ := fires
    rw [← Agenda.claimed_popDue popped]
    exact ih.trans (claimed_perform_le performed)

private theorem claimed_move_le {move : Move} {response : Response}
    (moved : session.move move = .ok (response, after)) :
    after.agenda.claimed ≤ session.agenda.claimed + 3 * if move.isCommand then 1 else 0 := by
  cases move with
  | execute line =>
    obtain ⟨_, rfl⟩ | ⟨key, _, due, _, parsed, _, _, _, _, rfl⟩ := execute_cases moved
    · exact Nat.le_add_right _ _
    · have command : (Move.execute line).isCommand = true := by
        simpa [Move.isCommand] using Command.trim_ne_empty_of_parse_editDeployment parsed
      rw [Agenda.claimed_enqueue, if_pos command]
      exact Nat.le_refl _
  | advance elapsed =>
    obtain ⟨_, advanced, _⟩ := move_advance_eq_ok_iff.mp moved
    obtain ⟨_, _, drained⟩ := advance_eq_ok_iff.mp advanced
    exact (drain_eq_ok_iff.mp drained).claimed_le
  | shutdown =>
    cases moved
    have cleared : session.shutdown.agenda.claimed = session.agenda.nextSeq := rfl
    rw [cleared, Agenda.claimed, Nat.add_assoc]
    exact Nat.le_add_right _ _

theorem claimed_play_le {moves : List Move} {responses : List Response}
    (played : session.play moves = .ok (responses, last)) :
    last.agenda.claimed ≤ session.agenda.claimed + 3 * commandCount moves := by
  induction moves generalizing session responses with
  | nil =>
    cases played
    exact Nat.le_refl _
  | cons move rest ih =>
    obtain ⟨_, middle, _, moved, played, _⟩ := play_cons_eq_ok_iff.mp played
    have first := claimed_move_le moved
    have others := ih played
    rw [commandCount_cons]
    omega

/-- No run has as many tasks as a counter of 64 bits can tell apart. -/
theorem nextSeq_lt_of_play {start : Cluster} {moves : List Move} {responses : List Response}
    (played : (ofCluster start).play moves = .ok (responses, last)) :
    last.agenda.nextSeq < UInt64.size := by
  have claimed := claimed_play_le played
  have counted := commandsRun_of_play played
  have room := last.commandsRun.toNat_lt
  simp only [ofCluster, Agenda.new, Agenda.claimed, Agenda.workload, List.foldr_nil] at claimed
  simp only [UInt64.size]
  omega

end Session

end KubeSim
