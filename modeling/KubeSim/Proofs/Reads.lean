import KubeSim.Proofs.Tally

/-! # Lines that only read

A line that is blank or runs a command that does not mutate changes nothing but the counter, and
nothing in a session depends on the counter: `Session.counting` puts another number there, and every
step that goes well does the same with it. So any of these lines can be struck from a run. The other
moves get the answers that they got, and the session ends as it did, less the commands struck.
-/

namespace KubeSim

/-- Whether the move is a line that is blank or runs a command that does not mutate. -/
def Move.isRead : Move → Bool
  | .execute line => Text.trim line = "" ∨ (Command.parse line).isMutating = false
  | _ => false

namespace Session

/-- The session with another number of commands. -/
def counting (session : Session) (count : UInt32) : Session := { session with commandsRun := count }

@[simp] private theorem commandsRun_counting (session : Session) (count : UInt32) :
    (session.counting count).commandsRun = count := rfl

@[simp] private theorem counting_counting (session : Session) (first second : UInt32) :
    (session.counting first).counting second = session.counting second := rfl

variable {session after : Session} {response : Response} {lines : List String}

/-! ## Nothing depends on the counter -/

private theorem edit_counting {key : String} (edited : session.edit key = .ok (response, after))
    (count : UInt32) : (session.counting count).edit key = .ok (response, after.counting count) := by
  cases search : session.cluster.deployments.get? key with
  | none =>
    simp only [edit, search, Except.ok.injEq, Prod.mk.injEq] at edited
    obtain ⟨rfl, rfl⟩ := edited
    simp only [edit, counting, search]
  | some deployment =>
    have stored : (session.counting count).cluster.deployments.get? key = some deployment := search
    obtain ⟨settled, rfl, rfl⟩ | ⟨unsettled, rfl, accepted, agenda, scheduled, rfl⟩ :=
      (edit_eq_ok_iff search).mp edited
    · exact (edit_eq_ok_iff stored).mpr (.inl ⟨settled, rfl, rfl⟩)
    · exact (edit_eq_ok_iff stored).mpr (.inr ⟨unsettled, rfl, accepted, agenda, scheduled, rfl⟩)

private theorem run_counting {command : Command} (ran : session.run command = .ok (response, after))
    (count : UInt32) :
    (session.counting count).run command = .ok (response, after.counting count) := by
  cases command with
  | editDeployment key => exact edit_counting ran count
  | _ =>
    cases ran
    rfl

private theorem perform_counting {action : Action}
    (performed : session.perform action = .ok (lines, after))
    (count : UInt32) :
    (session.counting count).perform action = .ok (lines, after.counting count) := by
  cases action with
  | finishRollout key =>
    cases performed
    rfl
  | startRollout key =>
    simp only [perform, bind_eq_ok_iff, Prod.exists] at performed ⊢
    obtain ⟨found, cluster, remediated, performed⟩ := performed
    refine ⟨found, cluster, remediated, ?_⟩
    split at performed
    · next missing =>
      cases performed
      rw [if_pos missing]
      rfl
    · next present =>
      rw [if_neg present]
      simp only [bind_eq_ok_iff, Prod.exists, pure, Except.pure, Except.ok.injEq,
        Prod.mk.injEq] at performed ⊢
      obtain ⟨accepted, agenda, scheduled, rfl, rfl⟩ := performed
      exact ⟨accepted, agenda, scheduled, rfl, rfl⟩

private theorem Drains.counting {deadline : Duration} (drains : Drains deadline session lines after)
    (count : UInt32) : Drains deadline (session.counting count) lines (after.counting count) := by
  induction drains with
  | settled idle => exact .settled idle
  | fired fires _ ih =>
    obtain ⟨agenda, popped, performed⟩ := fires
    exact .fired ⟨agenda, popped, perform_counting performed count⟩ ih

/-- A move of the session is one of the session that counts less, and the difference stays. -/
private theorem move_counting {move : Move} (moved : session.move move = .ok (response, after))
    {count : UInt32} {gap : Nat} (less : count.toNat + gap = session.commandsRun.toNat) :
    ∃ next, (session.counting count).move move = .ok (response, after.counting next) ∧
      next.toNat + gap = after.commandsRun.toNat := by
  cases move with
  | execute line =>
    obtain ⟨blank, rfl, rfl⟩ | ⟨filled, total, counted, ran⟩ := execute_eq_ok_iff.mp moved
    · exact ⟨count, execute_eq_ok_iff.mpr (.inl ⟨blank, rfl, rfl⟩), less⟩
    · have added := Counter.next_eq_ok_iff.mp counted
      have room : count.toNat + 1 < UInt32.size := by
        have := total.toNat_lt_size
        omega
      have next : Counter.next count = .ok (count + 1) := if_pos room
      refine ⟨count + 1, execute_eq_ok_iff.mpr (.inr ⟨filled, _, next, ?_⟩), ?_⟩
      · exact run_counting ran (count + 1)
      · rw [commandsRun_run ran, Counter.next_eq_ok_iff.mp next]
        change _ = total.toNat
        omega
  | advance elapsed =>
    obtain ⟨lines, advanced, rfl⟩ := move_advance_eq_ok_iff.mp moved
    obtain ⟨deadline, sum, drained⟩ := advance_eq_ok_iff.mp advanced
    have drains := drain_eq_ok_iff.mp drained
    refine ⟨count, move_advance_eq_ok_iff.mpr ⟨lines, ?_, rfl⟩, by rw [drains.frame.1, less]⟩
    exact advance_eq_ok_iff.mpr ⟨deadline, sum, drain_eq_ok_iff.mpr (drains.counting count)⟩
  | shutdown =>
    cases moved
    exact ⟨count, rfl, less⟩

/-! ## Reads change the counter alone -/

theorem eq_counting_of_isRead {move : Move} (reads : move.isRead = true)
    (moved : session.move move = .ok (response, after)) :
    after = session.counting after.commandsRun := by
  cases move with
  | execute line =>
    obtain ⟨_, _, rfl⟩ | ⟨filled, total, _, ran⟩ := execute_eq_ok_iff.mp moved
    · rfl
    · have harmless : (Command.parse line).isMutating = false := by
        simpa [Move.isRead, filled] using reads
      cases command : Command.parse line with
      | editDeployment key =>
        rw [command] at harmless
        cases harmless
      | _ =>
        rw [command] at ran
        cases ran
        rfl
  | _ => cases reads

/-! ## Striking lines from a run -/

/-- The moves of a run that are not struck. -/
def kept (steps : List (Move × Bool)) : List Move := (steps.filter (!·.2)).map (·.1)

/-- The moves of a run that are struck. -/
def struck (steps : List (Move × Bool)) : List Move := (steps.filter (·.2)).map (·.1)

/-- The answers to the moves that are not struck. -/
def keptResponses (steps : List (Move × Bool)) (responses : List Response) : List Response :=
  ((steps.zip responses).filter (!·.1.2)).map (·.2)

theorem play_kept_counting {steps : List (Move × Bool)}
    (reads : ∀ step ∈ steps, step.2 = true → step.1.isRead = true) {responses : List Response}
    {last : Session} (played : session.play (steps.map (·.1)) = .ok (responses, last))
    {count : UInt32} {gap : Nat} (less : count.toNat + gap = session.commandsRun.toNat) :
    ∃ total, (session.counting count).play (kept steps) =
        .ok (keptResponses steps responses, last.counting total) ∧
      total.toNat + gap + commandCount (struck steps) = last.commandsRun.toNat := by
  induction steps generalizing session responses count gap with
  | nil =>
    cases played
    exact ⟨count, rfl, less⟩
  | cons step rest ih =>
    obtain ⟨move, isStruck⟩ := step
    obtain ⟨readsFirst, readsRest⟩ := List.forall_mem_cons.mp reads
    rw [List.map_cons] at played
    obtain ⟨response, middle, others, moved, continued, rfl⟩ := play_cons_eq_ok_iff.mp played
    cases isStruck with
    | true =>
      -- The shorter run stays where it is, and falls behind by what the line counted.
      have same := eq_counting_of_isRead (readsFirst rfl) moved
      have added : middle.commandsRun.toNat =
          session.commandsRun.toNat + if move.isCommand then 1 else 0 :=
        (tallies_move moved).commands
      have wider : count.toNat + (gap + if move.isCommand then 1 else 0) =
          middle.commandsRun.toNat := by omega
      obtain ⟨total, playedRest, sum⟩ := ih readsRest continued wider
      rw [same, counting_counting] at playedRest
      refine ⟨total, playedRest, ?_⟩
      simp only [struck, List.filter_cons, ↓reduceIte, List.map_cons, commandCount_cons] at sum ⊢
      omega
    | false =>
      obtain ⟨next, movedLess, lessRest⟩ := move_counting moved less
      obtain ⟨total, playedRest, sum⟩ := ih readsRest continued lessRest
      exact ⟨total, play_cons_eq_ok_iff.mpr ⟨_, _, _, movedLess, playedRest, rfl⟩, sum⟩

variable {start : Cluster}

/-- Strike any lines that only read from a run. The other moves are answered as they were. The
cluster, the progress, the clock and the queue end as they did, and the commands struck are all that
the counter lacks. -/
theorem play_kept {steps : List (Move × Bool)}
    (reads : ∀ step ∈ steps, step.2 = true → step.1.isRead = true) {responses : List Response}
    {last : Session}
    (played : (ofCluster start).play (steps.map (·.1)) = .ok (responses, last)) :
    ∃ other, (ofCluster start).play (kept steps) = .ok (keptResponses steps responses, other) ∧
      other.cluster = last.cluster ∧ other.progress = last.progress ∧ other.now = last.now ∧
      other.agenda = last.agenda ∧
      other.commandsRun.toNat + commandCount (struck steps) = last.commandsRun.toNat := by
  obtain ⟨total, playedKept, sum⟩ := play_kept_counting reads played (Nat.add_zero _)
  exact ⟨_, playedKept, rfl, rfl, rfl, rfl, sum⟩

/-- A run with two looks at the cluster and a blank line to strike. -/
def lookingAround : List (Move × Bool) := [
  (.execute "kubectl edit deployment auth-service", false),
  (.execute "kubectl get pods", true),
  (.advance (.ofMillis 2500), false),
  (.execute " ", true),
  (.execute "kubectl logs auth-service", true),
  (.advance (.ofMillis 500), false),
  (.execute "kubectl get pods", false)]

theorem play_kept_lookingAround : ∃ responses last other,
    (ofCluster .scenario).play (lookingAround.map (·.1)) = .ok (responses, last) ∧
      (ofCluster .scenario).play
          [.execute "kubectl edit deployment auth-service", .advance (.ofMillis 2500),
            .advance (.ofMillis 500), .execute "kubectl get pods"] =
        .ok (keptResponses lookingAround responses, other) ∧
      other.cluster = last.cluster ∧ other.agenda = last.agenda ∧
      other.commandsRun.toNat + 2 = last.commandsRun.toNat := by
  obtain ⟨responses, last, played, _⟩ := exists_of_map_play
    (show ((ofCluster .scenario).play (lookingAround.map (·.1))).map (·.1.length) = .ok 7 by
      decide +kernel)
  obtain ⟨other, playedKept, cluster, _, _, agenda, counted⟩ :=
    play_kept (by decide +kernel) played
  have twice : commandCount (struck lookingAround) = 2 := by decide +kernel
  exact ⟨responses, last, other, played, playedKept, cluster, agenda, twice ▸ counted⟩

end Session

end KubeSim
