import KubeSim.Proofs.Paste
import KubeSim.Proofs.Tally

/-! # The history is what the session ran

Lines come to a session from a prompt: typed, recalled or pasted. The prompt remembers them, and the
session counts the lines that it runs, unless they are blank. Neither looks at the other, but they
agree. What a prompt remembers of an input is what the input has the session run, and it is trimmed
and not blank, so that the session counts all of it (`Prompt.enters_handle`). Hence after any run of
a console the history lists the lines that the session was given, and the counter is its length
(`Console.history_eq_executed`).
-/

namespace KubeSim

/-- A line that is left when the blanks at both ends are removed begins and ends with no blank. -/
theorem Text.isTight_trim {line : String} (filled : trim line ≠ "") : IsTight (trim line) := by
  have chars : (trim line).toList = (trimStart line.toList).rdropWhile isBlank := by
    rw [trim, String.toList_ofList, trimEnd, List.rdropWhile]
  have left : (trimStart line.toList).rdropWhile isBlank ≠ [] := by
    intro empty
    rw [← chars] at empty
    exact filled (String.toList_inj.mp empty)
  obtain ⟨cut, whole⟩ := List.rdropWhile_prefix isBlank (l := trimStart line.toList)
  obtain ⟨first, rest, start⟩ := List.exists_cons_of_ne_nil left
  constructor
  · refine ⟨first, by rw [chars, start]; rfl, ?_⟩
    have leads := List.head?_dropWhile_not isBlank line.toList
    rw [← trimStart, ← whole, start] at leads
    exact leads
  · refine ⟨_, by rw [chars]; exact List.getLast?_eq_some_getLast left, ?_⟩
    exact Bool.not_eq_true _ ▸ List.rdropWhile_last_not isBlank _ left

def Move.line? : Move → Option String
  | .execute line => some line
  | _ => none

namespace Session

def executed (moves : List Move) : List String := moves.filterMap Move.line?

private theorem executed_append (first second : List Move) :
    executed (first ++ second) = executed first ++ executed second := List.filterMap_append

private theorem executed_map_execute (lines : List String) :
    executed (lines.map .execute) = lines := by
  induction lines with
  | nil => rfl
  | cons line rest ih => exact congrArg (line :: ·) ih

/-- Where no line is blank, every line is a command. -/
theorem commandCount_eq_length {moves : List Move}
    (tight : ∀ line ∈ executed moves, Text.IsTight line) :
    commandCount moves = (executed moves).length := by
  rw [commandCount, executed, List.length_filterMap_eq_countP]
  apply List.countP_congr
  intro move member
  cases move with
  | execute line =>
    have solid := tight line (List.mem_filterMap.mpr ⟨_, member, rfl⟩)
    simp [Move.isCommand, Move.line?, solid.trim_eq, solid.ne_empty]
  | _ => simp [Move.isCommand, Move.line?]

end Session

namespace Prompt

/-- The prompt remembers these lines from now on, none of which has anything to trim. -/
structure Enters (lines : List String) (before after : Prompt) : Prop where
  history : after.history = before.history ++ lines
  tight : ∀ line ∈ lines, Text.IsTight line

variable {before middle after : Prompt} {lines more : List String}

theorem Enters.none (same : after.history = before.history) : Enters [] before after :=
  ⟨by rw [same, List.append_nil], by simp⟩

theorem Enters.trans (first : Enters lines before middle) (second : Enters more middle after) :
    Enters (lines ++ more) before after := by
  constructor
  · rw [second.history, first.history, List.append_assoc]
  · exact List.forall_mem_append.mpr ⟨first.tight, second.tight⟩

/-- An entered line is remembered as it is trimmed, unless it is blank. -/
theorem enters_submit (prompt : Prompt) :
    Enters prompt.submit.1.toList prompt prompt.submit.2 := by
  simp only [submit, flush]
  split
  · exact .none rfl
  · next filled =>
    constructor
    · rfl
    · simpa using Text.isTight_trim filled

private theorem enters_strike (prompt : Prompt) (c : Char) :
    Enters (prompt.strike c).1.toList prompt (prompt.strike c).2 := by
  unfold strike
  split
  · exact enters_submit prompt
  · exact .none rfl

private theorem enters_strikeAll (prompt : Prompt) (cs : List Char) :
    Enters (prompt.strikeAll cs).1 prompt (prompt.strikeAll cs).2 := by
  induction cs generalizing prompt with
  | nil => exact .none rfl
  | cons c rest ih => exact (enters_strike prompt c).trans (ih (prompt.strike c).2)

/-- The lines that a paste completes are remembered in order. -/
theorem enters_paste (prompt : Prompt) (text : String) :
    Enters (prompt.paste text).1 prompt (prompt.paste text).2 := by
  have struck := enters_strikeAll prompt text.toList
  rw [paste_eq_strikeAll]
  exact ⟨struck.history, struck.tight⟩

@[simp] private theorem history_showEntry (prompt : Prompt) (index : Nat) :
    (prompt.showEntry index).history = prompt.history := by
  unfold showEntry
  split <;> rfl

@[simp] private theorem history_recallPrevious (prompt : Prompt) :
    prompt.recallPrevious.history = prompt.history := by
  unfold recallPrevious
  split <;> exact history_showEntry ..

@[simp] private theorem history_recallNext (prompt : Prompt) :
    prompt.recallNext.history = prompt.history := by
  unfold recallNext
  split
  · rfl
  · split
    · exact history_showEntry ..
    · rfl

private theorem enters_press (prompt : Prompt) (key : Key) (held : Modifiers) :
    Enters (Session.executed (Input.moves prompt (.key key held))) prompt
      (prompt.press key held) := by
  cases key with
  | char c =>
    rw [Input.moves_char, press_char]
    -- Neither a character nor the end of all work is a line.
    split <;> split <;> exact .none rfl
  | enter =>
    have entered := enters_submit prompt
    rwa [← Session.executed_map_execute prompt.submit.1.toList] at entered
  | up => exact .none (history_recallPrevious prompt)
  | down => exact .none (history_recallNext prompt)
  | _ => exact .none rfl

/-- What the prompt remembers of an input is what the input has the session run. -/
theorem enters_handle (prompt : Prompt) (input : Input) :
    Enters (Session.executed (input.moves prompt)) prompt (prompt.handle input) := by
  cases input with
  | key key held => exact enters_press prompt key held
  | paste text =>
    have pasted := enters_paste prompt text
    rwa [← Session.executed_map_execute (prompt.paste text).1] at pasted
  | _ => exact .none rfl

theorem enters_foldl_handle (prompt : Prompt) (inputs : List Input) :
    Enters (Session.executed (Console.tape prompt inputs)) prompt
      (inputs.foldl handle prompt) := by
  induction inputs generalizing prompt with
  | nil => exact .none rfl
  | cons input rest ih =>
    rw [Console.tape, Session.executed_append]
    exact (enters_handle prompt input).trans (ih (prompt.handle input))

end Prompt

namespace Console

/-- After any run, the history lists the lines that the session was given to run, in order and each
without blanks at its ends, and the session has counted as many. The console shows the answers to
the same lines: the moves are the cues of the run but for the echoes, and following the cues leads
to the session and the output of the console. -/
theorem history_eq_executed {start : Cluster} {showHint : Bool} {inputs : List Input}
    {console : Console}
    (handled : (ofSession (.ofCluster start) showHint).handleAll inputs = .ok console) :
    (∃ responses, (Session.ofCluster start).play (tape .new inputs) =
        .ok (responses, console.session)) ∧
      tape .new inputs = (script .new inputs).filterMap Cue.move? ∧
      Cue.perform keep (.ofCluster start, welcome) (script .new inputs) =
        .ok (console.session, console.output) ∧
      console.prompt.history = Session.executed (tape .new inputs) ∧
      console.session.commandsRun.toNat = console.prompt.history.length ∧
      ∀ line ∈ console.prompt.history, Text.IsTight line := by
  obtain ⟨followed, responses, played⟩ := play_tape_of_handleAll handled
  have entered := Prompt.enters_foldl_handle .new inputs
  have listed : console.prompt.history = Session.executed (tape .new inputs) :=
    (congrArg Prompt.history followed).trans entered.history
  refine ⟨⟨responses, played⟩, tape_eq_filterMap_script .new inputs, perform_handleAll handled,
    listed, ?_, ?_⟩
  · rw [listed, ← Session.commandCount_eq_length entered.tight]
    exact Session.commandsRun_of_play played
  · rw [listed]
    exact entered.tight

/-- Lines are typed with blanks around them, recalled, pasted and left blank. Three are run. -/
theorem history_eq_executed_threeWays :
    ∃ console, (ofSession (.ofCluster .scenario) true).handleAll
        [.key (.char ' ') .none, .paste "kubectl get pods", .key (.char ' ') .none,
          .key .enter .none, .key .enter .none, .tick (.ofMillis 100), .key .up .none,
          .key .enter .none, .paste "\u3000clear \r\n \r\nhel", .key .backspace .none] =
        .ok console ∧
      console.prompt.history = ["kubectl get pods", "kubectl get pods", "clear"] ∧
      console.session.commandsRun.toNat = 3 := by
  obtain ⟨console, handled, _⟩ := map_eq_ok_iff.mp
    (show ((ofSession (.ofCluster .scenario) true).handleAll
        [.key (.char ' ') .none, .paste "kubectl get pods", .key (.char ' ') .none,
          .key .enter .none, .key .enter .none, .tick (.ofMillis 100), .key .up .none,
          .key .enter .none, .paste "\u3000clear \r\n \r\nhel", .key .backspace .none]).map
        (·.prompt.text) = .ok "he" by decide +kernel)
  obtain ⟨_, _, _, listed, counted, _⟩ := history_eq_executed handled
  have lines : console.prompt.history = ["kubectl get pods", "kubectl get pods", "clear"] := by
    rw [listed]
    decide +kernel
  refine ⟨console, handled, lines, ?_⟩
  rw [counted, lines]
  rfl

end Console

end KubeSim
