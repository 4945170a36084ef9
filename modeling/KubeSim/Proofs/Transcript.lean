import KubeSim.Proofs.Tape
import Mathlib.Data.List.DropRight

/-! # The output is the end of a transcript

What a console shows can be written down without the console. The inputs give cues: to echo a line,
to run one, to let time pass, to shut down. `Cue.play` follows a cue with a session and the lines
shown so far, and is told how lines are put below others. Where the newest are kept, this is what a
console does (`Console.perform_handleAll`). Where all are kept, it gives the transcript of the run,
which nothing is ever cut from: it starts with the welcome, grows by every line shown, and starts
over where the screen is wiped. The main statement, `Console.output_eq_rtake_transcript`, says that
the output is the end of the transcript.
-/

namespace KubeSim

/-- What an input makes a console do, one thing after the other. -/
inductive Cue where
  | echo (typed : String)
  | execute (line : String)
  | advance (elapsed : Duration)
  | shutdown
deriving DecidableEq

/-- The cues for a line that is echoed and run. -/
def Cue.ofLine (line : String) : List Cue := [.echo line, .execute line]

def Input.cues (prompt : Prompt) : Input → List Cue
  | .key (.char c) held => if c = 'c' ∧ held.control then [.shutdown] else []
  | .key .enter _ => .echo prompt.text :: prompt.submit.1.toList.map .execute
  | .key .escape _ => [.shutdown]
  | .key _ _ => []
  | .paste text => (prompt.paste text).1.flatMap Cue.ofLine
  | .tick elapsed => [.advance elapsed]
  | .quit => [.shutdown]
  | .shutdown => [.shutdown]

theorem Input.cues_char (prompt : Prompt) (c : Char) (held : Modifiers) :
    Input.cues prompt (.key (.char c) held) =
      if c = 'c' ∧ held.control then [.shutdown] else [] := rfl

theorem Input.cues_enter (prompt : Prompt) (held : Modifiers) :
    Input.cues prompt (.key .enter held) =
      .echo prompt.text :: prompt.submit.1.toList.map .execute := rfl

theorem Input.cues_paste (prompt : Prompt) (text : String) :
    Input.cues prompt (.paste text) = (prompt.paste text).1.flatMap Cue.ofLine := rfl

theorem Input.cues_tick (prompt : Prompt) (elapsed : Duration) :
    Input.cues prompt (.tick elapsed) = [.advance elapsed] := rfl

/-- The cues that inputs give a console that starts with this prompt. -/
def Console.script (prompt : Prompt) : List Input → List Cue
  | [] => []
  | input :: rest => input.cues prompt ++ script (prompt.handle input) rest

/-- The move that a cue makes in the session. An echo makes none. -/
def Cue.move? : Cue → Option Move
  | .echo _ => none
  | .execute line => some (.execute line)
  | .advance elapsed => some (.advance elapsed)
  | .shutdown => some .shutdown

private theorem Cue.filterMap_move?_execute (lines : List String) :
    (lines.map Cue.execute).filterMap Cue.move? = lines.map .execute := by
  rw [List.filterMap_map]
  exact congrFun List.filterMap_eq_map lines

private theorem Cue.filterMap_move?_ofLine (lines : List String) :
    (lines.flatMap Cue.ofLine).filterMap Cue.move? = lines.map .execute := by
  induction lines with
  | nil => rfl
  | cons line rest ih =>
    rw [List.flatMap_cons, List.filterMap_append, ih]
    rfl

/-- The moves of an input are its cues but for the echoes. -/
theorem Input.moves_eq_filterMap_cues (prompt : Prompt) (input : Input) :
    input.moves prompt = (input.cues prompt).filterMap Cue.move? := by
  cases input with
  | key key held =>
    cases key with
    | char c =>
      rw [Input.moves_char, Input.cues_char]
      split <;> rfl
    | enter =>
      rw [Input.cues_enter, List.filterMap_cons_none rfl]
      exact (Cue.filterMap_move?_execute _).symm
    | _ => rfl
  | paste text => exact (Cue.filterMap_move?_ofLine _).symm
  | _ => rfl

/-- The tape of inputs is their script but for the echoes. -/
theorem Console.tape_eq_filterMap_script (prompt : Prompt) (inputs : List Input) :
    tape prompt inputs = (script prompt inputs).filterMap Cue.move? := by
  induction inputs generalizing prompt with
  | nil => rfl
  | cons input rest ih =>
    rw [tape, script, List.filterMap_append, ih, Input.moves_eq_filterMap_cues]

namespace Cue

/-- Follows a cue. A session goes on, and lines are put below those shown so far, which `keep` does.
A response that wipes the screen leaves nothing above its own lines. -/
def play (keep : List String → List String → List String) (stage : Session × List String) :
    Cue → Except Overflow (Session × List String)
  | .echo typed => .ok (stage.1, keep stage.2 [promptMark ++ typed])
  | .execute line => do
    let (response, session) ← stage.1.execute line
    return (session, keep (if response.clearScreen then [] else stage.2) response.lines)
  | .advance elapsed => do
    let (lines, session) ← stage.1.advance elapsed
    return (session, keep stage.2 lines)
  | .shutdown => .ok (stage.1.shutdown, stage.2)

def perform (keep : List String → List String → List String) (stage : Session × List String)
    (cues : List Cue) : Except Overflow (Session × List String) :=
  cues.foldlM (play keep) stage

variable {keep : List String → List String → List String} {stage : Session × List String}

@[simp] theorem perform_nil : perform keep stage [] = .ok stage := rfl

theorem perform_cons (cue : Cue) (rest : List Cue) :
    perform keep stage (cue :: rest) = play keep stage cue >>= (perform keep · rest) :=
  List.foldlM_cons

theorem perform_append (first second : List Cue) :
    perform keep stage (first ++ second) = perform keep stage first >>= (perform keep · second) :=
  List.foldlM_append

@[simp] theorem perform_singleton (cue : Cue) : perform keep stage [cue] = play keep stage cue := by
  rw [perform_cons]
  cases play keep stage cue <;> rfl

end Cue

/-- Everything that is shown in a run from a cluster. -/
def transcript (start : Cluster) (inputs : List Input) : Except Overflow (List String) :=
  (Cue.perform (· ++ ·) (.ofCluster start, welcome) (Console.script .new inputs)).map (·.2)

namespace Console

def stage (console : Console) : Session × List String := (console.session, console.output)

variable {console after : Console}

private theorem play_echo (typed : String) :
    Cue.play keep console.stage (.echo typed) = .ok (console.echo typed).stage := by
  simp only [Cue.play, stage, echo, print]

private theorem play_execute {line : String} (submitted : console.submit line = .ok after) :
    Cue.play keep console.stage (.execute line) = .ok after.stage := by
  obtain ⟨response, session, executed, rfl⟩ := submit_eq_ok_iff.mp submitted
  simp only [Cue.play, stage, executed, print, bind, Except.bind, pure, Except.pure]

private theorem perform_ofLine {line : String}
    (submitted : (console.echo line).submit line = .ok after) :
    Cue.perform keep console.stage (Cue.ofLine line) = .ok after.stage := by
  rw [Cue.ofLine, Cue.perform_cons, bind_eq_ok_iff]
  exact ⟨_, play_echo line, by rw [Cue.perform_singleton, play_execute submitted]⟩

private theorem perform_enter (entered : console.enter = .ok after) :
    Cue.perform keep console.stage (Input.cues console.prompt (.key .enter .none)) =
      .ok after.stage := by
  rw [Input.cues_enter, Cue.perform_cons, bind_eq_ok_iff]
  refine ⟨_, play_echo console.prompt.text, ?_⟩
  unfold enter at entered
  generalize console.echo console.prompt.text = echoed at entered ⊢
  cases submitted : console.prompt.submit with
  | mk line prompt =>
    rw [submitted] at entered
    cases line with
    | none =>
      cases entered
      rfl
    | some line =>
      have ran : Cue.play keep { echoed with prompt }.stage (.execute line) = .ok after.stage :=
        play_execute entered
      exact (Cue.perform_singleton _).trans ran

private theorem perform_press {key : Key} {held : Modifiers}
    (pressed : console.press key held = .ok after) :
    Cue.perform keep console.stage (Input.cues console.prompt (.key key held)) = .ok after.stage := by
  cases key with
  | char c =>
    rw [press_char] at pressed
    rw [Input.cues_char]
    split at pressed
    · next stops =>
      cases pressed
      rw [if_pos stops]
      rfl
    · next goesOn =>
      rw [if_neg goesOn]
      split at pressed <;> cases pressed <;> rfl
  | enter => exact perform_enter pressed
  | function number =>
    rcases number with _ | _ | number <;> cases pressed <;> rfl
  | _ =>
    cases pressed
    rfl

private theorem perform_lines {lines : List String}
    (ran : lines.foldlM (fun (next : Console) line => (next.echo line).submit line) console =
      .ok after) :
    Cue.perform keep console.stage (lines.flatMap Cue.ofLine) = .ok after.stage := by
  induction lines generalizing console with
  | nil =>
    cases ran
    rfl
  | cons line rest ih =>
    rw [List.foldlM_cons, bind_eq_ok_iff] at ran
    obtain ⟨middle, submitted, continued⟩ := ran
    rw [List.flatMap_cons, Cue.perform_append, bind_eq_ok_iff]
    exact ⟨middle.stage, perform_ofLine submitted, ih continued⟩

theorem perform_handle {input : Input} (handled : console.handle input = .ok after) :
    Cue.perform keep console.stage (input.cues console.prompt) = .ok after.stage := by
  cases input with
  | key key held => exact perform_press handled
  | paste text =>
    have performed : Cue.perform keep { console with prompt := (console.prompt.paste text).2 }.stage
        ((console.prompt.paste text).1.flatMap Cue.ofLine) = .ok after.stage := perform_lines handled
    exact performed
  | tick elapsed =>
    simp only [handle, tick, bind_eq_ok_iff, Prod.exists, pure, Except.pure,
      Except.ok.injEq] at handled
    obtain ⟨lines, session, advanced, rfl⟩ := handled
    simp only [Input.cues_tick, Cue.perform_singleton, Cue.play, stage, advanced, print, bind,
      Except.bind, pure, Except.pure]
  | quit =>
    cases handled
    rfl
  | shutdown =>
    cases handled
    rfl

theorem prompt_handle {input : Input} (handled : console.handle input = .ok after) :
    after.prompt = console.prompt.handle input := by
  have same := core_handle console input
  rw [handled] at same
  obtain ⟨run, _, read⟩ := map_eq_ok_iff.mp same.symm
  exact (Prod.mk.inj read).2.symm

/-- A console shows what its inputs give the cues for. -/
theorem perform_handleAll {inputs : List Input} (handled : console.handleAll inputs = .ok after) :
    Cue.perform keep console.stage (script console.prompt inputs) = .ok after.stage := by
  induction inputs generalizing console with
  | nil =>
    cases handled
    rfl
  | cons input rest ih =>
    rw [handleAll, List.foldlM_cons, bind_eq_ok_iff] at handled
    obtain ⟨middle, first, others⟩ := handled
    rw [script, Cue.perform_append, bind_eq_ok_iff]
    refine ⟨middle.stage, perform_handle first, ?_⟩
    rw [← prompt_handle first]
    exact ih others

/-! ## Keeping the newest lines -/

private theorem keep_eq_rtake (output lines : List String) :
    keep output lines = (output ++ lines).rtake scrollback := rfl

/-- The newest lines can be taken before more are shown. -/
private theorem rtake_append_rtake {α : Type} (count : Nat) (shown lines : List α) :
    (shown.rtake count ++ lines).rtake count = (shown ++ lines).rtake count := by
  have cut : shown.rtake count ++ lines = (shown ++ lines).drop (shown.length - count) :=
    (List.drop_append_of_le_length (Nat.sub_le _ _)).symm
  rw [List.rtake, cut, List.rtake, List.drop_drop, List.length_drop, List.length_append]
  congr 1
  omega

private theorem play_rtake (session : Session) (shown : List String) (cue : Cue) :
    Cue.play keep (session, shown.rtake scrollback) cue =
      (Cue.play (· ++ ·) (session, shown) cue).map fun stage =>
        (stage.1, stage.2.rtake scrollback) := by
  cases cue with
  | echo typed => simp [Cue.play, keep_eq_rtake, rtake_append_rtake, Except.map]
  | execute line =>
    simp only [Cue.play, bind, Except.bind, pure, Except.pure, keep_eq_rtake]
    cases session.execute line with
    | error failure => rfl
    | ok run =>
      cases wipes : run.1.clearScreen <;>
        simp only [wipes, Bool.false_eq_true, ↓reduceIte, rtake_append_rtake, Except.map]
  | advance elapsed =>
    simp only [Cue.play, bind, Except.bind, pure, Except.pure, keep_eq_rtake, rtake_append_rtake]
    cases session.advance elapsed <;> rfl
  | shutdown => simp only [Cue.play, Except.map]

theorem perform_rtake (session : Session) (shown : List String) (cues : List Cue) :
    Cue.perform keep (session, shown.rtake scrollback) cues =
      (Cue.perform (· ++ ·) (session, shown) cues).map fun stage =>
        (stage.1, stage.2.rtake scrollback) := by
  induction cues generalizing session shown with
  | nil => rfl
  | cons cue rest ih =>
    simp only [Cue.perform_cons, play_rtake, bind, Except.bind]
    cases Cue.play (· ++ ·) (session, shown) cue with
    | error failure => rfl
    | ok stage => exact ih stage.1 stage.2

/-- After any run, the output is the end of the transcript: its last 500 lines, or all of a shorter
one. -/
theorem output_eq_rtake_transcript {start : Cluster} {showHint : Bool} {inputs : List Input}
    {console : Console}
    (handled : (ofSession (.ofCluster start) showHint).handleAll inputs = .ok console) :
    ∃ shown, transcript start inputs = .ok shown ∧
      console.output = shown.rtake (min 500 shown.length) ∧
      console.output.length = min 500 shown.length ∧ console.output <:+ shown := by
  have performed := perform_handleAll handled
  have fresh : (ofSession (.ofCluster start) showHint).stage =
      (.ofCluster start, welcome.rtake scrollback) := rfl
  rw [fresh, perform_rtake] at performed
  obtain ⟨⟨session, shown⟩, performed, same⟩ := map_eq_ok_iff.mp performed
  obtain ⟨_, output⟩ := Prod.mk.inj same
  have newest : console.output = shown.drop (shown.length - 500) := output.symm
  refine ⟨shown, ?_, ?_, ?_, ?_⟩
  · rw [transcript]
    exact map_eq_ok_iff.mpr ⟨_, performed, rfl⟩
  · have count : shown.length - 500 = shown.length - min 500 shown.length := by omega
    rw [newest, count, List.rtake]
  · rw [newest, List.length_drop]
    omega
  · rw [newest]
    exact List.drop_suffix _ _

/-- A cluster with a pod that has more to say than a screen keeps. -/
def noisy : Cluster :=
  .ofResources [.crashLooping "noisy-0" "10.0.0.1" 0 (.replicate 600 "tick")] [] []

/-- The first answer is longer than what is kept. After the screen is wiped, all of the rest is. -/
theorem output_eq_rtake_transcript_noisy :
    (∃ console shown,
      (ofSession (.ofCluster noisy) false).handleAll [.paste "kubectl logs noisy\n"] = .ok console ∧
      transcript noisy [.paste "kubectl logs noisy\n"] = .ok shown ∧ shown.length = 605 ∧
      console.output = shown.rtake 500) ∧
    ∃ console shown,
      (ofSession (.ofCluster noisy) false).handleAll
        [.paste "kubectl logs noisy\nclear\nhelp\n", .tick (.ofMillis 100)] = .ok console ∧
      transcript noisy [.paste "kubectl logs noisy\nclear\nhelp\n", .tick (.ofMillis 100)] =
        .ok shown ∧ shown.length = 8 ∧ console.output = shown.rtake 8 := by
  constructor
  · obtain ⟨console, handled, _⟩ := map_eq_ok_iff.mp
      (show ((ofSession (.ofCluster noisy) false).handleAll [.paste "kubectl logs noisy\n"]).map
          (·.output.length) = .ok 500 by decide +kernel)
    obtain ⟨shown, written, length⟩ := map_eq_ok_iff.mp
      (show (transcript noisy [.paste "kubectl logs noisy\n"]).map (·.length) = .ok 605 by
        decide +kernel)
    obtain ⟨_, same, newest, _⟩ := output_eq_rtake_transcript handled
    cases written.symm.trans same
    rw [length] at newest
    exact ⟨console, shown, handled, written, length, newest⟩
  · obtain ⟨console, handled, _⟩ := map_eq_ok_iff.mp
      (show ((ofSession (.ofCluster noisy) false).handleAll
          [.paste "kubectl logs noisy\nclear\nhelp\n", .tick (.ofMillis 100)]).map
          (·.output.length) = .ok 8 by decide +kernel)
    obtain ⟨shown, written, length⟩ := map_eq_ok_iff.mp
      (show (transcript noisy
          [.paste "kubectl logs noisy\nclear\nhelp\n", .tick (.ofMillis 100)]).map (·.length) =
        .ok 8 by decide +kernel)
    obtain ⟨_, same, newest, _⟩ := output_eq_rtake_transcript handled
    cases written.symm.trans same
    rw [length] at newest
    exact ⟨console, shown, handled, written, length, newest⟩

end Console

end KubeSim
