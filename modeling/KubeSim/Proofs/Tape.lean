import KubeSim.Console
import KubeSim.Proofs.Run

/-! # A console plays its session along a tape

What reaches a console are keys, pasted text and the passing of time. Its prompt depends on these
alone, and not on the session: `Prompt.handle` follows it. So the moves that a sequence of inputs
makes in the session can be written down beforehand, as the `Console.tape` of the inputs. The main
statement, `Console.core_handleAll`, says that handling inputs is playing the session along their
tape: the one fails when the other does, and both end in the same session. Every fact about the runs
of a session is thereby one about the runs of a console.
-/

namespace KubeSim

/-- What reaches a console from outside. -/
inductive Input where
  | key (key : Key) (held : Modifiers)
  | paste (text : String)
  | tick (elapsed : Duration)
  | quit
  | shutdown
deriving DecidableEq

namespace Prompt

def press (prompt : Prompt) (key : Key) (held : Modifiers) : Prompt :=
  match key with
  | .char c => if held.control ∨ held.alt then prompt else prompt.push c
  | .enter => prompt.submit.2
  | .backspace => prompt.backspace.2
  | .up => prompt.recallPrevious
  | .down => prompt.recallNext
  | _ => prompt

theorem press_char (prompt : Prompt) (c : Char) (held : Modifiers) :
    prompt.press (.char c) held = if held.control ∨ held.alt then prompt else prompt.push c := rfl

def handle (prompt : Prompt) : Input → Prompt
  | .key key held => prompt.press key held
  | .paste text => (prompt.paste text).2
  | _ => prompt

end Prompt

/-- The moves that an input makes in the session of a console with this prompt. -/
def Input.moves (prompt : Prompt) : Input → List Move
  | .key (.char c) held => if c = 'c' ∧ held.control then [.shutdown] else []
  | .key .enter _ => prompt.submit.1.toList.map .execute
  | .key .escape _ => [.shutdown]
  | .key _ _ => []
  | .paste text => (prompt.paste text).1.map .execute
  | .tick elapsed => [.advance elapsed]
  | .quit => [.shutdown]
  | .shutdown => [.shutdown]

theorem Input.moves_char (prompt : Prompt) (c : Char) (held : Modifiers) :
    Input.moves prompt (.key (.char c) held) =
      if c = 'c' ∧ held.control then [.shutdown] else [] := rfl

namespace Console

theorem press_char (console : Console) (c : Char) (held : Modifiers) :
    console.press (.char c) held =
      if c = 'c' ∧ held.control then .ok console.quit
      else if held.control ∨ held.alt then .ok console
      else .ok { console with prompt := console.prompt.push c } := rfl

def handle (console : Console) : Input → Except Overflow Console
  | .key key held => console.press key held
  | .paste text => console.paste text
  | .tick elapsed => console.tick elapsed
  | .quit => .ok console.quit
  | .shutdown => .ok console.shutdown

def handleAll (console : Console) (inputs : List Input) : Except Overflow Console :=
  inputs.foldlM handle console

/-- The moves that inputs make in the session of a console that starts with this prompt. -/
def tape (prompt : Prompt) : List Input → List Move
  | [] => []
  | input :: rest => input.moves prompt ++ tape (prompt.handle input) rest

theorem tape_append (prompt : Prompt) (first second : List Input) :
    tape prompt (first ++ second) =
      tape prompt first ++ tape (first.foldl Prompt.handle prompt) second := by
  induction first generalizing prompt with
  | nil => rfl
  | cons input rest ih => simp only [List.cons_append, tape, ih, List.foldl_cons, List.append_assoc]

def core (console : Console) : Session × Prompt := (console.session, console.prompt)

-- By unfolding alone the two sides are not compared in reasonable time: the output comes first.
@[simp] private theorem session_print (console : Console) (lines : List String) :
    (console.print lines).session = console.session := by simp only [print]

@[simp] private theorem prompt_print (console : Console) (lines : List String) :
    (console.print lines).prompt = console.prompt := by simp only [print]

@[simp] private theorem session_echo (console : Console) (typed : String) :
    (console.echo typed).session = console.session := session_print ..

@[simp] private theorem prompt_echo (console : Console) (typed : String) :
    (console.echo typed).prompt = console.prompt := prompt_print ..

private theorem core_submit (console : Console) (line : String) :
    (console.submit line).map core =
      (console.session.play [.execute line]).map fun run => (run.2, console.prompt) := by
  simp only [submit, Session.play, Session.move, bind, Except.bind, pure, Except.pure]
  cases console.session.execute line <;> simp [core, Except.map]

private theorem core_foldlM_submit (console : Console) (lines : List String) :
    (lines.foldlM (fun (next : Console) line => (next.echo line).submit line) console).map core =
      (console.session.play (lines.map .execute)).map fun run => (run.2, console.prompt) := by
  induction lines generalizing console with
  | nil => rfl
  | cons line rest ih =>
    rw [List.foldlM_cons, List.map_cons, ← List.singleton_append, Session.play_append]
    have submitted := core_submit (console.echo line) line
    rw [session_echo, prompt_echo] at submitted
    refine map_bind_congr submitted fun next run _ _ same => ?_
    obtain ⟨session, prompt⟩ := Prod.mk.inj same
    rw [ih next, session, prompt]
    simp only [bind, Except.bind, pure, Except.pure]
    cases run.2.play (rest.map .execute) <;> rfl

private theorem core_enter (console : Console) :
    console.enter.map core =
      (console.session.play (console.prompt.submit.1.toList.map .execute)).map
        fun run => (run.2, console.prompt.submit.2) := by
  unfold enter
  cases console.prompt.submit with
  | mk entered prompt =>
    cases entered with
    | none => simp [core, echo, Session.play, Except.map]
    | some line =>
      simpa only [session_echo, Option.toList_some, List.map_cons, List.map_nil] using
        core_submit { console.echo console.prompt.text with prompt } line

private theorem core_press (console : Console) (key : Key) (held : Modifiers) :
    (console.press key held).map core =
      (console.session.play (Input.moves console.prompt (.key key held))).map
        fun run => (run.2, console.prompt.press key held) := by
  cases key with
  | char c =>
    rw [press_char, Prompt.press_char, Input.moves_char]
    by_cases stops : c = 'c' ∧ held.control = true
    · simp only [stops, and_self, true_or, ↓reduceIte]
      rfl
    · by_cases ignored : held.control = true ∨ held.alt = true <;>
        simp only [stops, ignored, ↓reduceIte] <;> rfl
  | enter => exact core_enter console
  | function number =>
    -- Only the first of these keys does anything.
    rcases number with _ | _ | number <;> rfl
  | _ => rfl

theorem core_handle (console : Console) (input : Input) :
    (console.handle input).map core =
      (console.session.play (input.moves console.prompt)).map
        fun run => (run.2, console.prompt.handle input) := by
  cases input with
  | key key held => exact core_press console key held
  | paste text => exact core_foldlM_submit { console with prompt := (console.prompt.paste text).2 } _
  | tick elapsed =>
    change (console.tick elapsed).map core =
      (console.session.play [.advance elapsed]).map fun run => (run.2, console.prompt)
    simp only [tick, Session.play, Session.move, bind, Except.bind, pure, Except.pure]
    cases console.session.advance elapsed <;> rfl
  | quit => rfl
  | shutdown => rfl

theorem core_handleAll (console : Console) (inputs : List Input) :
    (console.handleAll inputs).map core =
      (console.session.play (tape console.prompt inputs)).map
        fun run => (run.2, inputs.foldl Prompt.handle console.prompt) := by
  induction inputs generalizing console with
  | nil => rfl
  | cons input rest ih =>
    rw [handleAll, List.foldlM_cons, tape, Session.play_append]
    refine map_bind_congr (core_handle console input) fun next run _ _ same => ?_
    obtain ⟨session, prompt⟩ := Prod.mk.inj same
    rw [← handleAll, ih next, session, prompt]
    simp only [bind, Except.bind, pure, Except.pure]
    cases run.2.play (tape (console.prompt.handle input) rest) <;> rfl

/-- A run of a console is a run of its session. -/
theorem play_tape_of_handleAll {console after : Console} {inputs : List Input}
    (handled : console.handleAll inputs = .ok after) :
    after.prompt = inputs.foldl Prompt.handle console.prompt ∧
      ∃ responses, console.session.play (tape console.prompt inputs) =
        .ok (responses, after.session) := by
  have same := core_handleAll console inputs
  rw [handled] at same
  obtain ⟨⟨responses, session⟩, played, read⟩ := map_eq_ok_iff.mp same.symm
  obtain ⟨rfl, prompt⟩ := Prod.mk.inj read
  exact ⟨prompt.symm, responses, played⟩

/-- A console does not fail where its session does not. -/
theorem handleAll_of_play_tape {console : Console} {inputs : List Input}
    {responses : List Response} {session : Session}
    (played : console.session.play (tape console.prompt inputs) = .ok (responses, session)) :
    ∃ last, console.handleAll inputs = .ok last ∧ last.session = session := by
  have same := core_handleAll console inputs
  rw [played] at same
  obtain ⟨last, handled, read⟩ := map_eq_ok_iff.mp same
  exact ⟨last, handled, (Prod.mk.inj read).1⟩

/-! ## What the screen keeps -/

theorem submit_eq_ok_iff {console after : Console} {line : String} :
    console.submit line = .ok after ↔
      ∃ response session, console.session.execute line = .ok (response, session) ∧
        after = { console with
          session
          output := if response.clearScreen then [] else console.output }.print response.lines := by
  simp only [submit, bind_eq_ok_iff, Prod.exists, pure, Except.pure, Except.ok.injEq,
    eq_comm (a := after)]

theorem length_keep_le (output lines : List String) : (keep output lines).length ≤ scrollback := by
  rw [keep, List.length_drop]
  omega

/-- Where the output is within its bound, showing nothing changes nothing. -/
theorem keep_nil {output : List String} (bounded : output.length ≤ scrollback) :
    keep output [] = output := by
  simp [keep, Nat.sub_eq_zero_of_le bounded]

/-- What no input undoes: a console that was quit does not run again, and its output stays within its
bound. -/
structure Frame (before after : Console) : Prop where
  stopped : before.running = false → after.running = false
  bounded : before.output.length ≤ scrollback → after.output.length ≤ scrollback

variable {console after : Console}

theorem Frame.refl (console : Console) : Frame console console := ⟨id, id⟩

theorem Frame.trans {middle : Console} (first : Frame console middle) (second : Frame middle after) :
    Frame console after := ⟨second.stopped ∘ first.stopped, second.bounded ∘ first.bounded⟩

/-- Whatever was shown before, lines that are shown leave the output within its bound. -/
private theorem frame_print {shown : Console}
    (stopped : console.running = false → shown.running = false)
    (lines : List String) : Frame console (shown.print lines) := by
  constructor <;> simp only [print]
  · exact stopped
  · exact fun _ => length_keep_le shown.output lines

private theorem frame_submit {line : String} (submitted : console.submit line = .ok after) :
    Frame console after := by
  obtain ⟨response, session, _, rfl⟩ := submit_eq_ok_iff.mp submitted
  apply frame_print
  exact id

private theorem frame_echo (console : Console) (typed : String) :
    Frame console (console.echo typed) := by
  rw [echo]
  apply frame_print
  exact id

private theorem frame_enter (entered : console.enter = .ok after) : Frame console after := by
  have echoed := frame_echo console console.prompt.text
  simp only [enter] at entered
  generalize console.echo console.prompt.text = shown at echoed entered
  split at entered
  · cases entered
    exact ⟨echoed.stopped, echoed.bounded⟩
  · have submitted := frame_submit entered
    exact ⟨submitted.stopped ∘ echoed.stopped, submitted.bounded ∘ echoed.bounded⟩

private theorem frame_press {key : Key} {held : Modifiers}
    (pressed : console.press key held = .ok after) :
    Frame console after := by
  cases key with
  | char c =>
    rw [press_char] at pressed
    split at pressed
    · cases pressed
      exact ⟨fun _ => rfl, id⟩
    · split at pressed <;> cases pressed <;> exact ⟨id, id⟩
  | escape =>
    cases pressed
    exact ⟨fun _ => rfl, id⟩
  | enter => exact frame_enter pressed
  | function number =>
    rcases number with _ | _ | number <;> cases pressed <;> exact ⟨id, id⟩
  | _ =>
    cases pressed
    exact ⟨id, id⟩

theorem frame_handle {input : Input} (handled : console.handle input = .ok after) :
    Frame console after := by
  cases input with
  | key key held => exact frame_press handled
  | paste text =>
    simp only [handle, Console.paste] at handled
    have typed : Frame console { console with prompt := (console.prompt.paste text).2 } := ⟨id, id⟩
    refine foldlM_keeps (Frame console) (fun reached step => ?_) typed handled
    exact reached.trans ((frame_echo ..).trans (frame_submit step))
  | tick elapsed =>
    simp only [handle, tick, bind_eq_ok_iff, Prod.exists, pure, Except.pure,
      Except.ok.injEq] at handled
    obtain ⟨lines, session, _, rfl⟩ := handled
    apply frame_print
    exact id
  | quit =>
    cases handled
    exact ⟨fun _ => rfl, id⟩
  | shutdown =>
    cases handled
    exact ⟨id, id⟩

theorem frame_handleAll {inputs : List Input} (handled : console.handleAll inputs = .ok after) :
    Frame console after :=
  foldlM_keeps (Frame console) (fun reached step => reached.trans (frame_handle step))
    (.refl console) handled

end Console

end KubeSim
