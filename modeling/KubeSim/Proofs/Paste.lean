import KubeSim.Proofs.Transcript

/-! # Pasting is typing

A text can be struck on the keyboard instead of being pasted: a line break enters the line, and any
other character is typed. `Prompt.strikeAll` reads a text that way. It completes the same lines as
`Prompt.paste` and leaves the same text and history; a carriage return before a line feed enters one
blank line more, which is dropped (`Prompt.paste_eq_strikeAll`). So both ways play the session along
the same tape. The output may differ, since a line that is typed is echoed as it stands and a pasted
one is trimmed first: `Console.paste_eq_typing` says that it does not where every line is tight.
-/

namespace KubeSim

/-- Some characters, of which the first and the last are no blanks. -/
structure Text.IsTight (text : String) : Prop where
  start : ∃ c ∈ text.toList.head?, isBlank c = false
  stop : ∃ c ∈ text.toList.getLast?, isBlank c = false

/-- There is nothing to trim. -/
theorem Text.IsTight.trim_eq {text : String} (tight : IsTight text) : trim text = text := by
  obtain ⟨⟨first, isFirst, solidFirst⟩, ⟨last, isLast, solidLast⟩⟩ := tight
  have start : trimStart text.toList = text.toList := by
    obtain ⟨rest, chars⟩ := List.head?_eq_some_iff.mp isFirst
    simp [trimStart, chars, solidFirst]
  have stop : trimEnd text.toList = text.toList := by
    obtain ⟨front, chars⟩ := List.getLast?_eq_some_iff.mp isLast
    simp [trimEnd, chars, solidLast]
  rw [trim, start, stop, String.ofList_toList]

theorem Text.isTight_iff {text : String} : IsTight text ↔
    text.toList.head?.any (!isBlank ·) = true ∧ text.toList.getLast?.any (!isBlank ·) = true := by
  simp only [Option.any_eq_true, Bool.not_eq_true']
  exact ⟨fun tight => ⟨tight.start, tight.stop⟩, fun ⟨start, stop⟩ => ⟨start, stop⟩⟩

instance (text : String) : Decidable (Text.IsTight text) := decidable_of_iff' _ Text.isTight_iff

theorem Text.IsTight.ne_empty {text : String} (tight : IsTight text) : text ≠ "" := by
  rintro rfl
  obtain ⟨⟨first, isFirst, _⟩, _⟩ := tight
  cases isFirst

/-- The key that a character of a text is struck with. -/
def Key.ofChar (c : Char) : Key := if c = '\n' ∨ c = '\r' then .enter else .char c

def Key.ofText (text : String) : List Key := text.toList.map ofChar

namespace Prompt

/-- Strikes the key of a character, and returns the line that this enters. -/
def strike (prompt : Prompt) (c : Char) : Option String × Prompt :=
  if c = '\n' ∨ c = '\r' then prompt.submit else (none, prompt.push c)

/-- Strikes the keys of characters, and returns the lines that this enters. -/
def strikeAll (prompt : Prompt) : List Char → List String × Prompt
  | [] => ([], prompt)
  | c :: rest =>
    let (line, next) := prompt.strike c
    let (lines, last) := next.strikeAll rest
    (line.toList ++ lines, last)

def unrecalled (prompt : Prompt) : Prompt := { prompt with recalled := none }

@[simp] theorem text_unrecalled (prompt : Prompt) : prompt.unrecalled.text = prompt.text := rfl

@[simp] theorem history_unrecalled (prompt : Prompt) :
    prompt.unrecalled.history = prompt.history := rfl

/-- The lines that characters without carriage returns complete. The first one continues what is
typed already. -/
def completed (prompt : Prompt) (cs : List Char) : List String :=
  (((cs.splitOn '\n').modifyHead (prompt.text.toList ++ ·)).dropLast).map String.ofList

/-! ## Fragments and keys -/

theorem fragments_ne_nil (cs : List Char) : fragments cs ≠ [] := by
  fun_cases fragments cs <;> simp_all

/-- Continues the line with the first fragment, and enters it once for each other one. -/
def resume (prompt : Prompt) : List (List Char) → List String × Prompt
  | [] => ([], prompt)
  | first :: others => { prompt with text := prompt.text ++ String.ofList first }.enterAll others

theorem paste_eq_resume (prompt : Prompt) (text : String) :
    prompt.paste text = Prod.map id unrecalled (prompt.resume (fragments text.toList)) := by
  unfold paste resume
  cases fragments text.toList <;> rfl

@[simp] private theorem submit_unrecalled (prompt : Prompt) :
    prompt.unrecalled.submit = prompt.submit := by
  simp only [submit, unrecalled]

/-- The prompt after its line is entered and a fragment is left as its text. -/
def restart (prompt : Prompt) (fragment : List Char) : Prompt :=
  { prompt with text := String.ofList fragment, history := prompt.submit.2.history }

private theorem enterAll_cons (prompt : Prompt) (first : List Char) (others : List (List Char)) :
    prompt.enterAll (first :: others) =
      (prompt.submit.1.toList ++ ((prompt.restart first).enterAll others).1,
        ((prompt.restart first).enterAll others).2) := by
  simp only [enterAll, restart, submit]

private theorem enterAll_unrecalled (prompt : Prompt) (pieces : List (List Char)) :
    prompt.unrecalled.enterAll pieces = Prod.map id unrecalled (prompt.enterAll pieces) := by
  induction pieces generalizing prompt with
  | nil => rfl
  | cons first others ih =>
    have same : prompt.unrecalled.restart first = (prompt.restart first).unrecalled := by
      simp only [restart, unrecalled, submit]
    simp only [enterAll_cons, submit_unrecalled, same, ih, Prod.map_fst, Prod.map_snd,
      Prod.map_apply, id_eq]

private theorem resume_unrecalled (prompt : Prompt) (pieces : List (List Char)) :
    prompt.unrecalled.resume pieces = Prod.map id unrecalled (prompt.resume pieces) := by
  cases pieces with
  | nil => rfl
  | cons first others =>
    exact enterAll_unrecalled { prompt with text := prompt.text ++ String.ofList first } others

private theorem strike_unrecalled (prompt : Prompt) (c : Char) :
    prompt.unrecalled.strike c = Prod.map id unrecalled (prompt.strike c) := by
  unfold strike
  split
  · rw [submit_unrecalled]
    simp only [submit, unrecalled, Prod.map_apply, id_eq]
  · rfl

theorem strikeAll_unrecalled (prompt : Prompt) (cs : List Char) :
    prompt.unrecalled.strikeAll cs = Prod.map id unrecalled (prompt.strikeAll cs) := by
  induction cs generalizing prompt with
  | nil => rfl
  | cons c rest ih =>
    simp only [strikeAll, strike_unrecalled, Prod.map_fst, Prod.map_snd, ih, id_eq, Prod.map_apply]

variable {prompt : Prompt}

/-- An empty fragment enters the line, and the next one starts a new one. -/
private theorem resume_nil_cons (idle : prompt.recalled = none) {pieces : List (List Char)}
    (more : pieces ≠ []) : prompt.resume ([] :: pieces) =
      (prompt.submit.1.toList ++ (prompt.submit.2.resume pieces).1,
        (prompt.submit.2.resume pieces).2) := by
  obtain ⟨first, others, rfl⟩ := List.exists_cons_of_ne_nil more
  simp [resume, enterAll, submit, idle]

/-- A fragment continues the line with each of its characters. -/
private theorem resume_cons_cons (c : Char) (first : List Char) (others : List (List Char)) :
    prompt.resume ((c :: first) :: others) = (prompt.push c).resume (first :: others) := by
  have joined : prompt.text ++ String.ofList (c :: first) =
      prompt.text.push c ++ String.ofList first := by
    apply String.toList_inj.mp
    simp
  simp only [resume, push, joined]

private theorem submit_of_empty (idle : prompt.recalled = none) (empty : prompt.text = "") :
    prompt.submit = (none, prompt) := by
  obtain ⟨text, history, recalled⟩ := prompt
  subst idle empty
  rfl

/-- The fragments of a text enter the same lines as its characters. -/
theorem resume_fragments (idle : prompt.recalled = none) (cs : List Char) :
    prompt.resume (fragments cs) = prompt.strikeAll cs := by
  fun_induction fragments cs generalizing prompt with
  | case1 => simp [resume, enterAll, strikeAll]
  | case2 rest ih =>
    -- The line feed enters an empty line, which is dropped.
    have dropped : prompt.submit.2.submit = (none, prompt.submit.2) := submit_of_empty rfl rfl
    rw [resume_nil_cons idle (fragments_ne_nil rest), ih rfl]
    simp [strikeAll, strike, dropped]
  | case3 c rest _ isBreak ih =>
    rw [resume_nil_cons idle (fragments_ne_nil rest), ih rfl]
    simp only [strikeAll, strike, if_pos isBreak]
  | case4 c rest _ _ none => exact absurd none (fragments_ne_nil rest)
  | case5 c rest _ isTyped fragment others found ih =>
    have typed : (prompt.push c).recalled = none := idle
    rw [resume_cons_cons, ← found, ih typed]
    simp [strikeAll, strike, isTyped]

/-- A pasted text enters the lines that it enters when it is typed, and leaves the same text and the
same history. -/
theorem paste_eq_strikeAll (prompt : Prompt) (text : String) :
    prompt.paste text = Prod.map id unrecalled (prompt.strikeAll text.toList) := by
  rw [paste_eq_resume, ← resume_unrecalled, resume_fragments rfl, strikeAll_unrecalled]

theorem recalled_paste (prompt : Prompt) (text : String) :
    (prompt.paste text).2.recalled = none := by
  rw [paste_eq_strikeAll]
  rfl

/-! ## The lines that are completed -/

private theorem strike_newline (prompt : Prompt) :
    prompt.strike '\n' = prompt.submit := if_pos (.inl rfl)

/-- A tight line is entered as it stands. -/
theorem submit_of_isTight {prompt : Prompt} (tight : Text.IsTight prompt.text) :
    prompt.submit = (some prompt.text, ⟨"", prompt.history ++ [prompt.text], none⟩) := by
  rw [submit, flush, tight.trim_eq, if_neg tight.ne_empty]

private theorem completed_of_ne (prompt : Prompt) {c : Char} (typed : c ≠ '\n') (rest : List Char) :
    prompt.completed (c :: rest) = (prompt.push c).completed rest := by
  obtain ⟨first, others, split⟩ := List.exists_cons_of_ne_nil (List.splitOn_ne_nil '\n' rest)
  simp [completed, List.splitOn_cons_eq_if_modifyHead, typed, split, push]

private theorem completed_newline (prompt : Prompt) (rest : List Char) :
    prompt.completed ('\n' :: rest) = prompt.text :: prompt.submit.2.completed rest := by
  obtain ⟨first, others, split⟩ := List.exists_cons_of_ne_nil (List.splitOn_ne_nil '\n' rest)
  simp [completed, List.splitOn_cons_eq_if_modifyHead, split, submit]

end Prompt

def Input.strokes (cs : List Char) : List Input := cs.map fun c => .key (.ofChar c) .none

theorem Input.strokes_cons (c : Char) (rest : List Char) :
    Input.strokes (c :: rest) = .key (.ofChar c) .none :: Input.strokes rest := List.map_cons

theorem Key.ofChar_break {c : Char} (isBreak : c = '\n' ∨ c = '\r') : Key.ofChar c = .enter :=
  if_pos isBreak

theorem Key.ofChar_typed {c : Char} (isTyped : ¬(c = '\n' ∨ c = '\r')) : Key.ofChar c = .char c :=
  if_neg isTyped

theorem Input.moves_ofChar (prompt : Prompt) (c : Char) :
    Input.moves prompt (.key (.ofChar c) .none) = (prompt.strike c).1.toList.map .execute := by
  by_cases isBreak : c = '\n' ∨ c = '\r'
  · rw [Key.ofChar_break isBreak, Prompt.strike, if_pos isBreak]
    rfl
  · rw [Key.ofChar_typed isBreak, Prompt.strike, if_neg isBreak, Input.moves_char]
    simp [Modifiers.none]

theorem Prompt.handle_ofChar (prompt : Prompt) (c : Char) :
    prompt.handle (.key (.ofChar c) .none) = (prompt.strike c).2 := by
  by_cases isBreak : c = '\n' ∨ c = '\r'
  · rw [Key.ofChar_break isBreak, Prompt.strike, if_pos isBreak]
    rfl
  · rw [Key.ofChar_typed isBreak, Prompt.strike, if_neg isBreak]
    rfl

namespace Console

private theorem tape_strokes (prompt : Prompt) (cs : List Char) :
    tape prompt (Input.strokes cs) = (prompt.strikeAll cs).1.map .execute := by
  induction cs generalizing prompt with
  | nil => rfl
  | cons c rest ih =>
    rw [Input.strokes_cons, tape, Input.moves_ofChar, Prompt.handle_ofChar, ih, ← List.map_append,
      Prompt.strikeAll]

private theorem foldl_handle_strokes (prompt : Prompt) (cs : List Char) :
    (Input.strokes cs).foldl Prompt.handle prompt = (prompt.strikeAll cs).2 := by
  induction cs generalizing prompt with
  | nil => rfl
  | cons c rest ih =>
    rw [Input.strokes_cons, List.foldl_cons, Prompt.handle_ofChar, ih, Prompt.strikeAll]

private theorem core_strokes (console : Console) (cs : List Char) :
    (console.handleAll (Input.strokes cs)).map core =
      (console.session.play ((console.prompt.strikeAll cs).1.map .execute)).map
        fun run => (run.2, (console.prompt.strikeAll cs).2) := by
  rw [core_handleAll, tape_strokes, foldl_handle_strokes]

private theorem core_paste (console : Console) (text : String) :
    (console.paste text).map core =
      (console.session.play ((console.prompt.strikeAll text.toList).1.map .execute)).map
        fun run => (run.2, (console.prompt.strikeAll text.toList).2.unrecalled) := by
  have same : (console.paste text).map core =
      (console.session.play ((console.prompt.paste text).1.map .execute)).map
        fun run => (run.2, (console.prompt.paste text).2) := core_handle console (.paste text)
  rw [same, Prompt.paste_eq_strikeAll]
  rfl

theorem pressAll_ofText (console : Console) (text : String) :
    console.pressAll (Key.ofText text) = console.handleAll (Input.strokes text.toList) := by
  rw [pressAll, handleAll, Key.ofText, Input.strokes, List.foldlM_map, List.foldlM_map]
  rfl

/-- Typing plays the session along the tape of the paste, and ends with the same prompt but for the
recalled entry. -/
theorem core_pressAll_ofText (console : Console) (text : String) :
    ((console.pressAll (Key.ofText text)).map core).map (Prod.map id Prompt.unrecalled) =
      (console.paste text).map core := by
  rw [pressAll_ofText, core_strokes, core_paste]
  cases console.session.play ((console.prompt.strikeAll text.toList).1.map .execute) <;> rfl

/-! ## The output -/

/-- Where every completed line is tight, each is echoed as it is entered. -/
private theorem script_strokes {prompt : Prompt} {cs : List Char} (plain : '\r' ∉ cs)
    (tight : ∀ line ∈ prompt.completed cs, Text.IsTight line) :
    script prompt (Input.strokes cs) = (prompt.strikeAll cs).1.flatMap Cue.ofLine := by
  induction cs generalizing prompt with
  | nil => rfl
  | cons c rest ih =>
    obtain ⟨notReturn, others⟩ := List.ne_and_not_mem_of_not_mem_cons plain
    rw [Input.strokes_cons, script, Prompt.handle_ofChar, Prompt.strikeAll, List.flatMap_append]
    -- What is typed on this line is in the prompt by now, so the line that ends here is its text.
    by_cases isBreak : c = '\n'
    · subst isBreak
      rw [Prompt.completed_newline, List.forall_mem_cons] at tight
      rw [Prompt.strike_newline, ih others tight.2, Key.ofChar_break (.inl rfl), Input.cues_enter,
        Prompt.submit_of_isTight tight.1]
      simp [Cue.ofLine]
    · have isTyped : ¬(c = '\n' ∨ c = '\r') := by simp [isBreak, notReturn.symm]
      rw [Prompt.completed_of_ne _ isBreak] at tight
      rw [Prompt.strike, if_neg isTyped, ih others tight, Key.ofChar_typed isTyped]
      simp [Input.cues_char, Modifiers.none]

/-- Tight lines are echoed as they were typed. -/
theorem output_pressAll_ofText {console pasted typed : Console} {text : String}
    (plain : '\r' ∉ text.toList)
    (tight : ∀ line ∈ console.prompt.completed text.toList, Text.IsTight line)
    (viaPaste : console.paste text = .ok pasted)
    (viaKeys : console.pressAll (Key.ofText text) = .ok typed) : typed.output = pasted.output := by
  rw [pressAll_ofText] at viaKeys
  have pastedStage : Cue.perform keep console.stage (Input.cues console.prompt (.paste text)) =
      .ok pasted.stage := perform_handle viaPaste
  have typedStage := perform_handleAll viaKeys
  rw [script_strokes plain tight] at typedStage
  rw [Input.cues_paste, Prompt.paste_eq_strikeAll, Prod.map_fst, id_eq, typedStage] at pastedStage
  exact (Prod.mk.inj (Except.ok.inj pastedStage)).2

/-- Whatever the console shows and whatever is typed already, a text that is pasted and a text that
is typed both fail, or they end in the same session with the same prompt text and the same history.
Where no carriage return is struck and every completed line is tight, they show the same. -/
theorem paste_eq_typing (console : Console) (text : String) :
    (∃ failure, console.paste text = .error failure ∧
        console.pressAll (Key.ofText text) = .error failure) ∨
      ∃ pasted typed, console.paste text = .ok pasted ∧
        console.pressAll (Key.ofText text) = .ok typed ∧
        typed.session = pasted.session ∧ typed.prompt.text = pasted.prompt.text ∧
        typed.prompt.history = pasted.prompt.history ∧
        ('\r' ∉ text.toList →
          (∀ line ∈ console.prompt.completed text.toList, Text.IsTight line) →
          typed.output = pasted.output) := by
  have same := core_pressAll_ofText console text
  cases viaPaste : console.paste text with
  | error failure =>
    rw [viaPaste] at same
    cases viaKeys : console.pressAll (Key.ofText text) with
    | error other =>
      rw [viaKeys] at same
      cases same
      exact .inl ⟨failure, rfl, rfl⟩
    | ok typed =>
      rw [viaKeys] at same
      cases same
  | ok pasted =>
    rw [viaPaste] at same
    obtain ⟨_, read, left⟩ := map_eq_ok_iff.mp same
    obtain ⟨typed, viaKeys, rfl⟩ := map_eq_ok_iff.mp read
    obtain ⟨session, prompt⟩ := Prod.mk.inj left
    refine .inr ⟨pasted, typed, rfl, viaKeys, session, ?_, ?_, fun plain tight =>
      output_pressAll_ofText plain tight viaPaste viaKeys⟩
    · rw [← prompt, Prompt.text_unrecalled]
    · rw [← prompt, Prompt.history_unrecalled]

/-- A line that is half typed is completed, the screen is wiped, and another line is begun. Where the
clock has no room for a rollout, the edit fails both ways. -/
theorem paste_eq_typing_halfTyped :
    (∃ console pasted typed,
      (ofSession (.ofCluster .scenario) false).handleAll
          [.paste "kubectl get pods\r\nkubectl edit depl", .tick (.ofMillis 700)] = .ok console ∧
      console.paste "oyment auth-service\nclear\nhelp\nkubectl lo" = .ok pasted ∧
      console.pressAll (Key.ofText "oyment auth-service\nclear\nhelp\nkubectl lo") = .ok typed ∧
      typed.session = pasted.session ∧ typed.prompt.text = pasted.prompt.text ∧
      typed.prompt.history = pasted.prompt.history ∧ typed.output = pasted.output) ∧
    ∃ console failure,
      (ofSession (.ofCluster .scenario) false).handleAll
          [.tick ⟨Duration.capacity - 1, by decide⟩] = .ok console ∧
      console.paste "kubectl edit deployment auth-service\n" = .error failure ∧
      console.pressAll (Key.ofText "kubectl edit deployment auth-service\n") = .error failure := by
  constructor
  · obtain ⟨console, handled, typing⟩ := map_eq_ok_iff.mp
      (show ((ofSession (.ofCluster .scenario) false).handleAll
          [.paste "kubectl get pods\r\nkubectl edit depl", .tick (.ofMillis 700)]).map
          (fun console => (console.prompt.text,
            (console.paste "oyment auth-service\nclear\nhelp\nkubectl lo").toBool)) =
        .ok ("kubectl edit depl", true) by decide +kernel)
    obtain ⟨typing, fits⟩ := Prod.mk.inj typing
    obtain ⟨failure, failed, _⟩ | ⟨pasted, typed, viaPaste, viaKeys, session, text, history, output⟩ :=
      paste_eq_typing console "oyment auth-service\nclear\nhelp\nkubectl lo"
    · rw [failed] at fits
      cases fits
    · refine ⟨console, pasted, typed, handled, viaPaste, viaKeys, session, text, history,
        output (by decide +kernel) ?_⟩
      rw [Prompt.completed, typing]
      decide +kernel
  · obtain ⟨console, handled, full⟩ := map_eq_ok_iff.mp
      (show ((ofSession (.ofCluster .scenario) false).handleAll
          [.tick ⟨Duration.capacity - 1, by decide⟩]).map
          (fun console => (console.paste "kubectl edit deployment auth-service\n").toBool) =
        .ok false by decide +kernel)
    obtain ⟨failure, viaPaste, viaKeys⟩ | ⟨pasted, _, viaPaste, _⟩ :=
      paste_eq_typing console "kubectl edit deployment auth-service\n"
    · exact ⟨console, failure, handled, viaPaste, viaKeys⟩
    · rw [viaPaste] at full
      cases full

/-- A line that is not tight is echoed as it stands when it is typed, and trimmed when it is
pasted. -/
example :
    ((ofSession (.ofCluster .scenario) false).paste " clear\n help\n").map (·.output.head?) =
        .ok (some "$ help") ∧
      ((ofSession (.ofCluster .scenario) false).pressAll (Key.ofText " clear\n help\n")).map
        (·.output.head?) = .ok (some "$  help") := by
  decide +kernel

end Console

end KubeSim
