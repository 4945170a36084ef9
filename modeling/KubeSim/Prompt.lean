import KubeSim.Text.Blank

/-! # The line being typed

A prompt holds the text typed so far, the lines entered before it, and the place in them that
recall has reached. Entering a line trims it; a blank line is dropped, and any other line joins
the history. Pasted text is entered at each of its line breaks.
-/

namespace KubeSim

/-- The text typed so far, the history from oldest to newest, and the recalled entry. -/
structure Prompt where
  text : String
  history : List String
  recalled : Option Nat
deriving DecidableEq

namespace Prompt

def new : Prompt := ⟨"", [], none⟩

instance : Inhabited Prompt := ⟨new⟩

def push (prompt : Prompt) (c : Char) : Prompt := { prompt with text := prompt.text.push c }

/-- Removes the last character, and tells whether there was one. -/
def backspace (prompt : Prompt) : Bool × Prompt :=
  (prompt.text ≠ "", { prompt with text := String.ofList prompt.text.toList.dropLast })

/-- The history after a line is entered, and the line unless it is blank. -/
def flush (history : List String) (line : String) : Option String × List String :=
  if Text.trim line = "" then (none, history)
  else (some (Text.trim line), history ++ [Text.trim line])

/-- Enters the line. The text is emptied even if the line is blank. -/
def submit (prompt : Prompt) : Option String × Prompt :=
  let (line, history) := flush prompt.history prompt.text
  (line, ⟨"", history, none⟩)

/-- The pieces of a text between its line breaks, which are a line feed, a carriage return, or
the one after the other. -/
def fragments : List Char → List (List Char)
  | [] => [[]]
  | '\r' :: '\n' :: rest => [] :: fragments rest
  | c :: rest =>
    if c = '\n' ∨ c = '\r' then [] :: fragments rest
    else match fragments rest with
      | [] => [[c]]
      | fragment :: others => (c :: fragment) :: others

/-- Enters the text of the prompt once for each fragment and leaves the fragment as its text. -/
def enterAll (prompt : Prompt) : List (List Char) → List String × Prompt
  | [] => ([], prompt)
  | fragment :: others =>
    let (line, history) := flush prompt.history prompt.text
    let (lines, after) := { prompt with text := String.ofList fragment, history }.enterAll others
    (line.toList ++ lines, after)

/-- Pastes a text: its first fragment continues the line, and each line break enters it. -/
def paste (prompt : Prompt) (text : String) : List String × Prompt :=
  match fragments text.toList with
  | [] => ([], { prompt with recalled := none })
  | first :: others =>
    let (lines, after) := { prompt with text := prompt.text ++ String.ofList first }.enterAll others
    (lines, { after with recalled := none })

def showEntry (prompt : Prompt) (index : Nat) : Prompt :=
  match prompt.history[index]? with
  | some line => { prompt with text := line, recalled := some index }
  | none => prompt

/-- Shows the entry before the recalled one, or the newest; the oldest stays. -/
def recallPrevious (prompt : Prompt) : Prompt :=
  match prompt.recalled with
  | none => prompt.showEntry (prompt.history.length - 1)
  | some index => prompt.showEntry (index - 1)

/-- Shows the entry after the recalled one, and an empty line after the newest. -/
def recallNext (prompt : Prompt) : Prompt :=
  match prompt.recalled with
  | none => prompt
  | some index =>
    if index + 1 < prompt.history.length then prompt.showEntry (index + 1)
    else { prompt with text := "", recalled := none }

end Prompt

end KubeSim
