import KubeSim.Prompt
import KubeSim.Session

/-! # The terminal pane and its keys

A console joins a session to a prompt and keeps the lines that were shown. Entering a line echoes
it and shows the answer. Only the newest lines are kept.
-/

namespace KubeSim

inductive Key where
  | char (c : Char)
  | function (number : Nat)
  | enter
  | escape
  | backspace
  | up
  | down
  | left
  | right
  | tab
  | backTab
  | delete
  | insert
  | home
  | endOfLine
  | pageUp
  | pageDown
  | null
deriving DecidableEq

/-- The modifiers held down with a key, as far as they change what the key does. -/
structure Modifiers where
  control : Bool
  alt : Bool
deriving DecidableEq

def Modifiers.none : Modifiers := ⟨false, false⟩

def title : String := "K8s Troubleshooting Simulator"

def welcome : List String := [
  "Welcome to Kubernetes Troubleshooting Simulator!",
  "Scenario: Fix the CrashLoopBackOff in auth-service",
  "",
  "Type \"help\" for available commands."]

def hint : String :=
  "Check the logs of the auth-service pod to see why it's failing. " ++
    "You might need to configure environment variables in the deployment."

/-- What is shown before a line of input. -/
def promptMark : String := "$ "

/-- The number of output lines that are kept. -/
def scrollback : Nat := 500

structure Console where
  session : Session
  prompt : Prompt
  running : Bool
  showHint : Bool
  output : List String
deriving DecidableEq

namespace Console

/-- A console on a session, with the welcome shown. -/
def ofSession (session : Session) (showHint : Bool) : Console :=
  ⟨session, .new, true, showHint, welcome⟩

/-- Appends lines and keeps the newest. -/
def keep (output lines : List String) : List String :=
  (output ++ lines).drop ((output ++ lines).length - scrollback)

def print (console : Console) (lines : List String) : Console :=
  { console with output := keep console.output lines }

def echo (console : Console) (typed : String) : Console := console.print [promptMark ++ typed]

/-- Lets the session run a line and shows its answer. -/
def submit (console : Console) (line : String) : Except Overflow Console := do
  let (response, session) ← console.session.execute line
  let output := if response.clearScreen then [] else console.output
  return { console with session, output }.print response.lines

/-- Stops every waiting action. -/
def shutdown (console : Console) : Console := { console with session := console.session.shutdown }

/-- Ends the program and stops every waiting action. -/
def quit (console : Console) : Console := { console with running := false }.shutdown

/-- Enters the typed line. It is echoed even if it is blank. -/
def enter (console : Console) : Except Overflow Console :=
  let echoed := console.echo console.prompt.text
  match console.prompt.submit with
  | (none, prompt) => .ok { echoed with prompt }
  | (some line, prompt) => { echoed with prompt }.submit line

def press (console : Console) (key : Key) (held : Modifiers) : Except Overflow Console :=
  match key with
  | .char c =>
    if c = 'c' ∧ held.control then .ok console.quit
    else if held.control ∨ held.alt then .ok console
    else .ok { console with prompt := console.prompt.push c }
  | .escape => .ok console.quit
  | .function 1 => .ok { console with showHint := !console.showHint }
  | .enter => console.enter
  | .backspace => .ok { console with prompt := console.prompt.backspace.2 }
  | .up => .ok { console with prompt := console.prompt.recallPrevious }
  | .down => .ok { console with prompt := console.prompt.recallNext }
  | _ => .ok console

/-- Handles keys one after the other, without modifiers. -/
def pressAll (console : Console) (keys : List Key) : Except Overflow Console :=
  keys.foldlM (fun console key => console.press key .none) console

/-- Handles pasted text: each line that it completes is echoed and run. -/
def paste (console : Console) (text : String) : Except Overflow Console :=
  let (lines, prompt) := console.prompt.paste text
  lines.foldlM (fun console line => (console.echo line).submit line) { console with prompt }

/-- Lets time pass and shows the lines of every action that came due. -/
def tick (console : Console) (elapsed : Duration) : Except Overflow Console := do
  let (lines, session) ← console.session.advance elapsed
  return { console with session }.print lines

end Console

end KubeSim
