import KubeSim.Launch
import KubeSim.Screen.Dashboard

/-! # The program

Plays the drill on standard input and output, a line at a time. The clock follows real time, and
after each line the output that is new is printed. An empty input ends the drill.
-/

namespace KubeSim.Main

def openFailure : IO.Error → OpenFailure
  | .noFileOrDirectory .. => .notFound
  | .inappropriateType _ code _ => if code = 20 then .notADirectory else .isADirectory
  | failure@(.invalidArgument _ code _) =>
    if code = 36 then .nameTooLong else .other (toString failure)
  | failure => .other (toString failure)

def openFile (path : String) : IO (Except OpenFailure Unit) := do
  if path.toList.contains '\x00' then return .error .cutShort
  try
    discard (IO.FS.Handle.mk path .append)
    return .ok ()
  catch failure => return .error (openFailure failure)

def elapsedSince (earlier : Nat) : IO (Duration × Nat) := do
  let now ← IO.monoMsNow
  return (.ofMillis (UInt64.ofNat (now - earlier)), now)

def printLines (lines : List String) : IO Unit := lines.forM fun line => IO.println line

/-- Lets the console take one line of input. -/
def takeLine (console : Console) (elapsed : Duration) (line : String) :
    Except Overflow Console := do
  let console ← { console with output := [] }.tick elapsed
  console.paste (line ++ "\n")

/-- Plays until the input ends. -/
partial def play (console : Console) (clock : Nat) : IO Console := do
  let input ← (← IO.getStdin).getLine
  if input.isEmpty then return console.quit
  let (elapsed, clock) ← elapsedSince clock
  match takeLine console elapsed (Text.trim input) with
  | .error failure =>
    IO.eprintln failure.message
    return console.quit
  | .ok console =>
    printLines console.output
    play console clock

end KubeSim.Main

def main (arguments : List String) : IO UInt32 := do
  let environment ← IO.getEnv KubeSim.logFileVariable
  match ← KubeSim.Launch.start KubeSim.Main.openFile arguments environment with
  | .ending ending =>
    IO.print ending.stdout
    IO.eprint ending.stderr
    return ending.code.toUInt32
  | .play settings =>
    let console := KubeSim.Console.ofSession .new settings.showHint
    KubeSim.Main.printLines console.output
    let console ← KubeSim.Main.play console (← IO.monoMsNow)
    KubeSim.Main.printLines (KubeSim.Launch.farewell console.session.progress)
    return 0
