import KubeSim.Progress
import KubeSim.Settings.Arguments
import KubeSim.Text.Pad

/-! # Starting the program

From the arguments to the start of the drill, or to the end of the program before it. Settings are
validated before the log file is opened. How a file is opened is left to the caller. In what is
printed, blank space suspends a control sequence.
-/

namespace KubeSim.Launch

structure Ending where
  code : UInt8
  stdout : String
  stderr : String
deriving DecidableEq

inductive Outcome where
  | play (settings : Settings)
  | ending (ending : Ending)
deriving DecidableEq

/-- The end of a program that printed what it was asked for. -/
def printed (text : String) : Outcome := .ending ⟨0, text, ""⟩

/-- The end of a program that was called with faulty arguments. -/
def misused (fault : ArgumentError) : Outcome :=
  .ending ⟨2, "", fault.message .suspends ++ "\n\nFor more information, try '--help'.\n"⟩

/-- The lines that tell what caused an error. -/
def causeText : SetupError → String
  | .invalidSettings _ => ""
  | .logFile _ cause => "\nCaused by:\n    " ++ cause.message ++ "\n"

def failed (fault : SetupError) : Outcome :=
  .ending ⟨1, "", "Error: " ++ fault.message ++ "\n" ++ causeText fault⟩

/-- Opens the log, if there is to be one, and tells whether there is. -/
def openLog {m : Type → Type} [Monad m] (openFile : String → m (Except OpenFailure Unit))
    (settings : Settings) : m (Except SetupError Bool) :=
  match settings.logFile with
  | none => return .ok false
  | some path => return match ← openFile path with
    | .ok () => .ok true
    | .error cause => .error (.logFile path cause)

/-- Reads the arguments, validates the settings and opens the log. -/
def start {m : Type → Type} [Monad m] (openFile : String → m (Except OpenFailure Unit))
    (arguments : List String) (environment : Option String) : m Outcome :=
  match Arguments.parse arguments environment with
  | .error fault => return misused fault
  | .ok .help => return printed (helpText .suspends environment)
  | .ok .version => return printed versionText
  | .ok (.play settings) =>
    match settings.validate with
    | .error fault => return failed fault
    | .ok () => return match ← openLog openFile settings with
      | .error fault => failed fault
      | .ok _ => .play settings

/-- The lines that say goodbye. -/
def farewell (progress : Progress) : List String := [
  "",
  "╔════════════════════════════════════════════════════════╗",
  "║  Thanks for using the K8s Troubleshooting Simulator!   ║",
  "║  " ++ Text.padRight 54 ("Finished at " ++ progress.label) ++ "║",
  "╚════════════════════════════════════════════════════════╝",
  ""]

end KubeSim.Launch
