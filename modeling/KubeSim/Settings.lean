import KubeSim.Duration
import KubeSim.Settings.Level

/-! # Settings

What the player may choose before the drill starts. The log level is kept as it was written and
read when it is needed, so settings can be made that are not valid; `Settings.validate` tells.
-/

namespace KubeSim

/-- The choices of the command line. -/
structure Settings where
  tickMillis : UInt64
  logFile : Option String
  logLevel : String
  showHint : Bool
deriving DecidableEq

/-- A reason why a file could not be opened for writing. -/
inductive OpenFailure where
  | notFound
  | notADirectory
  | isADirectory
  | nameTooLong
  /-- The path holds the character that would end it. -/
  | cutShort
  /-- Any other reason, in the system's own words. -/
  | other (text : String)
deriving DecidableEq

def OpenFailure.message : OpenFailure → String
  | .notFound => "No such file or directory (os error 2)"
  | .notADirectory => "Not a directory (os error 20)"
  | .isADirectory => "Is a directory (os error 21)"
  | .nameTooLong => "File name too long (os error 36)"
  | .cutShort => "file name contained an unexpected NUL byte"
  | .other text => text

inductive SetupError where
  | invalidSettings (detail : String)
  | logFile (path : String) (cause : OpenFailure)
deriving DecidableEq

def SetupError.message : SetupError → String
  | .invalidSettings detail => "Invalid configuration: " ++ detail
  | .logFile path cause => "Failed to open log file " ++ path ++ ": " ++ cause.message

namespace Settings

def default : Settings := ⟨100, none, "info", false⟩

instance : Inhabited Settings := ⟨default⟩

/-- The time from one tick to the next. -/
def tickRate (settings : Settings) : Duration := .ofMillis settings.tickMillis

def level (settings : Settings) : Except SetupError Level :=
  match Level.ofText? settings.logLevel with
  | some level => .ok level
  | none => .error (.invalidSettings ("unknown log level: " ++ settings.logLevel))

/-- Refuses a tick of no time and then an unknown log level. -/
def validate (settings : Settings) : Except SetupError Unit :=
  if settings.tickMillis = 0 then
    .error (.invalidSettings "--tick-ms must be greater than 0")
  else settings.level.map fun _ => ()

end Settings

end KubeSim
