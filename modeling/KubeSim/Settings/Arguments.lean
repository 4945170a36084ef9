import KubeSim.Settings
import KubeSim.Text.ControlSequence
import KubeSim.Text.Match

/-! # Command line arguments

An option takes its value after an equals sign or from the next argument. A value that is attached
is checked at once; one that stands by itself is checked when the next flag or the end of the line
is reached, so an argument that is not expected may be reported before it. After `--` no argument
is expected. The log file may also be named by an environment variable, which counts only when no
argument names it. What is quoted from arguments or environment is shown without control sequences.
-/

namespace KubeSim

open Text.ControlSequence (Interruption)

inductive ValueOption where
  | tickMillis
  | logFile
  | logLevel
deriving DecidableEq

def ValueOption.usage : ValueOption → String
  | .tickMillis => "--tick-ms <TICK_MS>"
  | .logFile => "--log-file <LOG_FILE>"
  | .logLevel => "--log-level <LOG_LEVEL>"

/-- What a long flag stands for. -/
inductive Flag where
  | valued (option : ValueOption)
  | showHint
  | help
  | version
deriving DecidableEq

namespace Flag

/-- The flag with this name, which is written after two dashes. -/
def ofName? (name : String) : Option Flag :=
  if name = "tick-ms" then some (.valued .tickMillis)
  else if name = "log-file" then some (.valued .logFile)
  else if name = "log-level" then some (.valued .logLevel)
  else if name = "show-hint" then some .showHint
  else if name = "help" then some .help
  else if name = "version" then some .version
  else none

def usage : Flag → String
  | .valued option => option.usage
  | .showHint => "--show-hint"
  | .help => "--help"
  | .version => "--version"

end Flag

inductive ArgumentError where
  | unexpected (argument : String)
  | missingValue (option : ValueOption)
  | invalidNumber (option : ValueOption) (value : String) (cause : Text.NumeralError)
  | repeated (flag : Flag)
  | needlessValue (flag : Flag) (value : String)
deriving DecidableEq

/-- The text reported for a fault, with what it quotes read in one of the two ways. -/
def ArgumentError.message (interruption : Interruption) : ArgumentError → String
  | .unexpected argument =>
    "error: unexpected argument '" ++ Text.plain interruption argument ++ "' found"
  | .missingValue option =>
    "error: a value is required for '" ++ option.usage ++ "' but none was supplied"
  | .invalidNumber option value cause =>
    "error: invalid value '" ++ Text.plain interruption value ++ "' for '" ++ option.usage ++
      "': " ++ cause.message
  | .repeated flag => "error: the argument '" ++ flag.usage ++ "' cannot be used multiple times"
  | .needlessValue flag value =>
    "error: unexpected value '" ++ Text.plain interruption value ++ "' for '" ++ flag.usage ++
      "' found; no more were expected"

inductive Invocation where
  | play (settings : Settings)
  | help
  | version
deriving DecidableEq

namespace Arguments

/-- What has been read so far. `waiting` is an option whose value has not been checked, with the
value if there is one; after `--` nothing more is expected. -/
structure Draft where
  tickMillis : Option UInt64
  logFile : Option String
  logLevel : Option String
  showHint : Bool
  waiting : Option (ValueOption × Option String)
  closed : Bool
deriving DecidableEq

def Draft.new : Draft := ⟨none, none, none, false, none, false⟩

namespace Draft

def isSet (draft : Draft) : ValueOption → Bool
  | .tickMillis => draft.tickMillis.isSome
  | .logFile => draft.logFile.isSome
  | .logLevel => draft.logLevel.isSome

/-- Checks a value and stores it. -/
def store (draft : Draft) (option : ValueOption) (value : String) : Except ArgumentError Draft :=
  match option with
  | .tickMillis =>
    match Text.readNumeral UInt64.size value with
    | .ok number => .ok { draft with tickMillis := some (UInt64.ofNat number) }
    | .error cause => .error (.invalidNumber option value cause)
  | .logFile =>
    if value = "" then .error (.missingValue option)
    else .ok { draft with logFile := some value }
  | .logLevel => .ok { draft with logLevel := some value }

/-- Gives an option its value, unless it has one. -/
def assign (draft : Draft) (option : ValueOption) (value : String) : Except ArgumentError Draft :=
  if draft.isSet option then .error (.repeated (.valued option)) else draft.store option value

/-- Checks the value that is waiting. -/
def settle (draft : Draft) : Except ArgumentError Draft :=
  match draft.waiting with
  | none => .ok draft
  | some (option, none) => .error (.missingValue option)
  | some (option, some value) => { draft with waiting := none }.assign option value

end Draft

/-- What comes of reading an argument: a draft, or an answer that ends the reading. -/
inductive Step where
  | continue (draft : Draft)
  | answer (invocation : Invocation)

/-- Reads a long flag with the value attached to it, if any. -/
def readLong (draft : Draft) (name : String) (value : Option String) :
    Except ArgumentError Step :=
  match Flag.ofName? name, value with
  | none, _ => .error (.unexpected ("--" ++ name))
  | some (.valued option), none => do
    let draft ← draft.settle
    return .continue { draft with waiting := some (option, none) }
  | some (.valued option), some value => do
    let draft ← draft.settle
    return .continue (← draft.assign option value)
  | some flag, some value => .error (.needlessValue flag value)
  | some .showHint, none => do
    let draft ← draft.settle
    if draft.showHint then throw (.repeated .showHint)
    return .continue { draft with showHint := true }
  | some .help, none => do
    discard draft.settle
    return .answer .help
  | some .version, none => do
    discard draft.settle
    return .answer .version

/-- Reads a short flag, of which there are two. -/
def readShort (draft : Draft) (letter : Char) : Except ArgumentError Step :=
  if letter = 'h' then do
    discard draft.settle
    return .answer .help
  else if letter = 'V' then do
    discard draft.settle
    return .answer .version
  else .error (.unexpected (String.ofList ['-', letter]))

def readPlain (draft : Draft) (argument : String) : Except ArgumentError Step :=
  match draft.waiting with
  | some (option, none) => .ok (.continue { draft with waiting := some (option, some argument) })
  | _ => .error (.unexpected argument)

def readArgument (draft : Draft) (argument : String) : Except ArgumentError Step :=
  if draft.closed then .error (.unexpected argument)
  else match argument.toList with
    | ['-', '-'] => .ok (.continue { draft with closed := true })
    | '-' :: '-' :: rest =>
      let name := String.ofList (rest.takeWhile (· ≠ '='))
      match rest.dropWhile (· ≠ '=') with
      | [] => readLong draft name none
      | _ :: value => readLong draft name (some (String.ofList value))
    | '-' :: letter :: _ => readShort draft letter
    | _ => readPlain draft argument

/-- Takes the log file from the environment, unless an argument named it. -/
def addEnvironment (draft : Draft) (environment : Option String) : Except ArgumentError Draft :=
  match environment with
  | none => .ok draft
  | some path => if draft.logFile.isSome then .ok draft else draft.store .logFile path

/-- The settings of a draft, where what was not chosen has its usual value. -/
def Draft.settings (draft : Draft) : Settings where
  tickMillis := draft.tickMillis.getD Settings.default.tickMillis
  logFile := draft.logFile
  logLevel := draft.logLevel.getD Settings.default.logLevel
  showHint := draft.showHint

/-- Reads arguments onto a draft and, at the end, the environment. -/
def readAll (draft : Draft) (environment : Option String) :
    List String → Except ArgumentError Invocation
  | [] => do
    let draft ← addEnvironment (← draft.settle) environment
    return .play draft.settings
  | argument :: rest =>
    match readArgument draft argument with
    | .error fault => .error fault
    | .ok (.answer invocation) => .ok invocation
    | .ok (.continue draft) => readAll draft environment rest

/-- What the arguments ask for, given the value of the environment variable for the log file. -/
def parse (arguments : List String) (environment : Option String) :
    Except ArgumentError Invocation := readAll .new environment arguments

end Arguments

def programName : String := "k8s-troubleshooter"

def version : String := "0.1.0"

/-- The environment variable that may name the log file. -/
def logFileVariable : String := "K8S_SIM_LOG"

def versionText : String := programName ++ " " ++ version ++ "\n"

/-- A value as it stands in the last column of the help, where a new line starts below it. -/
def indentValue (value : String) : String :=
  String.ofList (value.toList.flatMap fun c =>
    if c = '\n' then '\n' :: List.replicate 31 ' ' else [c])

/-- The text shown for `--help`. A control sequence that the environment leaves open goes on up to
the next option. -/
def helpText (interruption : Interruption) (environment : Option String) : String :=
  "Interactive kubectl simulator for a CrashLoopBackOff troubleshooting scenario\n\n" ++
  "Usage: " ++ programName ++ " [OPTIONS]\n\n" ++
  "Options:\n" ++
  "      --tick-ms <TICK_MS>      How often the UI polls for input and advances timers, " ++
    "in milliseconds [default: 100]\n" ++
  "      --log-file <LOG_FILE>    Append tracing output to this file " ++
    "(the terminal is owned by the UI) [env: " ++ logFileVariable ++ "=" ++
    Text.plain interruption (indentValue (environment.getD "") ++ "]\n      ") ++
  "--log-level <LOG_LEVEL>  Log level used when RUST_LOG is not set [default: info]\n" ++
  "      --show-hint              Start with the hint panel open\n" ++
  "  -h, --help                   Print help\n" ++
  "  -V, --version                Print version\n"

end KubeSim
