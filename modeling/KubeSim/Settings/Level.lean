import KubeSim.Text.Numeral

/-! # Log levels

A level is named by a word in any ASCII case or by a number from 0, for no log at all, to 5. The
empty text names the level of errors.
-/

namespace KubeSim

/-- How much is written to the log. -/
inductive Level where
  | off
  | error
  | warn
  | info
  | debug
  | trace
deriving DecidableEq, Repr

namespace Level

def ofNumber? : Nat → Option Level
  | 0 => some .off
  | 1 => some .error
  | 2 => some .warn
  | 3 => some .info
  | 4 => some .debug
  | 5 => some .trace
  | _ => none

/-- The level with this name in lower case. -/
def ofName? (name : String) : Option Level :=
  if name = "" ∨ name = "error" then some .error
  else if name = "warn" then some .warn
  else if name = "info" then some .info
  else if name = "debug" then some .debug
  else if name = "trace" then some .trace
  else if name = "off" then some .off
  else none

/-- The text with ASCII capitals replaced by small letters. -/
def lowerCase (text : String) : String := String.ofList (text.toList.map Char.toLower)

def ofText? (text : String) : Option Level :=
  match Text.readNumeral UInt64.size text with
  | .ok number => ofNumber? number
  | .error _ => ofName? (lowerCase text)

def name : Level → String
  | .off => "off"
  | .error => "error"
  | .warn => "warn"
  | .info => "info"
  | .debug => "debug"
  | .trace => "trace"

end Level

end KubeSim
