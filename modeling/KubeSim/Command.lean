import KubeSim.Text.Blank

/-! # Commands of the prompt

A closed set of forms over the tokens of a line. A form that names a resource takes the token
after its fixed words and ignores the tokens that follow. Every other line is unknown and keeps
its text, without the blanks at either end.
-/

namespace KubeSim

/-- What a line of input asks for. -/
inductive Command where
  | help
  | clear
  | getPods
  | logs (pod : String)
  | describePod (pod : String)
  | editDeployment (deployment : String)
  | unknown (line : String)
deriving DecidableEq, Repr

namespace Command

/-- The command with these tokens, if they have one of the known forms. -/
def ofTokens? : List String → Option Command
  | ["help"] => some .help
  | ["clear"] => some .clear
  | ["kubectl", "get", "pods"] => some .getPods
  | "kubectl" :: "logs" :: pod :: _ => some (.logs pod)
  | "kubectl" :: "describe" :: "pod" :: pod :: _ => some (.describePod pod)
  | "kubectl" :: "edit" :: "deployment" :: deployment :: _ => some (.editDeployment deployment)
  | _ => none

def parse (line : String) : Command :=
  (ofTokens? (Text.tokens line)).getD (.unknown (Text.trim line))

/-- Whether running the command can lead to a change of the cluster. -/
def isMutating : Command → Bool
  | .editDeployment _ => true
  | _ => false

end Command

end KubeSim
