import KubeSim.Overflow
import KubeSim.Text.Match

/-! # Pods

A pod of the simulated cluster. Its age, addresses and recorded output are fixed when it is made;
only a restart changes it, and then its phase, readiness and restart count together.
-/

namespace KubeSim

/-- The phase in a pod's life that is shown as its status. -/
inductive Phase where
  | running
  | crashLoopBackOff
deriving DecidableEq, Repr

namespace Phase

def name : Phase → String
  | .running => "Running"
  | .crashLoopBackOff => "CrashLoopBackOff"

def isFailure : Phase → Bool
  | .running => false
  | .crashLoopBackOff => true

/-- The mark shown before a pod's name. -/
def symbol : Phase → String
  | .running => "✔"
  | .crashLoopBackOff => "✖"

def ofName? (name : String) : Option Phase :=
  if name = "Running" then some .running
  else if name = "CrashLoopBackOff" then some .crashLoopBackOff
  else none

end Phase

/-- A simulated pod. `output` is its container's recorded output, kept for pods that failed. -/
structure Pod where
  name : String
  phase : Phase
  ready : Bool
  restarts : UInt32
  age : String
  ip : String
  node : String
  output : Option (List String)
deriving DecidableEq

namespace Pod

def healthy (name ip : String) : Pod where
  name := name
  phase := .running
  ready := true
  restarts := 0
  age := "10m"
  ip := ip
  node := "node-1"
  output := none

/-- A pod whose container keeps crashing. -/
def crashLooping (name ip : String) (restarts : UInt32) (output : List String) : Pod where
  name := name
  phase := .crashLoopBackOff
  ready := false
  restarts := restarts
  age := "10m"
  ip := ip
  node := "node-1"
  output := some output

/-- The value of the `app` label: the name up to its first dash. -/
def appLabel (pod : Pod) : String := String.ofList (pod.name.toList.takeWhile (· ≠ '-'))

/-- The share of ready containers. -/
def readyColumn (pod : Pod) : String := if pod.ready then "1/1" else "0/1"

def containerPort (pod : Pod) : String :=
  if Text.contains pod.name "postgresql" then "5432/TCP" else "8080/TCP"

def logs (pod : Pod) : List String := pod.output.getD []

/-- The pod after its container came up again with a good configuration. -/
def recover (pod : Pod) : Except Overflow Pod := do
  let restarts ← Counter.next pod.restarts
  return { pod with phase := .running, ready := true, restarts }

end Pod

end KubeSim
