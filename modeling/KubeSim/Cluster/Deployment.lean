/-! # Deployments

A deployment states how many replicas it wants and where its containers' environment comes from.
-/

namespace KubeSim

/-- Where an environment variable takes its value from. -/
inductive EnvSource where
  | value (text : String)
  | secretKey (secret key : String)
deriving DecidableEq

structure EnvVar where
  name : String
  source : EnvSource
deriving DecidableEq

namespace EnvVar

/-- A variable that takes the value of a key of a secret. -/
def fromSecret (name secret key : String) : EnvVar := ⟨name, .secretKey secret key⟩

/-- Whether the variable takes its value from this key of this secret. -/
def references (var : EnvVar) (secret key : String) : Bool := var.source = .secretKey secret key

end EnvVar

/-- The desired state of a set of pods. -/
structure Deployment where
  name : String
  replicas : UInt32
  availableReplicas : UInt32
  env : List EnvVar
deriving DecidableEq

namespace Deployment

/-- A deployment with no available replicas and an empty environment. -/
def new (name : String) (replicas : UInt32) : Deployment := ⟨name, replicas, 0, []⟩

def references (deployment : Deployment) (secret key : String) : Bool :=
  deployment.env.any (·.references secret key)

/-- Whether every wanted replica is available. -/
def isAvailable (deployment : Deployment) : Bool :=
  deployment.replicas ≤ deployment.availableReplicas

end Deployment

end KubeSim
