import KubeSim.Cluster.Pod
import KubeSim.Cluster.Deployment
import KubeSim.Cluster.Secret

/-! # The simulated cluster

Every resource of the drill. A cluster is changed in one way only: `Cluster.remediate` wires the
database secret into a deployment and restarts the pods whose names begin with the deployment's
key. It acts at most once on a deployment, since the wiring it adds is what it looks for.
-/

namespace KubeSim

/-- The deployment that is broken in the scenario. -/
def authService : String := "auth-service"

/-- The secret that holds the database credentials. -/
def dbSecret : String := "db-secret"

/-- The key of the secret, and the variable that the broken service needs. -/
def dbPassword : String := "DB_PASSWORD"

/-- Wires the database secret in as the last variable and counts every replica as available. -/
def Deployment.bindPassword (deployment : Deployment) : Deployment :=
  { deployment with
    env := deployment.env ++ [.fromSecret dbPassword dbSecret dbPassword]
    availableReplicas := deployment.replicas }

inductive Remediation where
  | applied
  | alreadyApplied
  | noSuchDeployment
deriving DecidableEq, Repr

/-- Pods in model order, and secrets and deployments by key. -/
structure Cluster where
  pods : List Pod
  secrets : Catalog Secret
  deployments : Catalog Deployment
deriving DecidableEq

namespace Cluster

/-- The cluster of these resources. Of two resources of one name the later one is kept. -/
def ofResources (pods : List Pod) (secrets : List Secret) (deployments : List Deployment) :
    Cluster where
  pods := pods
  secrets := .ofList (secrets.map fun secret => (secret.name, secret))
  deployments := .ofList (deployments.map fun deployment => (deployment.name, deployment))

def authServiceOutput : List String := [
  "[2025-03-20 10:15:32] Starting auth service...",
  "[2025-03-20 10:15:32] Checking configuration...",
  "[2025-03-20 10:15:32] ERROR: Environment variable DB_PASSWORD not set",
  "[2025-03-20 10:15:32] Failed to initialize database connection",
  "[2025-03-20 10:15:32] Service startup failed"]

/-- The cluster at the start of the scenario: the service crashes for want of its password. -/
def scenario : Cluster :=
  ofResources
    [ .healthy "frontend-6d5bc7b947-x8v2n" "10.244.0.12",
      .crashLooping "auth-service-5f7d9c8b6d-j4k2h" "10.244.0.13" 5 authServiceOutput,
      .healthy "postgresql-0" "10.244.0.14" ]
    [.new dbSecret]
    [.new authService 1]

/-- The first pod in model order whose name begins with `start`, which must not be empty. -/
def findPod? (cluster : Cluster) (start : String) : Option Pod :=
  if start = "" then none else cluster.pods.find? fun pod => Text.startsWith pod.name start

/-- Whether the deployment under this key takes the password from the database secret. -/
def isRemediated (cluster : Cluster) (key : String) : Bool :=
  (cluster.deployments.get? key).any fun deployment => deployment.references dbSecret dbPassword

/-- Restarts the pods whose names begin with `start`. -/
def recoverPods (start : String) (pods : List Pod) : Except Overflow (List Pod) :=
  pods.mapM fun pod => if Text.startsWith pod.name start then pod.recover else .ok pod

/-- Wires the secret into the deployment under a key and restarts its pods. -/
def remediate (cluster : Cluster) (key : String) : Except Overflow (Remediation × Cluster) :=
  match cluster.deployments.get? key with
  | none => .ok (.noSuchDeployment, cluster)
  | some deployment =>
    if deployment.references dbSecret dbPassword then .ok (.alreadyApplied, cluster)
    else do
      let pods ← recoverPods key cluster.pods
      return (.applied,
        { cluster with pods, deployments := cluster.deployments.adjust key .bindPassword })

end Cluster

end KubeSim
