import KubeSim.Cluster
import KubeSim.Json.Printer
import KubeSim.Json.Reader

/-! # The cluster as JSON

Each resource is written as an object with its fields in a fixed order, and a catalog as an object
by key. Reading is strict about types and ranges. It ignores further fields, and asks for every
field but a pod's recorded output.
-/

namespace KubeSim

def Catalog.toJson {α : Type} (value : α → Json) (catalog : Catalog α) : Json :=
  .object (catalog.entries.map fun entry => (entry.1, value entry.2))

/-- Reads a catalog, where the last field of a name counts. -/
def Catalog.ofJson? {α : Type} (value? : Json → Option α) : Json → Option (Catalog α)
  | .object fields =>
    (fields.mapM fun field => (value? field.2).map (Prod.mk field.1)).map Catalog.ofList
  | _ => none

namespace Phase

/-- A phase is written as its name. -/
def toJson (phase : Phase) : Json := .string phase.name

def ofJson? (json : Json) : Option Phase :=
  match json.variant? with
  | some (name, none) => ofName? name
  | some (name, some .null) => ofName? name
  | _ => none

end Phase

namespace Pod

/-- The recorded output, `null` when none is kept. -/
def outputJson : Option (List String) → Json
  | none => .null
  | some lines => .array (lines.map .string)

def toJson (pod : Pod) : Json :=
  .object [
    ("name", .string pod.name),
    ("status", pod.phase.toJson),
    ("ready", .bool pod.ready),
    ("restarts", .natural pod.restarts.toNat),
    ("age", .string pod.age),
    ("ip", .string pod.ip),
    ("node", .string pod.node),
    ("logs", outputJson pod.output)]

/-- Reads recorded output, which may be missing. -/
def readOutput? : Option Json → Option (Option (List String))
  | none => some none
  | some .null => some none
  | some json => (json.list? Json.string?).map some

def ofJson? (json : Json) : Option Pod := do
  match ← json.record? ["name", "status", "ready", "restarts", "age", "ip", "node", "logs"] with
  | [some name, some status, some ready, some restarts, some age, some ip, some node, logs] =>
    return {
      name := ← name.string?
      phase := ← Phase.ofJson? status
      ready := ← ready.bool?
      restarts := ← restarts.uint32?
      age := ← age.string?
      ip := ← ip.string?
      node := ← node.string?
      output := ← readOutput? logs }
  | _ => none

end Pod

namespace EnvSource

/-- The JSON value of a source: its kind, and the text or the reference. -/
def toJson : EnvSource → Json
  | .value text => .object [("Value", .string text)]
  | .secretKey secret key =>
    .object [("SecretKeyRef", .object [("name", .string secret), ("key", .string key)])]

def ofJson? (json : Json) : Option EnvSource := do
  match ← json.variant? with
  | ("Value", some content) => return .value (← content.string?)
  | ("SecretKeyRef", some content) =>
    match ← content.record? ["name", "key"] with
    | [some secret, some key] => return .secretKey (← secret.string?) (← key.string?)
    | _ => none
  | _ => none

end EnvSource

namespace EnvVar

def toJson (var : EnvVar) : Json :=
  .object [("name", .string var.name), ("source", var.source.toJson)]

def ofJson? (json : Json) : Option EnvVar := do
  match ← json.record? ["name", "source"] with
  | [some name, some source] => return ⟨← name.string?, ← EnvSource.ofJson? source⟩
  | _ => none

end EnvVar

namespace Deployment

def toJson (deployment : Deployment) : Json :=
  .object [
    ("name", .string deployment.name),
    ("replicas", .natural deployment.replicas.toNat),
    ("available_replicas", .natural deployment.availableReplicas.toNat),
    ("env", .array (deployment.env.map EnvVar.toJson))]

def ofJson? (json : Json) : Option Deployment := do
  match ← json.record? ["name", "replicas", "available_replicas", "env"] with
  | [some name, some replicas, some available, some env] =>
    return {
      name := ← name.string?
      replicas := ← replicas.uint32?
      availableReplicas := ← available.uint32?
      env := ← env.list? EnvVar.ofJson? }
  | _ => none

end Deployment

namespace Secret

def toJson (secret : Secret) : Json :=
  .object [("name", .string secret.name), ("data", secret.data.toJson .string)]

def ofJson? (json : Json) : Option Secret := do
  match ← json.record? ["name", "data"] with
  | [some name, some data] => return ⟨← name.string?, ← Catalog.ofJson? Json.string? data⟩
  | _ => none

end Secret

namespace Cluster

def toJson (cluster : Cluster) : Json :=
  .object [
    ("pods", .array (cluster.pods.map Pod.toJson)),
    ("secrets", cluster.secrets.toJson Secret.toJson),
    ("deployments", cluster.deployments.toJson Deployment.toJson)]

def ofJson? (json : Json) : Option Cluster := do
  match ← json.record? ["pods", "secrets", "deployments"] with
  | [some pods, some secrets, some deployments] =>
    return {
      pods := ← pods.list? Pod.ofJson?
      secrets := ← Catalog.ofJson? Secret.ofJson? secrets
      deployments := ← Catalog.ofJson? Deployment.ofJson? deployments }
  | _ => none

/-- The compact JSON text of a cluster. -/
def encode (cluster : Cluster) : String := cluster.toJson.render

def decode? (text : String) : Option Cluster := (Json.read text).bind ofJson?

end Cluster

end KubeSim
