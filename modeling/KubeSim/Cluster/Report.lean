import KubeSim.Cluster
import KubeSim.Text.Numeral
import KubeSim.Text.Pad

/-! # What the commands show of the cluster

The pod table, the description of one pod, and the manifest of an edited deployment, as lines of
text. Columns are padded by characters, and a text longer than its column pushes the rest along.
-/

namespace KubeSim

def podTableHeader : String :=
  "NAME                         READY   STATUS              RESTARTS   AGE"

namespace Pod

def tableRow (pod : Pod) : String :=
  Text.padRight 28 pod.name ++ " " ++ pod.readyColumn ++ "     " ++
    Text.padRight 20 pod.phase.name ++ " " ++ Text.decimal pod.restarts.toNat ++
    "          " ++ pod.age

/-- The events shown for a pod whose container keeps crashing. -/
def crashLoopEvents : List String := [
  "  Type     Reason     Age                From               Message",
  "  ----     ------     ----               ----               -------",
  "  Normal   Scheduled  10m                default-scheduler  Successfully assigned " ++
    "default/auth-service to node-1",
  "  Warning  BackOff    9m (x5 over 10m)   kubelet           Back-off restarting failed container"]

/-- The description of a pod, which ends with events when the pod is failing. -/
def description (pod : Pod) : List String := [
  "Name:         " ++ pod.name,
  "Namespace:    default",
  "Priority:     0",
  "Node:         " ++ pod.node,
  "Start Time:   " ++ pod.age ++ " ago",
  "Labels:       app=" ++ pod.appLabel,
  "Status:       " ++ pod.phase.name,
  "IP:           " ++ pod.ip,
  "IPs:",
  "  IP:  " ++ pod.ip,
  "Containers:",
  "  " ++ pod.appLabel ++ ":",
  "    Container ID:  docker://1234567890abcdef",
  "    Image:         " ++ pod.appLabel ++ ":latest",
  "    Image ID:      docker-pullable://registry.k8s.io/pause:3.9",
  "    Port:          " ++ pod.containerPort,
  "    Host Port:     0/TCP",
  "    State:         " ++ pod.phase.name,
  "    Ready:         " ++ (if pod.ready then "true" else "false"),
  "    Restart Count: " ++ Text.decimal pod.restarts.toNat,
  "Events:"] ++ (if pod.phase.isFailure then crashLoopEvents else [])

end Pod

/-- The pod table: the column titles and a line for each pod in model order. -/
def podTable (pods : List Pod) : List String := podTableHeader :: pods.map Pod.tableRow

/-- The manifest shown when a deployment is edited, with the reference to the secret in place. -/
def deploymentManifest (name : String) : List String := [
  "# Please edit the object below. Lines beginning with a \"#\" will be ignored.",
  "apiVersion: apps/v1",
  "kind: Deployment",
  "metadata:",
  "  name: " ++ name,
  "spec:",
  "  template:",
  "    spec:",
  "      containers:",
  "      - name: " ++ name,
  "        env:",
  "        - name: " ++ dbPassword,
  "          valueFrom:",
  "            secretKeyRef:",
  "              name: " ++ dbSecret,
  "              key: " ++ dbPassword]

end KubeSim
