import KubeSim.Agenda
import KubeSim.Cluster.Report
import KubeSim.Command
import KubeSim.Progress

/-! # A play-through of the scenario

A session owns the cluster, the progress and the agenda. Lines of input answer at once and change
nothing but the agenda and the command counter; what they set in motion happens when time passes.
Editing a deployment schedules the start of its rollout, and the start schedules its end. A step
of a session fails only when the clock or a counter would leave its range.
-/

namespace KubeSim

/-- A failure that is reported to the player as a line of output. -/
inductive CommandError where
  | unknownCommand (line : String)
  | podNotFound (name : String)
  | deploymentNotFound (name : String)
deriving DecidableEq

def CommandError.message : CommandError → String
  | .unknownCommand line => "Error: unknown command \"" ++ line ++ "\""
  | .podNotFound name => "Error: pod \"" ++ name ++ "\" not found"
  | .deploymentNotFound name => "Error: deployment \"" ++ name ++ "\" not found"

/-- What a command produced: lines, and whether the screen is wiped before they are shown. -/
structure Response where
  lines : List String
  clearScreen : Bool
deriving DecidableEq

namespace Response

def silent : Response := ⟨[], false⟩

/-- Lines to show below what is there. -/
def ofLines (lines : List String) : Response := ⟨lines, false⟩

def wipe : Response := ⟨[], true⟩

def error (failure : CommandError) : Response := ofLines [failure.message]

end Response

def helpLines : List String := [
  "Available commands:",
  "  kubectl get pods           - List all pods",
  "  kubectl describe pod NAME  - Show details of a pod",
  "  kubectl logs NAME         - Show logs of a pod",
  "  kubectl edit deployment NAME - Edit a deployment",
  "  clear                     - Clear the terminal",
  "  help                      - Show this help message"]

def rolloutStartDelay : Duration := ⟨2000000000, by decide⟩

def rolloutFinishDelay : Duration := ⟨1000000000, by decide⟩

structure Session where
  cluster : Cluster
  progress : Progress
  agenda : Agenda
  commandsRun : UInt32
deriving DecidableEq

namespace Session

def ofCluster (cluster : Cluster) : Session := ⟨cluster, .start, .new, 0⟩

/-- A session that starts from the broken cluster of the scenario. -/
def new : Session := ofCluster .scenario

instance : Inhabited Session := ⟨new⟩

def now (session : Session) : Duration := session.agenda.now

def hasPendingWork (session : Session) : Bool := 0 < session.agenda.pending

/-- Whether an edit of the deployment has nothing to change: it is fixed or about to be. -/
def isSettled (session : Session) (name : String) : Bool :=
  session.cluster.isRemediated name || session.agenda.isPending (.startRollout name)

def editCancelled : String := "Edit cancelled, no changes made."

def editAccepted : String := "# Configuration updated. Applying changes..."

/-- Shows the manifest of a deployment and, unless there is nothing to change, schedules the start
of its rollout. -/
def edit (session : Session) (name : String) : Except Overflow (Response × Session) :=
  match session.cluster.deployments.get? name with
  | none => .ok (.error (.deploymentNotFound name), session)
  | some _ =>
    if session.isSettled name then
      .ok (.ofLines (deploymentManifest name ++ [editCancelled]), session)
    else do
      let (_, agenda) ← session.agenda.schedule rolloutStartDelay (.startRollout name)
      return (.ofLines (deploymentManifest name ++ ["", editAccepted]), { session with agenda })

/-- Answers with something about the first pod whose name begins with `name`. -/
def aboutPod (session : Session) (name : String) (report : Pod → List String) : Response :=
  match session.cluster.findPod? name with
  | some pod => .ofLines (report pod)
  | none => .error (.podNotFound name)

def run (session : Session) : Command → Except Overflow (Response × Session)
  | .help => .ok (.ofLines helpLines, session)
  | .clear => .ok (.wipe, session)
  | .getPods => .ok (.ofLines (podTable session.cluster.pods), session)
  | .logs pod => .ok (session.aboutPod pod Pod.logs, session)
  | .describePod pod => .ok (session.aboutPod pod Pod.description, session)
  | .editDeployment name => session.edit name
  | .unknown line => .ok (.error (.unknownCommand line), session)

/-- Runs a line of input. A blank line is ignored, and any other line is counted. -/
def execute (session : Session) (line : String) : Except Overflow (Response × Session) :=
  if Text.trim line = "" then .ok (.silent, session)
  else do
    let commandsRun ← Counter.next session.commandsRun
    { session with commandsRun }.run (Command.parse line)

def rolloutStarted (deployment : String) (replicas : UInt32) : List String := [
  "deployment.apps/" ++ deployment ++ " edited",
  "Waiting for deployment \"" ++ deployment ++ "\" rollout to finish: 0 of " ++
    Text.decimal replicas.toNat ++ " updated replicas are available..."]

def rolloutFinished (deployment : String) : String :=
  "deployment \"" ++ deployment ++ "\" successfully rolled out"

/-- Carries out a scripted action and returns the lines it shows. The start of a rollout fixes the
deployment, moves the progress on and schedules the end of the rollout. -/
def perform (session : Session) : Action → Except Overflow (List String × Session)
  | .startRollout name => do
    let (found, cluster) ← session.cluster.remediate name
    if found = .noSuchDeployment then
      return ([(CommandError.deploymentNotFound name).message], session)
    let replicas := ((cluster.deployments.get? name).map (·.replicas)).getD 1
    let (_, agenda) ← session.agenda.schedule rolloutFinishDelay (.finishRollout name)
    return (rolloutStarted name replicas,
      { session with cluster, agenda, progress := session.progress.advanced Progress.remediated })
  | .finishRollout name => .ok ([rolloutFinished name], session)

theorem workload_perform {session after : Session} {action : Action} {lines : List String}
    (performed : session.perform action = .ok (lines, after)) :
    after.agenda.workload < session.agenda.workload + action.weight := by
  cases action with
  | finishRollout name =>
    cases performed
    simp [Action.weight]
  | startRollout name =>
    simp only [perform, bind, Except.bind, pure, Except.pure] at performed
    split at performed
    · cases performed
    · split at performed
      · cases performed
        simp [Action.weight]
      · split at performed
        · cases performed
        · next scheduled =>
          cases performed
          have := Agenda.workload_schedule_le scheduled
          simp only [Action.weight] at this ⊢
          omega

/-- Carries out every action due by `deadline`, in order, and then moves the clock there. -/
def drain (session : Session) (deadline : Duration) : Except Overflow (List String × Session) :=
  match popped : session.agenda.popDue deadline with
  | none => .ok ([], { session with agenda := session.agenda.settle deadline })
  | some (task, agenda) =>
    match performed : { session with agenda }.perform task.action with
    | .error failure => .error failure
    | .ok (lines, after) =>
      have : after.agenda.workload < session.agenda.workload := by
        rw [← Agenda.workload_popDue popped]
        exact workload_perform performed
      match after.drain deadline with
      | .error failure => .error failure
      | .ok (more, last) => .ok (lines ++ more, last)
termination_by session.agenda.workload

/-- Lets time pass and returns the lines of every action that came due, in order. -/
def advance (session : Session) (elapsed : Duration) : Except Overflow (List String × Session) :=
  match session.now.add? elapsed with
  | none => .error .clock
  | some deadline => session.drain deadline

/-- Cancels every waiting action; nothing happens of itself after this. -/
def shutdown (session : Session) : Session := { session with agenda := session.agenda.cancelAll }

end Session

end KubeSim
