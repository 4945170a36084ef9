import KubeSim.Console
import KubeSim.Screen.Frame
import KubeSim.Screen.Layout
import KubeSim.Screen.Paragraph
import KubeSim.Screen.PodCard
import KubeSim.Screen.ProgressBar

/-! # The whole screen

The header, the side panel, the terminal and the progress panel of a console, each drawn in its
own area of the frame. The terminal shows the newest lines of output and below them the line being
typed, so that the row of the prompt is always in sight.
-/

namespace KubeSim.Screen

/-- Minutes and seconds with at least two digits each. -/
def clockText (seconds : Nat) : String :=
  let twoDigits (n : Nat) := if n < 10 then "0" ++ Text.decimal n else Text.decimal n
  twoDigits (seconds / 60) ++ ":" ++ twoDigits (seconds % 60)

def controls : String := " [F1] Hint  [↑/↓] History  [Esc] Quit "

/-- The look of frames and of muted text. -/
def muted : Style := .colored .darkGray

def accent : Style := .strong .cyan

def dashboardPanel (area : Area) (title : String) : Drawing := panel area title muted accent

def titlePanel (area : Area) : Drawing :=
  tintArea area accent ++ border area muted ++
    paragraph area.inner .left [[⟨" ⎈ " ++ title, .plain⟩]]

def statusPanel (area : Area) (elapsed : Nat) (commandsRun : UInt32) : Drawing :=
  border area muted ++ paragraph area.inner .right [[
    ⟨"Time: " ++ clockText elapsed, .colored .gray⟩,
    ⟨"  ", .plain⟩,
    ⟨"Commands: " ++ Text.decimal commandsRun.toNat, .colored .gray⟩,
    ⟨controls, muted⟩]]

def header (area : Area) (elapsed : Nat) (session : Session) : Drawing :=
  let halves := Layout.header area
  titlePanel halves.left ++ statusPanel halves.right elapsed session.commandsRun

def overviewPanel (area : Area) (cluster : Cluster) : Drawing :=
  let deployments := cluster.deployments.values
  let available := (deployments.filter Deployment.isAvailable).length
  let health := if available = deployments.length then Color.green else .red
  dashboardPanel area "Cluster Overview" ++ paragraph area.inner .left [
    [⟨"Nodes  ", .plain⟩, ⟨"1 active", .colored .gray⟩],
    [⟨"Pods   ", .plain⟩, ⟨Text.decimal cluster.pods.length ++ " total", .colored .gray⟩],
    [⟨"Deploy ", .plain⟩,
      ⟨Text.decimal available ++ "/" ++ Text.decimal deployments.length ++ " available",
        .colored health⟩]]

/-- The areas of the pod cards: one every four rows, each as long as it fits. -/
def cardAreas (inner : Area) (count : Nat) : List Area :=
  ((List.range count).map fun i => { inner with y := inner.y + i * 4, height := 3 }).takeWhile
    fun card => card.y + 3 ≤ inner.bottom

def podPanel (area : Area) (pods : List Pod) : Drawing :=
  dashboardPanel area "Pod Status" ++
    (pods.zip (cardAreas area.inner pods.length)).flatMap fun (pod, card) =>
      podCard pod card.right card

def hintPanel (area : Area) : Drawing :=
  tintArea area (.colored .white) ++ panel area "Hint" (.colored .blue) accent ++
    paragraph area.inner .left ((wrap area.inner.width hint).map fun line => [⟨line, .plain⟩])

def sidePanel (area : Area) (cluster : Cluster) (showHint : Bool) : Drawing :=
  let parts := Layout.side area showHint
  overviewPanel parts.top cluster ++ podPanel parts.middle cluster.pods ++
    if showHint then hintPanel parts.bottom else []

def lineStyle (line : String) : Style :=
  if Text.startsWith line "Error:" || Text.contains line "ERROR:" ||
      Text.contains line "Warning  BackOff" then .strong .red
  else if Text.startsWith line promptMark then .strong .white
  else if Text.startsWith line "#" then muted
  else if Text.contains line "successfully rolled out" || Text.endsWith line " edited" then
    .colored .green
  else if Text.startsWith line "Waiting for" then .colored .yellow
  else .colored .white

/-- The lines of the terminal when `rows` of them are in sight: the newest of the output, and the
prompt. -/
def terminalLines (output : List String) (typed : String) (rows : Nat) : List Span :=
  ((output.drop (output.length + 1 - rows)).map fun line => ⟨line, lineStyle line⟩) ++
    [⟨promptMark ++ typed ++ "_", .colored .green⟩]

def terminalPanel (area : Area) (output : List String) (typed : String) : Drawing :=
  dashboardPanel area "Terminal" ++
    paragraph area.inner .left ((terminalLines output typed (area.height - 2)).map ([·]))

def progressPanel (area : Area) (progress : Progress) : Drawing :=
  dashboardPanel area "Scenario Progress" ++ progressBar progress .blue area.inner

/-- Everything that is drawn for a console in a frame, `elapsed` seconds after the start. -/
def dashboard (console : Console) (elapsed : Nat) (area : Area) : Drawing :=
  let parts := Layout.frame area
  let halves := Layout.content parts.middle
  header parts.top elapsed console.session ++
    sidePanel halves.left console.session.cluster console.showHint ++
    terminalPanel halves.right console.output console.prompt.text ++
    progressPanel parts.bottom console.session.progress

/-- The screen of a console. -/
def render (console : Console) (elapsed width height : Nat) : Canvas :=
  let frame := Area.limited 0 0 width height
  (Canvas.blank frame.width frame.height).draw (dashboard console elapsed frame)

end KubeSim.Screen
