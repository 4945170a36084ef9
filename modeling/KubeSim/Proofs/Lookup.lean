import KubeSim.Proofs.Evolution
import KubeSim.Proofs.Grammar
import KubeSim.Proofs.Tally

/-! # The pod that a name stands for

A name in a command stands for the first pod, in model order, whose name begins with it. No run
changes the names or their order, so a name stands for the pod in the same place at any time, and
`Session.replies` says how a session answers about it. A pod's own name is no exception: it stands
for an earlier pod when the name of that pod begins with it.
-/

namespace KubeSim

/-- No pod before this place has a name that begins with `name`. -/
def Unshadowed (pods : List Pod) (name : String) (place : Nat) : Prop :=
  ∀ earlier < place, ∀ pod, pods[earlier]? = some pod → Text.startsWith pod.name name = false

/-- The pod in this place is the first whose name begins with `name`. -/
structure FirstNamed (pods : List Pod) (name : String) (place : Nat) (pod : Pod) : Prop where
  found : pods[place]? = some pod
  begins : Text.startsWith pod.name name = true
  unshadowed : Unshadowed pods name place

section

variable {pods others : List Pod} {name : String} {place otherPlace : Nat} {pod other : Pod}

theorem Unshadowed.mono (unshadowed : Unshadowed pods name place) (before : otherPlace ≤ place) :
    Unshadowed pods name otherPlace :=
  fun earlier less => unshadowed earlier (less.trans_le before)

/-- Only the names decide what shadows what. -/
theorem Unshadowed.of_names (unshadowed : Unshadowed pods name place)
    (same : others.map (·.name) = pods.map (·.name)) : Unshadowed others name place := by
  intro earlier less pod found
  have names := congrArg (fun names : List String => names[earlier]?) same
  simp only [List.getElem?_map, found, Option.map_some] at names
  obtain ⟨before, placed, name_eq⟩ := Option.map_eq_some_iff.mp names.symm
  rw [← name_eq]
  exact unshadowed earlier less before placed

theorem FirstNamed.le (first : FirstNamed pods name place pod)
    (placed : pods[otherPlace]? = some other) (begins : Text.startsWith other.name name = true) :
    place ≤ otherPlace := by
  by_contra before
  simp [first.unshadowed otherPlace (Nat.lt_of_not_le before) other placed] at begins

theorem FirstNamed.unique (first : FirstNamed pods name place pod)
    (second : FirstNamed pods name otherPlace other) : place = otherPlace ∧ pod = other := by
  obtain rfl : place = otherPlace :=
    le_antisymm (first.le second.found second.begins) (second.le first.found first.begins)
  exact ⟨rfl, Option.some.inj (first.found.symm.trans second.found)⟩

private theorem place_eq_of_name_eq (distinct : (pods.map (·.name)).Nodup)
    (placed : pods[place]? = some pod) (otherPlaced : pods[otherPlace]? = some other)
    (same : pod.name = other.name) : place = otherPlace := by
  have inside : place < (pods.map (·.name)).length := by
    rw [List.length_map]
    exact (List.getElem?_eq_some_iff.mp placed).1
  rw [← List.getElem?_inj inside distinct, List.getElem?_map, List.getElem?_map, placed,
    otherPlaced, Option.map_some, Option.map_some, same]

theorem find?_eq_some_iff_firstNamed :
    pods.find? (fun pod => Text.startsWith pod.name name) = some pod ↔
      ∃ place, FirstNamed pods name place pod := by
  rw [List.find?_eq_some_iff_getElem]
  constructor
  · rintro ⟨begins, place, inside, found, before⟩
    refine ⟨place, List.getElem?_eq_some_iff.mpr ⟨inside, found⟩, begins, ?_⟩
    intro earlier less other placed
    obtain ⟨_, rfl⟩ := List.getElem?_eq_some_iff.mp placed
    simpa using before earlier less
  · rintro ⟨place, placed, begins, unshadowed⟩
    obtain ⟨inside, found⟩ := List.getElem?_eq_some_iff.mp placed
    refine ⟨begins, place, inside, found, fun earlier less => ?_⟩
    simpa using unshadowed earlier less _ (List.getElem?_eq_getElem (less.trans inside))

theorem exists_firstNamed (member : pod ∈ pods)
    (begins : Text.startsWith pod.name name = true) :
    ∃ place first, FirstNamed pods name place first := by
  cases search : pods.find? (fun pod => Text.startsWith pod.name name) with
  | none => exact absurd begins (List.find?_eq_none.mp search pod member)
  | some first =>
    obtain ⟨place, named⟩ := find?_eq_some_iff_firstNamed.mp search
    exact ⟨place, first, named⟩

end

namespace Cluster

variable {start current : Cluster} {name : String} {place : Nat} {pod : Pod}

theorem findPod?_eq_some_iff (nonempty : name ≠ "") :
    current.findPod? name = some pod ↔ ∃ place, FirstNamed current.pods name place pod := by
  rw [findPod?, if_neg nonempty, find?_eq_some_iff_firstNamed]

theorem findPod?_eq_none_iff (nonempty : name ≠ "") :
    current.findPod? name = none ↔
      ∀ pod ∈ current.pods, Text.startsWith pod.name name = false := by
  simp [findPod?, nonempty]

/-! ## Over a run -/

theorem Evolved.map_name_pods (evolved : Evolved start current) :
    current.pods.map (·.name) = start.pods.map (·.name) := by
  rw [← List.forall₂_eq_eq_eq, List.forall₂_map_left_iff, List.forall₂_map_right_iff]
  exact evolved.pods.flip.imp fun _ _ restarted => restarted.name_eq

/-- A pod keeps its place. -/
theorem Evolved.getElem?_pods (evolved : Evolved start current)
    (placed : start.pods[place]? = some pod) :
    ∃ after, current.pods[place]? = some after ∧
      Pod.Restarted ((rolledOut start current).countP (Text.startsWith pod.name)) pod after := by
  obtain ⟨inside, rfl⟩ := List.getElem?_eq_some_iff.mp placed
  have still : place < current.pods.length := evolved.pods.length_eq ▸ inside
  exact ⟨current.pods[place], List.getElem?_eq_getElem still, evolved.pods.get inside still⟩

/-- The names stand for the places that they stood for at the start. -/
theorem Evolved.firstNamed (evolved : Evolved start current)
    (first : FirstNamed start.pods name place pod) :
    ∃ after, FirstNamed current.pods name place after ∧
      Pod.Restarted ((rolledOut start current).countP (Text.startsWith pod.name)) pod after := by
  obtain ⟨after, placed, restarted⟩ := evolved.getElem?_pods first.found
  have begins : Text.startsWith after.name name = true := restarted.name_eq ▸ first.begins
  exact ⟨after, ⟨placed, begins, first.unshadowed.of_names evolved.map_name_pods⟩, restarted⟩

theorem Evolved.unnamed (evolved : Evolved start current)
    (unnamed : ∀ pod ∈ start.pods, Text.startsWith pod.name name = false) :
    ∀ pod ∈ current.pods, Text.startsWith pod.name name = false := by
  intro pod member
  have named : pod.name ∈ start.pods.map (·.name) :=
    evolved.map_name_pods ▸ List.mem_map_of_mem member
  obtain ⟨before, present, same⟩ := List.mem_map.mp named
  rw [← same]
  exact unnamed before present

end Cluster

/-! ## The description -/

namespace Pod

/-- The lines of a description that show a pod as it is: its name, its status, whether it is ready,
how often it came up again, and at the end the events of a container that keeps crashing. -/
structure ShownBy (pod : Pod) (lines : List String) : Prop where
  name : lines[0]? = some ("Name:         " ++ pod.name)
  status : lines[6]? = some ("Status:       " ++
    if pod.phase = .running then "Running" else "CrashLoopBackOff")
  state : lines[17]? = some ("    State:         " ++
    if pod.phase = .running then "Running" else "CrashLoopBackOff")
  ready : lines[18]? = some ("    Ready:         " ++ if pod.ready then "true" else "false")
  restarts : lines[19]? = some ("    Restart Count: " ++ toString pod.restarts.toNat)
  events : lines.drop 20 = "Events:" :: if pod.phase = .running then [] else [
    "  Type     Reason     Age                From               Message",
    "  ----     ------     ----               ----               -------",
    "  Normal   Scheduled  10m                default-scheduler  " ++
      "Successfully assigned default/auth-service to node-1",
    "  Warning  BackOff    9m (x5 over 10m)   kubelet           " ++
      "Back-off restarting failed container"]

theorem shownBy_description (pod : Pod) : pod.ShownBy pod.description := by
  have status : pod.phase.name =
      if pod.phase = .running then "Running" else "CrashLoopBackOff" := by
    cases pod.phase <;> rfl
  constructor
  · rfl
  · rw [← status]
    rfl
  · rw [← status]
    rfl
  · rfl
  · rw [← Text.decimal_eq_toString]
    rfl
  · rw [description]
    cases pod.phase <;> rfl

theorem head?_description (pod : Pod) :
    pod.description.head? = some ("Name:         " ++ pod.name) := rfl

/-- A description ends with the events exactly when the pod is failing. -/
theorem crashLoopEvents_isSuffix_description_iff {pod : Pod} :
    crashLoopEvents <:+ pod.description ↔ pod.phase = .crashLoopBackOff := by
  constructor
  · rintro ⟨front, same⟩
    cases phase : pod.phase with
    | crashLoopBackOff => rfl
    | running =>
      -- Without events the last line is their title.
      have last := congrArg List.getLast? same
      simp [description, phase, Phase.isFailure, crashLoopEvents] at last
  · intro phase
    rw [description, phase]
    exact List.suffix_append ..

/-- A pod is failing when it was failing and never came up again. -/
theorem Restarted.phase_eq_crashLoopBackOff_iff {keys : List String} {before after : Pod}
    (restarted : Restarted (keys.countP (Text.startsWith before.name)) before after) :
    after.phase = .crashLoopBackOff ↔ before.phase = .crashLoopBackOff ∧
      ∀ key ∈ keys, Text.startsWith before.name key = false := by
  have never : keys.countP (Text.startsWith before.name) = 0 ↔
      ∀ key ∈ keys, Text.startsWith before.name key = false := by
    simp [List.countP_eq_zero]
  rw [restarted.others, ← never]
  rcases Nat.eq_zero_or_pos (keys.countP (Text.startsWith before.name)) with zero | pos
  · simp [zero]
  · simp [pos, Nat.pos_iff_ne_zero.mp pos]

end Pod

/-! ## Answers -/

namespace Session

open Text (Spelling IsWord)

variable {session : Session} {name : String}

/-- The session answers and has counted one more command. -/
def answered (session : Session) (response : Response) : Except Overflow (Response × Session) := do
  let commandsRun ← Counter.next session.commandsRun
  return (response, { session with commandsRun })

/-- An answer is due unless the counter is full. -/
theorem exists_answered_iff {response : Response} :
    (∃ after, session.answered response = .ok (response, after)) ↔
      session.commandsRun.toNat + 1 < UInt32.size := by
  simp only [answered, bind_eq_ok_iff, Counter.next_eq_ok_iff, pure, Except.pure, Except.ok.injEq,
    Prod.mk.injEq, true_and]
  constructor
  · rintro ⟨after, count, next, rfl⟩
    rw [← next]
    exact count.toNat_lt
  · intro room
    exact ⟨_, UInt32.ofNatLT (session.commandsRun.toNat + 1) room, UInt32.toNat_ofNatLT, rfl⟩

/-- A line of a known form that asks for nothing but an answer gets it. -/
private theorem execute_eq_answered {spelling : Spelling} {command : Command} {response : Response}
    (form : Command.Form spelling.tokens command)
    (ran : ∀ commandsRun, { session with commandsRun }.run command =
      .ok (response, { session with commandsRun })) :
    session.execute spelling.line = session.answered response := by
  have filled : Text.trim spelling.line ≠ "" := by
    intro blank
    rw [← spelling.tokens_line, Text.tokens_of_trim_eq_empty blank] at form
    cases form
  rw [execute, if_neg filled, Command.parse_line_eq_iff.mpr (.inl form)]
  simp only [ran]
  rfl

/-- How the session answers a request for the logs and one for the description of the pod that
`name` stands for, whatever blanks and further words are in the line. -/
structure Replies (session : Session) (name : String) (logs description : Response) : Prop where
  logs : ∀ (spelling : Spelling) (more : List String),
    spelling.tokens = "kubectl" :: "logs" :: name :: more →
      session.execute spelling.line = session.answered logs
  description : ∀ (spelling : Spelling) (more : List String),
    spelling.tokens = "kubectl" :: "describe" :: "pod" :: name :: more →
      session.execute spelling.line = session.answered description

section

variable {logs description : Response} {line : String} {more : List String}

private theorem Replies.execute_logs (answers : session.Replies name logs description)
    (read : Text.tokens line = "kubectl" :: "logs" :: name :: more) :
    session.execute line = session.answered logs := by
  obtain ⟨spelling, rfl, _⟩ := Spelling.existsUnique_line line
  exact answers.logs spelling more (spelling.tokens_line.symm.trans read)

private theorem Replies.execute_describe (answers : session.Replies name logs description)
    (read : Text.tokens line = "kubectl" :: "describe" :: "pod" :: name :: more) :
    session.execute line = session.answered description := by
  obtain ⟨spelling, rfl, _⟩ := Spelling.existsUnique_line line
  exact answers.description spelling more (spelling.tokens_line.symm.trans read)

end

/-- Both requests are about the same pod. -/
theorem replies (session : Session) (name : String) :
    session.Replies name (session.aboutPod name Pod.logs)
      (session.aboutPod name Pod.description) := by
  constructor
  · intro spelling more words
    have form : Command.Form spelling.tokens (.logs name) := words ▸ .logs name more
    exact execute_eq_answered form fun _ => rfl
  · intro spelling more words
    have form : Command.Form spelling.tokens (.describePod name) := words ▸ .describePod name more
    exact execute_eq_answered form fun _ => rfl

private theorem replies_of_findPod?_eq_some {pod : Pod}
    (found : session.cluster.findPod? name = some pod) :
    session.Replies name (.ofLines pod.logs) (.ofLines pod.description) := by
  have answers := session.replies name
  simp only [aboutPod, found] at answers
  exact answers

private theorem replies_of_findPod?_eq_none (missing : session.cluster.findPod? name = none) :
    session.Replies name (.error (.podNotFound name)) (.error (.podNotFound name)) := by
  have answers := session.replies name
  simp only [aboutPod, missing] at answers
  exact answers

/-- A name stands for the pod that it stood for at the start, as that pod is now. -/
theorem replies_of_firstNamed {start : Cluster} {place : Nat} {pod : Pod}
    (evolved : start.Evolved session.cluster) (nonempty : name ≠ "")
    (first : FirstNamed start.pods name place pod) :
    ∃ current, session.cluster.pods[place]? = some current ∧
      Pod.Restarted ((start.rolledOut session.cluster).countP (Text.startsWith pod.name)) pod
        current ∧
      session.Replies name (.ofLines (pod.output.getD [])) (.ofLines current.description) := by
  obtain ⟨current, firstNow, restarted⟩ := evolved.firstNamed first
  have found := (Cluster.findPod?_eq_some_iff nonempty).mpr ⟨place, firstNow⟩
  have logs : current.logs = pod.output.getD [] := by
    rw [Pod.logs, restarted.others]
  exact ⟨current, firstNow.found, restarted, logs ▸ replies_of_findPod?_eq_some found⟩

variable {start : Cluster} {moves : List Move} {responses : List Response} {last : Session}

private theorem exists_answered_iff_of_play
    (played : (ofCluster start).play moves = .ok (responses, last)) (response : Response) :
    (∃ after, last.answered response = .ok (response, after)) ↔
      commandCount moves + 1 < UInt32.size := by
  rw [exists_answered_iff, commandsRun_of_play played]

/-- After every run a name stands for the first pod of the start whose name begins with it. Its logs
are the stored ones. Its description shows it as it is now, line by line, and ends with the events
unless the pod came up again. A name that begins no pod's name is reported. An answer fails to come
only when the commands can no longer be counted. -/
theorem replies_of_play (played : (ofCluster start).play moves = .ok (responses, last))
    (word : IsWord name) :
    (∀ response, (∃ after, last.answered response = .ok (response, after)) ↔
      commandCount moves + 1 < UInt32.size) ∧
    ((∃ pod ∈ start.pods, Text.startsWith pod.name name = true) →
      ∃ place pod current, FirstNamed start.pods name place pod ∧
        last.cluster.pods[place]? = some current ∧
        Pod.Restarted ((start.rolledOut last.cluster).countP (Text.startsWith pod.name)) pod
          current ∧
        last.Replies name (.ofLines (pod.output.getD [])) (.ofLines current.description) ∧
        current.name = pod.name ∧ current.ShownBy current.description ∧
        (Pod.crashLoopEvents <:+ current.description ↔ pod.phase = .crashLoopBackOff ∧
          ∀ key ∈ start.rolledOut last.cluster, Text.startsWith pod.name key = false)) ∧
    ((∀ pod ∈ start.pods, Text.startsWith pod.name name = false) →
      last.Replies name (.ofLines ["Error: pod \"" ++ name ++ "\" not found"])
        (.ofLines ["Error: pod \"" ++ name ++ "\" not found"])) := by
  have evolved := evolved_play played
  refine ⟨exists_answered_iff_of_play played, fun ⟨_, member, begins⟩ => ?_, fun unnamed => ?_⟩
  · obtain ⟨place, pod, first⟩ := exists_firstNamed member begins
    obtain ⟨current, placed, restarted, answers⟩ :=
      replies_of_firstNamed evolved word.nonempty first
    refine ⟨place, pod, current, first, placed, restarted, answers, restarted.name_eq,
      current.shownBy_description, ?_⟩
    rw [Pod.crashLoopEvents_isSuffix_description_iff, restarted.phase_eq_crashLoopBackOff_iff]
  · exact replies_of_findPod?_eq_none
      ((Cluster.findPod?_eq_none_iff word.nonempty).mpr (evolved.unnamed unnamed))

/-- The beginning of two names stands for the first of them, which came up once more in the run. -/
theorem replies_of_play_nestedKeys :
    IsWord "api" ∧ IsWord "redis" ∧ ∃ responses last description,
      (ofCluster nestedKeys).play
          [.execute "kubectl edit deployment api-gateway", .advance (.ofMillis 2000), .shutdown] =
        .ok (responses, last) ∧
      last.execute "\tkubectl  logs api now\n" = last.answered (.ofLines ["no password"]) ∧
      last.execute "kubectl describe pod api" = last.answered (.ofLines description) ∧
      description[0]? = some "Name:         api-gateway-0" ∧
      description[6]? = some "Status:       Running" ∧
      description[18]? = some "    Ready:         true" ∧
      description[19]? = some "    Restart Count: 6" ∧
      description.getLast? = some "Events:" ∧
      ¬Pod.crashLoopEvents <:+ description ∧
      last.execute "kubectl logs redis" =
        last.answered (.ofLines ["Error: pod \"redis\" not found"]) := by
  have api : IsWord "api" := by decide +kernel
  have redis : IsWord "redis" := by decide +kernel
  obtain ⟨responses, last, played, rolledOut⟩ := exists_of_map_play
    (show ((ofCluster nestedKeys).play
        [.execute "kubectl edit deployment api-gateway", .advance (.ofMillis 2000),
          .shutdown]).map (fun run => nestedKeys.rolledOut run.2.cluster) = .ok ["api-gateway"] by
      decide +kernel)
  have first : FirstNamed nestedKeys.pods "api" 0
      (.crashLooping "api-gateway-0" "10.0.0.1" 5 ["no password"]) :=
    ⟨by decide +kernel, by decide +kernel, fun _ less => absurd less (Nat.not_lt_zero _)⟩
  obtain ⟨_, named, _⟩ := replies_of_play played api
  obtain ⟨_, _, unnamed⟩ := replies_of_play played redis
  obtain ⟨_, _, current, found, _, restarted, answers, name, shown, events⟩ :=
    named ⟨_, List.mem_of_getElem? first.found, first.begins⟩
  obtain ⟨rfl, rfl⟩ := found.unique first
  rw [rolledOut] at restarted events
  have restarts : current.restarts.toNat = 6 := restarted.restarts
  have running : current.phase = .running := by rw [restarted.others]; rfl
  have ready : current.ready = true := by rw [restarted.others]; rfl
  have ending : current.description.getLast? = some "Events:" := by
    rw [← List.take_append_drop 20 current.description, shown.events, if_pos running]
    simp
  refine ⟨api, redis, responses, last, current.description, played, ?_, ?_, ?_, ?_, ?_, ?_, ending,
    ?_, ?_⟩
  · exact answers.execute_logs
      (show Text.tokens "\tkubectl  logs api now\n" = ["kubectl", "logs", "api", "now"] by
        decide +kernel)
  · exact answers.execute_describe
      (show Text.tokens "kubectl describe pod api" = ["kubectl", "describe", "pod", "api"] by
        decide +kernel)
  · rw [shown.name, name]
    rfl
  · rw [shown.status, if_pos running]
    rfl
  · rw [shown.ready, if_pos ready]
    rfl
  · rw [shown.restarts, restarts]
    rfl
  · rw [events]
    rintro ⟨_, none⟩
    exact absurd (none "api-gateway" (by simp)) (by decide +kernel)
  · exact (unnamed (by decide +kernel)).execute_logs
      (show Text.tokens "kubectl logs redis" = ["kubectl", "logs", "redis"] by decide +kernel)

/-! ## Own names -/

/-- After every run the own name of a pod stands for the first pod whose name begins with it. That
is the pod itself unless an earlier pod shadows it, which is then another pod of another name. -/
theorem own_name_of_play (played : (ofCluster start).play moves = .ok (responses, last))
    (distinct : (start.pods.map (·.name)).Nodup) (words : ∀ pod ∈ start.pods, IsWord pod.name)
    {place : Nat} {pod : Pod} (placed : start.pods[place]? = some pod) :
    (∀ response, (∃ after, last.answered response = .ok (response, after)) ↔
      commandCount moves + 1 < UInt32.size) ∧
    ∃ first other current, FirstNamed start.pods pod.name first other ∧
      last.cluster.pods[first]? = some current ∧
      Pod.Restarted ((start.rolledOut last.cluster).countP (Text.startsWith other.name)) other
        current ∧
      last.Replies pod.name (.ofLines (other.output.getD [])) (.ofLines current.description) ∧
      current.description.head? = some ("Name:         " ++ other.name) ∧
      (Unshadowed start.pods pod.name place → first = place ∧ other = pod) ∧
      (¬Unshadowed start.pods pod.name place → first < place ∧ other.name ≠ pod.name) := by
  have member := List.mem_of_getElem? placed
  have begins : Text.startsWith pod.name pod.name = true := Text.startsWith_iff.mpr List.prefix_rfl
  obtain ⟨first, other, named⟩ := exists_firstNamed member begins
  obtain ⟨current, placedNow, restarted, answers⟩ :=
    replies_of_firstNamed (evolved_play played) (words pod member).nonempty named
  refine ⟨exists_answered_iff_of_play played, first, other, current, named, placedNow, restarted,
    answers, ?_, ?_, ?_⟩
  · rw [Pod.head?_description, restarted.name_eq]
  · exact fun unshadowed => named.unique ⟨placed, begins, unshadowed⟩
  · intro shadowed
    have less : first < place := by
      by_contra before
      exact shadowed (named.unshadowed.mono (Nat.le_of_not_lt before))
    exact ⟨less, fun same => less.ne (place_eq_of_name_eq distinct named.found placed same)⟩

/-- A cluster in which the name of the second pod begins the name of the first. -/
def shadowed : Cluster :=
  .ofResources
    [.crashLooping "api-10" "10.0.0.1" 5 ["no password"], .healthy "api-1" "10.0.0.2"] []
    [.new "api" 1]

/-- The second pod keeps no output, and still its name gets the output of the first. -/
theorem own_name_shadowed :
    (shadowed.pods.map (·.name)).Nodup ∧ (∀ pod ∈ shadowed.pods, IsWord pod.name) ∧
    ∃ pod, shadowed.pods[1]? = some pod ∧ pod.name = "api-1" ∧ pod.logs = [] ∧
      (((ofCluster shadowed).execute "kubectl logs api-1").map fun step => step.1.lines) =
        .ok ["no password"] ∧
      (((ofCluster shadowed).execute "kubectl describe pod api-1").map
        fun step => step.1.lines.head?) = .ok (some "Name:         api-10") := by
  refine ⟨by decide +kernel, by decide +kernel, .healthy "api-1" "10.0.0.2", ?_⟩
  decide +kernel

/-- After a rollout the first pod is still found by its own name, and the second is not. -/
theorem own_name_of_play_shadowed : ∃ responses last,
    (ofCluster shadowed).play [.execute "kubectl edit deployment api", .advance (.ofMillis 2000)] =
      .ok (responses, last) ∧
    (∃ description, last.Replies "api-10" (.ofLines ["no password"]) (.ofLines description) ∧
      description.head? = some "Name:         api-10") ∧
    ∃ (other : Pod) (description : List String), other.name ≠ "api-1" ∧
      last.Replies "api-1" (.ofLines (other.output.getD [])) (.ofLines description) ∧
      description.head? = some ("Name:         " ++ other.name) := by
  have distinct : (shadowed.pods.map (·.name)).Nodup := by decide +kernel
  have words : ∀ pod ∈ shadowed.pods, IsWord pod.name := by decide +kernel
  obtain ⟨responses, last, played, _⟩ := exists_of_map_play
    (show ((ofCluster shadowed).play
        [.execute "kubectl edit deployment api", .advance (.ofMillis 2000)]).map
        (fun run => run.2.cluster.pods.map (·.restarts)) = .ok [6, 1] by
      decide +kernel)
  refine ⟨responses, last, played, ?_, ?_⟩
  · obtain ⟨_, first, other, current, _, _, _, answers, head, own, _⟩ :=
      own_name_of_play played distinct words
        (show shadowed.pods[0]? = some (.crashLooping "api-10" "10.0.0.1" 5 ["no password"]) by
          decide +kernel)
    obtain ⟨_, rfl⟩ := own fun _ less => absurd less (Nat.not_lt_zero _)
    exact ⟨current.description, answers, head⟩
  · obtain ⟨_, first, other, current, _, _, _, answers, head, _, another⟩ :=
      own_name_of_play played distinct words
        (show shadowed.pods[1]? = some (.healthy "api-1" "10.0.0.2") by decide +kernel)
    obtain ⟨_, different⟩ := another fun unshadowed =>
      absurd (unshadowed 0 Nat.zero_lt_one _ rfl) (by decide +kernel)
    exact ⟨other, current.description, different, answers, head⟩

end Session

end KubeSim
