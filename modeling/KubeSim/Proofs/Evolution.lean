import KubeSim.Proofs.Queue
import KubeSim.Proofs.Tokens

/-! # How a cluster evolves over a run

Whatever is done to a session, its cluster is the one it started from but for the deployments that
were rolled out since: each of these is wired once, and each pod came up again once for each of
them whose key begins the pod's name. `Cluster.Evolved` states this closed form; it survives every
remediation, since a deployment that is wired is never wired again.
-/

namespace KubeSim

namespace Cluster

/-- The keys of the deployments that are wired now and were not at the start. -/
def rolledOut (start current : Cluster) : List String :=
  current.deployments.keys.filter fun key => current.isRemediated key && !start.isRemediated key

/-- `current` is `start` but for what the rollouts since then have changed. -/
structure Evolved (start current : Cluster) : Prop where
  words : ∀ key ∈ rolledOut start current, Text.IsWord key
  keys : current.deployments.keys = start.deployments.keys
  secrets : current.secrets = start.secrets
  wired : ∀ key ∈ rolledOut start current, ∃ deployment,
    start.deployments.get? key = some deployment ∧
      current.deployments.get? key = some
        { deployment with
          env := deployment.env ++ [⟨dbPassword, .secretKey dbSecret dbPassword⟩]
          availableReplicas := deployment.replicas }
  untouched : ∀ key, key ∉ rolledOut start current →
    current.deployments.get? key = start.deployments.get? key
  pods : List.Forall₂
    (fun pod => Pod.Restarted ((rolledOut start current).countP (Text.startsWith pod.name)) pod)
    start.pods current.pods

theorem mem_rolledOut_iff {start current : Cluster} {key : String} :
    key ∈ rolledOut start current ↔ key ∈ current.deployments.keys ∧
      current.isRemediated key = true ∧ start.isRemediated key = false := by
  simp [rolledOut]

private theorem nodup_rolledOut (start current : Cluster) : (rolledOut start current).Nodup :=
  current.deployments.nodup_keys.filter _

private theorem rolledOut_self (cluster : Cluster) : rolledOut cluster cluster = [] := by
  simp [rolledOut]

private theorem evolved_self (cluster : Cluster) : Evolved cluster cluster := by
  constructor <;> simp only [rolledOut_self, List.countP_nil]
  · simp
  · simp
  · simp
  · induction cluster.pods with
    | nil => exact .nil
    | cons pod rest ih => exact .cons (Pod.restarted_zero_iff.mpr rfl) ih

variable {start current : Cluster} {key : String} {deployment : Deployment}

/-- A deployment that is broken now was broken from the start. -/
private theorem Evolved.broken_at_start (evolved : Evolved start current)
    (broken : current.isRemediated key = false) : start.isRemediated key = false := by
  have outside : key ∉ rolledOut start current := by
    simp [mem_rolledOut_iff, broken]
  rwa [← isRemediated_congr (evolved.untouched key outside)]

/-- The keys rolled out after one more rollout, in some order. -/
private theorem Evolved.perm_rolledOut_wired (evolved : Evolved start current)
    (stored : current.deployments.get? key = some deployment)
    (broken : current.isRemediated key = false) (pods : List Pod) :
    (rolledOut start (current.wired key pods)).Perm (key :: rolledOut start current) := by
  have outside : key ∉ rolledOut start current := by
    simp [mem_rolledOut_iff, broken]
  refine (List.perm_ext_iff_of_nodup (nodup_rolledOut _ _)
    (List.nodup_cons.mpr ⟨outside, nodup_rolledOut _ _⟩)).mpr fun other => ?_
  rw [List.mem_cons, mem_rolledOut_iff, mem_rolledOut_iff, keys_deployments_wired]
  by_cases same : other = key
  · subst same
    have present := Catalog.mem_keys_iff.mpr ⟨deployment, stored⟩
    simp [present, isRemediated_wired_self stored, evolved.broken_at_start broken]
  · simp [same, isRemediated_wired_of_ne same]

/-- The closed form survives the rollout of a deployment that is broken. -/
theorem Evolved.wire (evolved : Evolved start current)
    (stored : current.deployments.get? key = some deployment)
    (broken : current.isRemediated key = false) (word : Text.IsWord key) {pods : List Pod}
    (recovered : recoverPods key current.pods = .ok pods) :
    Evolved start (current.wired key pods) := by
  have permuted := evolved.perm_rolledOut_wired stored broken pods
  have outside : key ∉ rolledOut start current := by
    simp [mem_rolledOut_iff, broken]
  refine ⟨?_, ?_, evolved.secrets, ?_, ?_, ?_⟩
  · intro other member
    rcases List.mem_cons.mp (permuted.mem_iff.mp member) with rfl | earlier
    · exact word
    · exact evolved.words other earlier
  · rw [keys_deployments_wired, evolved.keys]
  · intro other member
    rw [get?_deployments_wired]
    rcases List.mem_cons.mp (permuted.mem_iff.mp member) with rfl | earlier
    · rw [evolved.untouched other outside] at stored
      refine ⟨deployment, stored, ?_⟩
      rw [if_pos rfl, evolved.untouched other outside, stored]
      rfl
    · have distinct : other ≠ key := by
        rintro rfl
        exact outside earlier
      rw [if_neg distinct]
      exact evolved.wired other earlier
  · intro other absent
    rw [permuted.mem_iff, List.mem_cons, not_or] at absent
    rw [get?_deployments_wired, if_neg absent.1]
    exact evolved.untouched other absent.2
  · have restarted := Pod.forall₂_restarted_trans
      (fun name => (rolledOut start current).countP (Text.startsWith name))
      (fun name => if Text.startsWith name key then 1 else 0)
      evolved.pods (recoverPods_eq_ok_iff.mp recovered)
    apply restarted.imp
    intro pod next total
    rwa [permuted.countP_eq, List.countP_cons]

end Cluster

namespace Session

/-- A session whose cluster evolved from `start`, whose queue names only words, and in which
everything that was wired in `earlier` still is. -/
structure Progressed (start earlier : Cluster) (session : Session) : Prop where
  evolved : start.Evolved session.cluster
  words : ∀ task ∈ session.agenda.queue, ∀ key, task.action = .startRollout key → Text.IsWord key
  kept : ∀ key, earlier.isRemediated key = true → session.cluster.isRemediated key = true

variable {start earlier : Cluster} {session after : Session}

theorem Progressed.fires (progressed : session.Progressed start earlier)
    (coherent : session.Coherent) {deadline : Duration} {task : Task} {lines : List String}
    (fires : Fires deadline session task lines after) : after.Progressed start earlier := by
  obtain ⟨key, _, _, rfl⟩ | ⟨key, deployment, pods, due, action, stored, broken, recovered, _, _, rfl⟩ :=
    coherent.fires_cases fires
  · refine ⟨progressed.evolved, ?_, progressed.kept⟩
    exact fun task left => progressed.words task (List.mem_of_mem_erase left)
  · have word := progressed.words task (Agenda.earliest?_mem fires.popped.1) key action
    refine ⟨progressed.evolved.wire stored broken word recovered, ?_, ?_⟩
    · intro other member name starts
      rcases List.mem_append.mp member with left | single
      · exact progressed.words other (List.mem_of_mem_erase left) name starts
      · obtain rfl := List.mem_singleton.mp single
        cases starts
    · intro name wired
      by_cases same : name = key
      · subst same
        exact Cluster.isRemediated_wired_self stored pods
      · rw [Cluster.isRemediated_wired_of_ne same]
        exact progressed.kept name wired

theorem Progressed.drains (progressed : session.Progressed start earlier)
    (coherent : session.Coherent) {deadline : Duration} {lines : List String}
    (drains : Drains deadline session lines after) : after.Progressed start earlier := by
  induction drains with
  | settled idle => exact ⟨progressed.evolved, progressed.words, progressed.kept⟩
  | fired fires _ ih => exact ih (progressed.fires coherent fires) (coherent.fires fires)

theorem Progressed.move (progressed : session.Progressed start earlier)
    (coherent : session.Coherent) {move : Move} {response : Response}
    (moved : session.move move = .ok (response, after)) : after.Progressed start earlier := by
  cases move with
  | execute line =>
    obtain ⟨count, rfl⟩ | ⟨key, deployment, due, count, parsed, _, _, _, _, rfl⟩ :=
      execute_cases moved
    · exact ⟨progressed.evolved, progressed.words, progressed.kept⟩
    · refine ⟨progressed.evolved, ?_, progressed.kept⟩
      intro task member name action
      rcases List.mem_append.mp member with waiting | single
      · exact progressed.words task waiting name action
      · obtain rfl := List.mem_singleton.mp single
        cases action
        exact Command.isWord_of_parse_editDeployment parsed
  | advance elapsed =>
    obtain ⟨lines, advanced, _⟩ := move_advance_eq_ok_iff.mp moved
    obtain ⟨deadline, _, drained⟩ := advance_eq_ok_iff.mp advanced
    exact progressed.drains coherent (drain_eq_ok_iff.mp drained)
  | shutdown =>
    cases moved
    exact ⟨progressed.evolved, by simp [Session.shutdown, Agenda.cancelAll], progressed.kept⟩

theorem Progressed.play (progressed : session.Progressed start earlier) (rest : session.AtRest)
    {moves : List Move} {responses : List Response}
    (played : session.play moves = .ok (responses, after)) : after.Progressed start earlier :=
  (play_keeps (fun session => session.AtRest ∧ session.Progressed start earlier)
    (fun holds moved => ⟨holds.1.move moved, holds.2.move holds.1.coherent moved⟩)
    ⟨rest, progressed⟩ played).2

theorem progressed_ofCluster (cluster : Cluster) :
    (ofCluster cluster).Progressed cluster cluster :=
  ⟨Cluster.evolved_self cluster, by simp [ofCluster, Agenda.new], fun _ wired => wired⟩

variable {moves more : List Move} {responses others : List Response} {middle : Session}

theorem evolved_play (played : (ofCluster start).play moves = .ok (responses, after)) :
    start.Evolved after.cluster :=
  ((progressed_ofCluster start).play (atRest_ofCluster start) played).evolved

/-- After every run the cluster has its closed form over the cluster that the run started from, and
what was rolled out at some point of the run stays rolled out. -/
theorem evolved_of_play (played : (ofCluster start).play moves = .ok (responses, middle))
    (continued : middle.play more = .ok (others, after)) :
    start.Evolved after.cluster ∧
      ∀ key ∈ start.rolledOut middle.cluster, key ∈ start.rolledOut after.cluster := by
  have reached := (progressed_ofCluster start).play (atRest_ofCluster start) played
  have onwards : middle.Progressed start middle.cluster :=
    ⟨reached.evolved, reached.words, fun _ wired => wired⟩
  have last := onwards.play (atRest_of_play played) continued
  refine ⟨last.evolved, fun key member => ?_⟩
  rw [Cluster.mem_rolledOut_iff] at member ⊢
  obtain ⟨present, wired, broken⟩ := member
  refine ⟨?_, last.kept key wired, broken⟩
  rwa [last.evolved.keys, ← reached.evolved.keys]

/-- A cluster in which the key of one deployment begins the key of the other. -/
def nestedKeys : Cluster :=
  .ofResources
    [.crashLooping "api-gateway-0" "10.0.0.1" 5 ["no password"], .healthy "api-1" "10.0.0.2"] []
    [.new "api" 2, .new "api-gateway" 1]

/-- Two rollouts restart one of the pods twice and the other once. -/
theorem evolved_of_play_nestedKeys : ∃ responses others middle after,
    (ofCluster nestedKeys).play
        [.execute "kubectl edit deployment api", .advance (.ofMillis 2000),
          .execute "kubectl edit deployment api-gateway"] = .ok (responses, middle) ∧
      middle.play [.advance (.ofMillis 2000), .shutdown] = .ok (others, after) ∧
      after.cluster.pods.map (·.restarts) = [7, 1] ∧ nestedKeys.Evolved after.cluster := by
  obtain ⟨responses, middle, played, continued⟩ := exists_of_map_play
    (show ((ofCluster nestedKeys).play
        [.execute "kubectl edit deployment api", .advance (.ofMillis 2000),
          .execute "kubectl edit deployment api-gateway"]).map
        (fun run => (run.2.play [.advance (.ofMillis 2000), .shutdown]).map
          fun rest => rest.2.cluster.pods.map (·.restarts)) = .ok (.ok [7, 1]) by
      decide +kernel)
  obtain ⟨others, after, continued, restarts⟩ := exists_of_map_play continued
  exact ⟨responses, others, middle, after, played, continued, restarts,
    (evolved_of_play played continued).1⟩

end Session

end KubeSim
