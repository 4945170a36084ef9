import KubeSim.Proofs.Codec
import KubeSim.Proofs.Evolution

/-! # Clusters made of resources

A cluster is made of lists of resources, and of those with one name the last one is kept. Each is
stored under its own name, and no run of a session changes that: what a rollout changes of a
deployment is not its name. The cluster does not depend on the order in which the resources were
listed, if their names are different, and so neither does its text.
-/

namespace KubeSim

namespace Cluster

/-- Secrets and deployments are stored under their own names. -/
structure KeyedByName (cluster : Cluster) : Prop where
  secrets : cluster.secrets.KeyedBy Secret.name
  deployments : cluster.deployments.KeyedBy Deployment.name

theorem keyedByName_ofResources (pods : List Pod) (secrets : List Secret)
    (deployments : List Deployment) : (ofResources pods secrets deployments).KeyedByName where
  secrets := Catalog.keyedBy_ofList_map Secret.name secrets
  deployments := Catalog.keyedBy_ofList_map Deployment.name deployments

/-- What the rollouts of a run change leaves every name as it is. -/
theorem Evolved.keyedByName {start current : Cluster} (evolved : Evolved start current)
    (keyed : start.KeyedByName) : current.KeyedByName where
  secrets := by
    rw [evolved.secrets]
    exact keyed.secrets
  deployments := by
    have names := Catalog.keyedBy_iff.mp keyed.deployments
    rw [Catalog.keyedBy_iff]
    intro key deployment stored
    by_cases fixed : key ∈ rolledOut start current
    · obtain ⟨before, storedBefore, storedNow⟩ := evolved.wired key fixed
      rw [stored] at storedNow
      cases storedNow
      exact names key before storedBefore
    · rw [evolved.untouched key fixed] at stored
      exact names key deployment stored

/-- The order in which resources of different names are listed makes no difference. -/
theorem ofResources_perm (pods : List Pod) {secrets secrets' : List Secret}
    {deployments deployments' : List Deployment} (distinct : (secrets.map (·.name)).Nodup)
    (distinct' : (deployments.map (·.name)).Nodup) (same : secrets.Perm secrets')
    (same' : deployments.Perm deployments') :
    ofResources pods secrets deployments = ofResources pods secrets' deployments' := by
  rw [ofResources, ofResources, Catalog.ofList_map_perm distinct same,
    Catalog.ofList_map_perm distinct' same']

/-- Whatever resources are listed, a key stands for the last secret and the last deployment of that
name. The deployments are gone through in strictly increasing order of the bytes of their names, and
each of them is the last of its name. Everything is stored under its own name, and still is after
every run of a session on the cluster. If the names in each list are different, their order has no
influence on the cluster and its text. -/
theorem ofResources_canonical (pods : List Pod) (secrets : List Secret)
    (deployments : List Deployment) :
    let cluster := ofResources pods secrets deployments
    (∀ key, cluster.secrets.get? key = secrets.reverse.find? fun secret => secret.name = key) ∧
    (∀ key, cluster.deployments.get? key =
      deployments.reverse.find? fun deployment => deployment.name = key) ∧
    (cluster.deployments.values.Pairwise fun first second =>
      keyBytes first.name < keyBytes second.name) ∧
    (∀ deployment, deployment ∈ cluster.deployments.values ↔
      (deployments.reverse.find? fun other => other.name = deployment.name) = some deployment) ∧
    cluster.KeyedByName ∧
    (∀ moves responses last,
      (Session.ofCluster cluster).play moves = .ok (responses, last) → last.cluster.KeyedByName) ∧
    ∀ secrets' deployments', (secrets.map (·.name)).Nodup → (deployments.map (·.name)).Nodup →
      secrets.Perm secrets' → deployments.Perm deployments' →
      ofResources pods secrets' deployments' = cluster ∧
        (ofResources pods secrets' deployments').encode = cluster.encode := by
  intro cluster
  have secretAt (key : String) : cluster.secrets.get? key =
      secrets.reverse.find? fun secret => secret.name = key :=
    Catalog.get?_ofList_map Secret.name secrets key
  have deploymentAt (key : String) : cluster.deployments.get? key =
      deployments.reverse.find? fun deployment => deployment.name = key :=
    Catalog.get?_ofList_map Deployment.name deployments key
  have keyed : cluster.KeyedByName := keyedByName_ofResources pods secrets deployments
  refine ⟨secretAt, deploymentAt, keyed.deployments.pairwise_values, fun deployment => ?_, keyed,
    fun moves responses last played => ?_, fun secrets' deployments' distinct distinct' => ?_⟩
  · rw [← deploymentAt]
    exact keyed.deployments.mem_values_iff
  · exact (Session.evolved_play played).keyedByName keyed
  · intro same same'
    have equal := ofResources_perm pods distinct distinct' same same'
    exact ⟨equal.symm, congrArg encode equal.symm⟩

/-- Names are in the order of their bytes, in which the wide tilde comes before the face, although
its first code unit of sixteen bits is the larger one. -/
theorem ofResources_canonical_reordered :
    let secrets : List Secret := [.new "é", .new dbSecret]
    let deployments : List Deployment := [.new "😀" 1, .new "～" 2, .new "api" 3]
    let cluster := ofResources [] secrets deployments
    (secrets.map (·.name)).Nodup ∧ (deployments.map (·.name)).Nodup ∧
      secrets.Perm secrets.reverse ∧ deployments.Perm deployments.reverse ∧
      (ofResources [] secrets.reverse deployments.reverse).encode = cluster.encode ∧
      cluster.deployments.values.map (·.name) = ["api", "～", "😀"] ∧
      ∃ responses last, (Session.ofCluster cluster).play
          [.execute "kubectl edit deployment 😀", .advance (.ofMillis 3000)] =
        .ok (responses, last) ∧
        last.cluster.isRemediated "😀" = true ∧ last.cluster.KeyedByName := by
  intro secrets deployments cluster
  have distinct : (secrets.map (·.name)).Nodup := by decide +kernel
  have distinct' : (deployments.map (·.name)).Nodup := by decide +kernel
  have reordered := (List.reverse_perm secrets).symm
  have reordered' := (List.reverse_perm deployments).symm
  obtain ⟨_, _, _, _, _, kept, same⟩ := ofResources_canonical [] secrets deployments
  obtain ⟨responses, last, played, fixed⟩ := Session.exists_of_map_play
    (show ((Session.ofCluster cluster).play
        [.execute "kubectl edit deployment 😀", .advance (.ofMillis 3000)]).map
        (fun run => run.2.cluster.isRemediated "😀") = .ok true by
      decide +kernel)
  exact ⟨distinct, distinct', reordered, reordered',
    (same _ _ distinct distinct' reordered reordered').2, by decide +kernel, responses, last, played,
    fixed, kept _ responses last played⟩

end Cluster

end KubeSim
