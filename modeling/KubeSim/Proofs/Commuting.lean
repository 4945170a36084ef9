import KubeSim.Proofs.Remediation

/-! # Remediations commute

A remediation acts once at most, and whether it acts is told by the deployment under its key alone:
`Cluster.finding` says beforehand what it finds. So what two remediations under different keys find
does not depend on their order. Neither does what they do. They change different deployments, and
where they restart the same pod its restarts add up. They fail for want of room in a pod's counter,
and then in either order, since the room that is needed is the room for both
(`Cluster.recoverPods_comm`).
-/

namespace KubeSim

/-- Steps that have the same outcomes, and can fail in one way only, are the same. -/
private theorem eq_of_ok_iff {α : Type} {first second : Except Overflow α} {failure : Overflow}
    (same : ∀ value, first = .ok value ↔ second = .ok value)
    (fails : ∀ other, first = .error other → other = failure)
    (failsToo : ∀ other, second = .error other → other = failure) : first = second := by
  cases first with
  | ok value => exact ((same value).mp rfl).symm
  | error other =>
    cases second with
    | ok value => cases (same value).mpr rfl
    | error another => rw [fails other rfl, failsToo another rfl]

/-- Changes under two keys can be made in either order. -/
theorem Catalog.adjust_comm {α : Type} (catalog : Catalog α) {key other : String}
    (distinct : key ≠ other) (change changeOther : α → α) :
    (catalog.adjust key change).adjust other changeOther =
      (catalog.adjust other changeOther).adjust key change := by
  ext1
  simp only [adjust, List.map_map]
  apply List.map_congr_left
  intro entry _
  simp only [Function.comp_apply]
  by_cases isKey : entry.1 = key
  · have notOther : entry.1 ≠ other := fun isOther => distinct (isKey.symm.trans isOther)
    simp only [if_pos isKey, if_neg notOther]
  · by_cases isOther : entry.1 = other
    · simp only [if_pos isOther, if_neg isKey]
    · simp only [if_neg isOther, if_neg isKey]

/-- Restarts of a pod can be counted in two parts. -/
private theorem Pod.restarted_add_iff {first second : Nat} {before after : Pod} :
    Restarted (first + second) before after ↔
      ∃ middle, Restarted first before middle ∧ Restarted second middle after := by
  constructor
  · intro total
    have sum := total.restarts
    have bound := after.restarts.toNat_lt_size
    have counted : (UInt32.ofNat (before.restarts.toNat + first)).toNat =
        before.restarts.toNat + first := UInt32.toNat_ofNat_of_lt' (by omega)
    refine ⟨{ before with
      restarts := .ofNat (before.restarts.toNat + first)
      phase := if 0 < first then .running else before.phase
      ready := if 0 < first then true else before.ready }, ⟨counted, rfl⟩, ?_, ?_⟩
    · rw [counted]
      omega
    · rw [total.others]
      rcases Nat.eq_zero_or_pos second with rfl | later
      · simp
      · have both : 0 < first + second := by omega
        simp [later, both]
  · rintro ⟨middle, left, right⟩
    exact left.trans right

namespace Cluster

/-! ## Pods that two remediations restart -/

/-- Restarting the pods of two keys restarts each pod once for each of the keys that begin its
name. -/
private theorem recoverPods_bind_eq_ok_iff {first second : String} {pods after : List Pod} :
    recoverPods first pods >>= recoverPods second = .ok after ↔
      List.Forall₂ (fun pod => Pod.Restarted
        ((if Text.startsWith pod.name first then 1 else 0) +
          if Text.startsWith pod.name second then 1 else 0) pod) pods after := by
  simp only [bind_eq_ok_iff, recoverPods_eq_ok_iff]
  constructor
  · rintro ⟨middle, left, right⟩
    exact Pod.forall₂_restarted_trans (fun name => if Text.startsWith name first then 1 else 0)
      (fun name => if Text.startsWith name second then 1 else 0) left right
  · intro total
    induction total with
    | nil => exact ⟨[], .nil, .nil⟩
    | cons head _ ih =>
      obtain ⟨pod, left, right⟩ := Pod.restarted_add_iff.mp head
      obtain ⟨others, before, after⟩ := ih
      rw [← left.name_eq] at right
      exact ⟨pod :: others, .cons left before, .cons right after⟩

/-- The pods of two keys can be restarted in either order. -/
theorem recoverPods_comm (first second : String) (pods : List Pod) :
    recoverPods first pods >>= recoverPods second =
      recoverPods second pods >>= recoverPods first := by
  have fails {first second : String} {failure : Overflow}
      (failed : recoverPods first pods >>= recoverPods second = .error failure) :
      failure = .counter := by
    obtain early | ⟨_, _, late⟩ := bind_eq_error_iff.mp failed
    · exact (recoverPods_eq_error_iff.mp early).1
    · exact (recoverPods_eq_error_iff.mp late).1
  apply eq_of_ok_iff
  · intro after
    simp only [recoverPods_bind_eq_ok_iff, Nat.add_comm]
  · exact fun _ => fails
  · exact fun _ => fails

/-! ## What is found -/

def finding (cluster : Cluster) (key : String) : Remediation :=
  match cluster.deployments.get? key with
  | none => .noSuchDeployment
  | some deployment =>
    if deployment.references dbSecret dbPassword then .alreadyApplied else .applied

variable {cluster : Cluster} {key other : String}

theorem finding_eq_applied_iff : cluster.finding key = .applied ↔
    key ∈ cluster.deployments.keys ∧ cluster.isRemediated key = false := by
  rw [finding, Catalog.mem_keys_iff, isRemediated]
  cases cluster.deployments.get? key with
  | none => simp
  | some deployment => simp

theorem finding_eq_noSuchDeployment_iff :
    cluster.finding key = .noSuchDeployment ↔ key ∉ cluster.deployments.keys := by
  rw [finding, Catalog.mem_keys_iff]
  cases cluster.deployments.get? key with
  | none => simp
  | some deployment =>
    simp only [Option.some.injEq, exists_eq', not_true_eq_false, iff_false]
    split <;> simp

/-- A remediation under another key does not change what is found. -/
private theorem finding_wired_of_ne (distinct : other ≠ key) (pods : List Pod) :
    (cluster.wired key pods).finding other = cluster.finding other := by
  rw [finding, finding, get?_deployments_wired, if_neg distinct]

/-- A remediation that acted has nothing left to do. -/
private theorem finding_wired_self (broken : cluster.finding key = .applied) (pods : List Pod) :
    (cluster.wired key pods).finding key = .alreadyApplied := by
  obtain ⟨present, _⟩ := finding_eq_applied_iff.mp broken
  obtain ⟨deployment, stored⟩ := Catalog.mem_keys_iff.mp present
  rw [finding, get?_deployments_wired, if_pos rfl, stored]
  exact if_pos (references_bindPassword deployment)

/-- A remediation that finds nothing to do leaves the cluster as it is. -/
private theorem remediate_of_finding_ne (idle : cluster.finding key ≠ .applied) :
    cluster.remediate key = .ok (cluster.finding key, cluster) := by
  unfold finding at idle ⊢
  unfold remediate
  cases stored : cluster.deployments.get? key with
  | none => rfl
  | some deployment =>
    rw [stored] at idle
    have bound : deployment.references dbSecret dbPassword = true := by
      by_contra unbound
      exact idle (if_neg unbound)
    simp only [bound, ↓reduceIte]

/-- A remediation that finds a deployment to wire wires it, provided that its pods can restart. -/
private theorem remediate_of_finding_eq (broken : cluster.finding key = .applied) :
    cluster.remediate key =
      (recoverPods key cluster.pods).map fun pods => (.applied, cluster.wired key pods) := by
  obtain ⟨present, unwired⟩ := finding_eq_applied_iff.mp broken
  obtain ⟨deployment, stored⟩ := Catalog.mem_keys_iff.mp present
  exact remediate_of_not_isRemediated stored unwired

/-- A remediation that succeeds found what there was to find, and either left the cluster as it is
or wired it. -/
theorem remediate_eq_ok_iff {found : Remediation} {after : Cluster} :
    cluster.remediate key = .ok (found, after) ↔ cluster.finding key = found ∧
      if found = .applied then
        ∃ pods, recoverPods key cluster.pods = .ok pods ∧ after = cluster.wired key pods
      else after = cluster := by
  by_cases broken : cluster.finding key = .applied
  · rw [remediate_of_finding_eq broken, map_eq_ok_iff, broken]
    simp only [Prod.mk.injEq]
    constructor
    · rintro ⟨pods, recovered, rfl, rfl⟩
      exact ⟨rfl, pods, recovered, rfl⟩
    · rintro ⟨rfl, pods, recovered, rfl⟩
      exact ⟨pods, recovered, rfl, rfl⟩
  · rw [remediate_of_finding_ne broken, Except.ok.injEq, Prod.mk.injEq]
    constructor
    · rintro ⟨rfl, rfl⟩
      exact ⟨rfl, (if_neg broken).mpr rfl⟩
    · rintro ⟨rfl, same⟩
      rw [if_neg broken] at same
      exact ⟨rfl, same.symm⟩

theorem remediate_eq_error_iff {failure : Overflow} :
    cluster.remediate key = .error failure ↔ failure = .counter ∧ cluster.finding key = .applied ∧
      ∃ pod ∈ cluster.pods,
        Text.startsWith pod.name key = true ∧ pod.restarts.toNat + 1 = UInt32.size := by
  by_cases broken : cluster.finding key = .applied
  · rw [remediate_of_finding_eq broken]
    have failed : (recoverPods key cluster.pods).map
        (fun pods => (Remediation.applied, cluster.wired key pods)) = .error failure ↔
          recoverPods key cluster.pods = .error failure := by
      cases recoverPods key cluster.pods <;> simp [Except.map]
    simp only [failed, recoverPods_eq_error_iff, broken, true_and]
  · simp [remediate_of_finding_ne broken, broken]

/-- Whether it acts or not, a remediation does not change what is found under another key. -/
private theorem finding_of_remediate {found : Remediation} {after : Cluster}
    (remediated : cluster.remediate key = .ok (found, after)) (distinct : other ≠ key) :
    after.finding other = cluster.finding other := by
  obtain ⟨_, outcome⟩ := remediate_eq_ok_iff.mp remediated
  split at outcome
  · obtain ⟨pods, _, rfl⟩ := outcome
    exact finding_wired_of_ne distinct pods
  · rw [outcome]

/-! ## Two remediations -/

def remediateBoth (cluster : Cluster) (first second : String) :
    Except Overflow ((Remediation × Remediation) × Cluster) := do
  let (found, middle) ← cluster.remediate first
  let (foundNext, last) ← middle.remediate second
  return ((found, foundNext), last)

variable {first second : String}

/-- Where the first remediation finds nothing to do, the second decides. -/
private theorem remediateBoth_of_idle (idle : cluster.finding first ≠ .applied) :
    cluster.remediateBoth first second =
      (cluster.remediate second).map fun run => ((cluster.finding first, run.1), run.2) := by
  rw [remediateBoth, remediate_of_finding_ne idle]
  simp only [bind, Except.bind]
  cases cluster.remediate second <;> rfl

/-- Where the second remediation finds nothing to do, the first decides. -/
private theorem remediateBoth_of_idle_next (idle : cluster.finding second ≠ .applied)
    (distinct : second ≠ first) :
    cluster.remediateBoth first second =
      (cluster.remediate first).map fun run => ((run.1, cluster.finding second), run.2) := by
  rw [remediateBoth]
  cases remediated : cluster.remediate first with
  | error failure => rfl
  | ok run =>
    have same := finding_of_remediate remediated distinct
    have next : run.2.remediate second = .ok (cluster.finding second, run.2) := by
      rw [← same] at idle ⊢
      exact remediate_of_finding_ne idle
    simp only [bind, Except.bind, next, Except.map, pure, Except.pure]

/-- Where both remediations act, the pods of both keys restart. -/
private theorem remediateBoth_of_applied (broken : cluster.finding first = .applied)
    (brokenNext : cluster.finding second = .applied) (distinct : second ≠ first) :
    cluster.remediateBoth first second =
      (recoverPods first cluster.pods >>= recoverPods second).map fun pods =>
        ((.applied, .applied), (cluster.wired first pods).wired second pods) := by
  rw [remediateBoth, remediate_of_finding_eq broken]
  cases recoverPods first cluster.pods with
  | error failure => rfl
  | ok middle =>
    have next : (cluster.wired first middle).remediate second =
        (recoverPods second middle).map fun pods =>
          (.applied, (cluster.wired first middle).wired second pods) :=
      remediate_of_finding_eq ((finding_wired_of_ne distinct middle).trans brokenNext)
    simp only [Except.map, bind, Except.bind, next]
    cases recoverPods second middle <;> rfl

private theorem wired_wired_comm (cluster : Cluster) (distinct : first ≠ second) (pods : List Pod) :
    (cluster.wired first pods).wired second pods = (cluster.wired second pods).wired first pods := by
  simp only [wired, Catalog.adjust_comm cluster.deployments distinct]

/-- Two remediations under different keys can be made in either order. -/
theorem remediateBoth_comm (cluster : Cluster) (distinct : first ≠ second) :
    cluster.remediateBoth first second =
      (cluster.remediateBoth second first).map (Prod.map Prod.swap id) := by
  by_cases broken : cluster.finding first = .applied
  · by_cases brokenNext : cluster.finding second = .applied
    · rw [remediateBoth_of_applied broken brokenNext distinct.symm,
        remediateBoth_of_applied brokenNext broken distinct, recoverPods_comm first second]
      cases recoverPods second cluster.pods >>= recoverPods first with
      | error failure => rfl
      | ok pods => simp [Except.map, wired_wired_comm cluster distinct pods]
    · rw [remediateBoth_of_idle brokenNext, remediateBoth_of_idle_next brokenNext distinct.symm]
      cases cluster.remediate first <;> rfl
  · rw [remediateBoth_of_idle broken, remediateBoth_of_idle_next broken distinct]
    cases cluster.remediate second <;> rfl

/-- What is known of a remediation that succeeded. -/
structure Outcome (cluster : Cluster) (key : String) (found : Remediation) (after : Cluster) :
    Prop where
  again : after.remediate key =
    .ok (if found = .noSuchDeployment then .noSuchDeployment else .alreadyApplied, after)
  untouched : found ≠ .applied → after = cluster
  missing_iff : found = .noSuchDeployment ↔ key ∉ cluster.deployments.keys
  applied_iff : found = .applied ↔
    key ∈ cluster.deployments.keys ∧ cluster.isRemediated key = false
  wired : found = .applied → after.isRemediated key = true
  others : ∀ other, other ≠ key → after.isRemediated other = cluster.isRemediated other

private theorem outcome_of_remediate {found : Remediation} {after : Cluster}
    (remediated : cluster.remediate key = .ok (found, after)) : Outcome cluster key found after := by
  obtain ⟨rfl, outcome⟩ := remediate_eq_ok_iff.mp remediated
  by_cases broken : cluster.finding key = .applied
  · rw [if_pos broken] at outcome
    obtain ⟨pods, _, rfl⟩ := outcome
    obtain ⟨present, _⟩ := finding_eq_applied_iff.mp broken
    obtain ⟨deployment, stored⟩ := Catalog.mem_keys_iff.mp present
    have later := finding_wired_self broken pods
    constructor
    · rw [remediate_of_finding_ne (by simp [later]), later, broken]
      rfl
    · exact fun idle => absurd broken idle
    · exact finding_eq_noSuchDeployment_iff
    · exact finding_eq_applied_iff
    · exact fun _ => isRemediated_wired_self stored pods
    · exact fun other distinct => isRemediated_wired_of_ne distinct cluster pods
  · rw [if_neg broken] at outcome
    subst outcome
    constructor
    · rw [remediated]
      cases found : after.finding key <;> simp_all
    · exact fun _ => rfl
    · exact finding_eq_noSuchDeployment_iff
    · exact finding_eq_applied_iff
    · exact fun applied => absurd applied broken
    · exact fun _ _ => rfl

/-- Two remediations fail in both orders or lead to the same cluster, and under different keys each
finds the same in both. A remediation that succeeds leaves nothing for a second one to do. It acts
where a deployment is there and not wired, and changes nothing otherwise. Where it acts, it wires
this deployment and no other, and it fails where one of the pods has no room for a further
restart. -/
theorem remediations_commute (cluster : Cluster) (key other : String) :
    (cluster.remediateBoth key other).map Prod.snd =
        (cluster.remediateBoth other key).map Prod.snd ∧
      (key ≠ other → cluster.remediateBoth key other =
        (cluster.remediateBoth other key).map (Prod.map Prod.swap id)) ∧
      (∀ found after, cluster.remediate key = .ok (found, after) →
        Outcome cluster key found after) ∧
      ((∃ failure, cluster.remediate key = .error failure) ↔
        key ∈ cluster.deployments.keys ∧ cluster.isRemediated key = false ∧
          ∃ pod ∈ cluster.pods,
            Text.startsWith pod.name key = true ∧ pod.restarts.toNat + 1 = UInt32.size) := by
  refine ⟨?_, remediateBoth_comm cluster, fun _ _ => outcome_of_remediate, ?_⟩
  · by_cases same : key = other
    · rw [same]
    · rw [remediateBoth_comm cluster same]
      cases cluster.remediateBoth other key <;> rfl
  · simp only [remediate_eq_error_iff, exists_eq_left, finding_eq_applied_iff, and_assoc]

/-- A cluster with two deployments that share a pod. -/
def sharedPod (restarts : UInt32) : Cluster :=
  .ofResources [.crashLooping "api-gateway-0" "10.0.0.1" restarts []] []
    [.new "api" 1, .new "api-gateway" 2]

/-- The shared pod restarts twice in both orders. After the first of two remediations under one key,
the second finds nothing to do, and the other deployment is as broken as before. -/
theorem remediations_commute_sharedPod :
    (∃ last, (sharedPod 5).remediateBoth "api" "api-gateway" = .ok ((.applied, .applied), last) ∧
      (sharedPod 5).remediateBoth "api-gateway" "api" = .ok ((.applied, .applied), last) ∧
      last.pods.map (·.restarts) = [7]) ∧
    ∃ after, (sharedPod 5).remediate "api" = .ok (.applied, after) ∧
      after.remediate "api" = .ok (.alreadyApplied, after) ∧
      after.isRemediated "api-gateway" = false := by
  obtain ⟨_, swapped, outcome, _⟩ := remediations_commute (sharedPod 5) "api" "api-gateway"
  constructor
  · obtain ⟨⟨_, last⟩, both, seen⟩ := map_eq_ok_iff.mp
      (show ((sharedPod 5).remediateBoth "api-gateway" "api").map
          (fun run => (run.1, run.2.pods.map (·.restarts))) = .ok ((.applied, .applied), [7]) by
        decide +kernel)
    obtain ⟨rfl, restarts⟩ := Prod.mk.inj seen
    have other := swapped (by decide)
    rw [both] at other
    exact ⟨last, other, both, restarts⟩
  · obtain ⟨⟨_, after⟩, remediated, rfl⟩ := map_eq_ok_iff.mp
      (show ((sharedPod 5).remediate "api").map (·.1) = .ok .applied by decide +kernel)
    have known := outcome _ _ remediated
    refine ⟨after, remediated, known.again, ?_⟩
    rw [known.others "api-gateway" (by decide)]
    decide +kernel

/-- With room for one restart only, both orders fail, each at its second remediation. -/
example : (sharedPod 4294967294).remediateBoth "api" "api-gateway" = .error .counter ∧
    (sharedPod 4294967294).remediateBoth "api-gateway" "api" = .error .counter ∧
    ((sharedPod 4294967294).remediate "api").toBool = true := by
  decide +kernel

end Cluster

end KubeSim
