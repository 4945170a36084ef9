import KubeSim.Cluster
import Mathlib.Data.List.Forall2

/-! # What a remediation does to a cluster

The remediation of a deployment that is there and not wired yet fails or gives `Cluster.wired`: the
deployment under the key takes the secret, and the pods whose names begin with the key come up once
more. Nothing else changes. `Pod.Restarted` counts the restarts between two states of one pod, so
that the restarts for several deployments add up.
-/

namespace KubeSim

/-! ## Pods -/

/-- A pod came up `count` times. That leaves it running and ready, and touches nothing else. -/
structure Pod.Restarted (count : Nat) (before after : Pod) : Prop where
  restarts : after.restarts.toNat = before.restarts.toNat + count
  others : after =
    { before with
      restarts := after.restarts
      phase := if 0 < count then .running else before.phase
      ready := if 0 < count then true else before.ready }

namespace Pod

theorem restarted_zero_iff {before after : Pod} : Restarted 0 before after ↔ after = before := by
  constructor
  · rintro ⟨restarts, others⟩
    rw [others]
    have same : after.restarts = before.restarts := UInt32.toNat_inj.mp restarts
    simp [same]
  · rintro rfl
    exact ⟨rfl, rfl⟩

theorem Restarted.trans {first second : Nat} {before middle after : Pod}
    (left : Restarted first before middle) (right : Restarted second middle after) :
    Restarted (first + second) before after := by
  refine ⟨by have := left.restarts; have := right.restarts; omega, ?_⟩
  rw [right.others, left.others]
  rcases Nat.eq_zero_or_pos first with rfl | leftPos
  · simp
  · have total : 0 < first + second := by omega
    simp [leftPos, total]

theorem Restarted.name_eq {count : Nat} {before after : Pod}
    (restarted : Restarted count before after) : after.name = before.name := by
  rw [restarted.others]

/-- Restarts of all pods, counted by name, add up. -/
theorem forall₂_restarted_trans (first second : String → Nat) {before middle after : List Pod}
    (left : List.Forall₂ (fun pod => Restarted (first pod.name) pod) before middle)
    (right : List.Forall₂ (fun pod => Restarted (second pod.name) pod) middle after) :
    List.Forall₂ (fun pod => Restarted (first pod.name + second pod.name) pod) before after := by
  induction left generalizing after with
  | nil =>
    cases right
    exact .nil
  | cons head _ ih =>
    cases right with
    | cons next rest =>
      rw [head.name_eq] at next
      exact .cons (head.trans next) (ih rest)

theorem recover_eq_ok_iff {before after : Pod} :
    before.recover = .ok after ↔ Restarted 1 before after := by
  simp only [recover, bind_eq_ok_iff, Counter.next_eq_ok_iff, pure, Except.pure, Except.ok.injEq]
  constructor
  · rintro ⟨restarts, next, rfl⟩
    exact ⟨next, by simp⟩
  · rintro ⟨next, others⟩
    exact ⟨after.restarts, next, by rw [others]; simp⟩

end Pod

namespace Cluster

theorem recover_eq_error_iff {pod : Pod} {failure : Overflow} :
    pod.recover = .error failure ↔ failure = .counter ∧ pod.restarts.toNat + 1 = UInt32.size := by
  rw [← Counter.next_eq_error_iff]
  simp [Pod.recover, bind_eq_error_iff, pure, Except.pure]

/-- The pods fail to restart exactly when one of them has no room for a further restart. -/
theorem recoverPods_eq_error_iff {key : String} {pods : List Pod} {failure : Overflow} :
    recoverPods key pods = .error failure ↔ failure = .counter ∧
      ∃ pod ∈ pods, Text.startsWith pod.name key = true ∧ pod.restarts.toNat + 1 = UInt32.size := by
  have step (pod : Pod) (failure : Overflow) :
      (if Text.startsWith pod.name key then pod.recover else .ok pod) = .error failure ↔
        failure = .counter ∧ Text.startsWith pod.name key = true ∧
          pod.restarts.toNat + 1 = UInt32.size := by
    split
    · next matched => simp [recover_eq_error_iff, matched]
    · next unmatched => simp [unmatched]
  simp only [recoverPods]
  induction pods with
  | nil => simp [pure, Except.pure]
  | cons pod rest ih =>
    simp only [List.mapM_cons, List.exists_mem_cons_iff, bind_eq_error_iff, step, ih, pure,
      Except.pure, reduceCtorEq, and_false, exists_false, or_false]
    constructor
    · rintro (⟨rfl, full⟩ | ⟨_, _, rfl, full⟩)
      · exact ⟨rfl, .inl full⟩
      · exact ⟨rfl, .inr full⟩
    · rintro ⟨rfl, full⟩
      -- The head fails before the rest is looked at, so what it gives decides.
      cases head : (if Text.startsWith pod.name key then pod.recover else .ok pod) with
      | error failure =>
        exact .inl ⟨rfl, ((step pod failure).mp head).2⟩
      | ok next =>
        refine .inr ⟨next, rfl, rfl, full.resolve_left fun fullHead => ?_⟩
        rw [(step pod .counter).mpr ⟨rfl, fullHead⟩] at head
        cases head

theorem recoverPods_eq_ok_iff {key : String} {pods after : List Pod} :
    recoverPods key pods = .ok after ↔
      List.Forall₂ (fun pod => Pod.Restarted (if Text.startsWith pod.name key then 1 else 0) pod)
        pods after := by
  have step (pod : Pod) (next : Pod) :
      (if Text.startsWith pod.name key then pod.recover else .ok pod) = .ok next ↔
        Pod.Restarted (if Text.startsWith pod.name key then 1 else 0) pod next := by
    split
    · exact Pod.recover_eq_ok_iff
    · simp [Pod.restarted_zero_iff, eq_comm]
  simp only [recoverPods]
  induction pods generalizing after with
  | nil =>
    simp only [List.mapM_nil, List.forall₂_nil_left_iff, pure, Except.pure, Except.ok.injEq]
    exact eq_comm
  | cons pod rest ih =>
    simp only [List.mapM_cons, bind_eq_ok_iff, step, pure, Except.pure, Except.ok.injEq]
    constructor
    · rintro ⟨next, head, others, tail, rfl⟩
      exact .cons head (ih.mp tail)
    · rintro (_ | ⟨head, tail⟩)
      exact ⟨_, head, _, ih.mpr tail, rfl⟩

/-! ## Deployments -/

theorem isRemediated_iff {cluster : Cluster} {key : String} :
    cluster.isRemediated key = true ↔
      ∃ deployment, cluster.deployments.get? key = some deployment ∧
        deployment.references dbSecret dbPassword = true := by
  simp [isRemediated, Option.any_eq_true]

/-- Whether a deployment is wired depends on nothing but what is stored under its key. -/
theorem isRemediated_congr {cluster other : Cluster} {key : String}
    (same : cluster.deployments.get? key = other.deployments.get? key) :
    cluster.isRemediated key = other.isRemediated key := by
  rw [isRemediated, isRemediated, same]

theorem references_bindPassword (deployment : Deployment) :
    deployment.bindPassword.references dbSecret dbPassword = true := by
  simp [Deployment.bindPassword, Deployment.references, EnvVar.fromSecret, EnvVar.references]

/-- The cluster with the deployment under a key wired and with these pods. -/
def wired (cluster : Cluster) (key : String) (pods : List Pod) : Cluster :=
  { cluster with pods, deployments := cluster.deployments.adjust key .bindPassword }

@[simp] theorem keys_deployments_wired (cluster : Cluster) (key : String) (pods : List Pod) :
    (cluster.wired key pods).deployments.keys = cluster.deployments.keys :=
  Catalog.keys_adjust ..

theorem get?_deployments_wired (cluster : Cluster) (key other : String) (pods : List Pod) :
    (cluster.wired key pods).deployments.get? other =
      if other = key then (cluster.deployments.get? key).map .bindPassword
      else cluster.deployments.get? other :=
  Catalog.get?_adjust ..

theorem isRemediated_wired_of_ne {key other : String} (distinct : other ≠ key) (cluster : Cluster)
    (pods : List Pod) : (cluster.wired key pods).isRemediated other = cluster.isRemediated other :=
  isRemediated_congr (by rw [get?_deployments_wired, if_neg distinct])

theorem isRemediated_wired_self {cluster : Cluster} {key : String} {deployment : Deployment}
    (stored : cluster.deployments.get? key = some deployment) (pods : List Pod) :
    (cluster.wired key pods).isRemediated key = true := by
  rw [isRemediated_iff]
  refine ⟨deployment.bindPassword, ?_, references_bindPassword deployment⟩
  rw [get?_deployments_wired, if_pos rfl, stored, Option.map_some]

/-- A deployment that is there and not wired yet is wired, provided that its pods can restart. -/
theorem remediate_of_not_isRemediated {cluster : Cluster} {key : String} {deployment : Deployment}
    (stored : cluster.deployments.get? key = some deployment)
    (broken : cluster.isRemediated key = false) :
    cluster.remediate key =
      (recoverPods key cluster.pods).map fun pods => (.applied, cluster.wired key pods) := by
  have unbound : deployment.references dbSecret dbPassword = false := by
    simpa [isRemediated, stored] using broken
  simp only [remediate, stored, unbound]
  cases recoverPods key cluster.pods <;> rfl

end Cluster

end KubeSim
