import KubeSim.Proofs.Run
import Mathlib.Data.List.Nodup

/-! # What a run sets in motion

A `Chronicle` follows a run by its moves alone: it knows the time that has passed and the edits that
were accepted, which are the first edits of the deployments that were broken at the start. Every
accepted edit leads to two events at fixed delays, and the timeline lists all events in the order in
which they are shown.
-/

namespace KubeSim

/-- An accepted edit: how many were accepted before it, the deployment with the number of its
replicas, and the time of the edit. -/
structure Edit where
  ordinal : Nat
  key : String
  replicas : UInt32
  time : Nat
deriving DecidableEq

inductive Stage where
  | start
  | finish
deriving DecidableEq

/-- The nanoseconds from an edit to a stage of its rollout. -/
def Stage.delay : Stage → Nat
  | .start => 2000000000
  | .finish => 3000000000

/-- The starts of a moment come before its ends. -/
def Stage.rank : Stage → Nat
  | .start => 0
  | .finish => 1

private theorem Stage.eq_of_rank_eq {a b : Stage} (same : a.rank = b.rank) : a = b := by
  cases a <;> cases b <;> first | rfl | cases same

/-- A stage of the rollout that an edit leads to. -/
structure Event where
  stage : Stage
  edit : Edit
deriving DecidableEq

namespace Event

def time (event : Event) : Nat := event.edit.time + event.stage.delay

/-- The action that makes the event happen. -/
def action (event : Event) : Action :=
  match event.stage with
  | .start => .startRollout event.edit.key
  | .finish => .finishRollout event.edit.key

/-- The lines that the event shows: a start tells the number of the replicas. -/
def lines (event : Event) : List String :=
  match event.stage with
  | .start => [
    "deployment.apps/" ++ event.edit.key ++ " edited",
    "Waiting for deployment \"" ++ event.edit.key ++ "\" rollout to finish: 0 of " ++
      toString event.edit.replicas.toNat ++ " updated replicas are available..."]
  | .finish => ["deployment \"" ++ event.edit.key ++ "\" successfully rolled out"]

theorem lines_start (edit : Edit) :
    lines ⟨.start, edit⟩ = Session.rolloutStarted edit.key edit.replicas := by
  simp only [lines, Session.rolloutStarted, Text.decimal_eq_toString]

/-- Events are shown by time, at equal times the starts before the ends, and then in the order of
the edits. -/
def Before (a b : Event) : Prop :=
  a.time < b.time ∨ a.time = b.time ∧
    (a.stage.rank < b.stage.rank ∨
      a.stage.rank = b.stage.rank ∧ a.edit.ordinal < b.edit.ordinal)

instance (a b : Event) : Decidable (a.Before b) := inferInstanceAs (Decidable (_ ∨ _))

theorem Before.not_before {a b : Event} (before : a.Before b) : ¬b.Before a := by
  unfold Before at *
  omega

theorem Before.ne {a b : Event} (before : a.Before b) : a ≠ b := by
  rintro rfl
  exact before.not_before before

theorem Before.time_le {a b : Event} (before : a.Before b) : a.time ≤ b.time := by
  unfold Before at before
  omega

/-- Of two events one is before the other, unless they are the same stage of the same edit. -/
private theorem before_of_not_before {a b : Event} (notAfter : ¬b.Before a)
    (different : a.stage = b.stage → a.edit.ordinal ≠ b.edit.ordinal) : a.Before b := by
  unfold Before at *
  by_cases same : a.stage = b.stage
  · have := different same
    rw [same] at notAfter ⊢
    omega
  · have : a.stage.rank ≠ b.stage.rank := fun equal => same (Stage.eq_of_rank_eq equal)
    omega

/-- A rollout starts before it ends. -/
theorem start_before_finish (edit : Edit) : Before ⟨.start, edit⟩ ⟨.finish, edit⟩ := by
  simp [Before, time, Stage.delay]

/-- Ends come in the order of their starts. -/
theorem finish_before_finish_iff {a b : Edit} :
    Before ⟨.finish, a⟩ ⟨.finish, b⟩ ↔ Before ⟨.start, a⟩ ⟨.start, b⟩ := by
  simp [Before, time]

end Event

/-- The time that has passed and the edits accepted so far, in their order. -/
structure Chronicle where
  now : Nat
  edits : List Edit
deriving DecidableEq

namespace Chronicle

def empty : Chronicle := ⟨0, []⟩

/-- Whether an edit of the deployment under this key is accepted: it is there, it was not wired at
the start, and no edit of it was accepted before. -/
def Accepts (past : Chronicle) (start : Cluster) (key : String) : Prop :=
  key ∈ start.deployments.keys ∧ start.isRemediated key = false ∧
    ∀ edit ∈ past.edits, edit.key ≠ key

instance (past : Chronicle) (start : Cluster) (key : String) :
    Decidable (past.Accepts start key) := inferInstanceAs (Decidable (_ ∧ _ ∧ _))

/-- The edit that is made now, should it be accepted. -/
def next (past : Chronicle) (key : String) (replicas : UInt32) : Edit :=
  ⟨past.edits.length, key, replicas, past.now⟩

def accept (past : Chronicle) (key : String) (replicas : UInt32) : Chronicle :=
  { past with edits := past.edits ++ [past.next key replicas] }

/-- Takes down a move of a run that starts from a cluster. -/
def record (start : Cluster) (past : Chronicle) : Move → Chronicle
  | .execute line =>
    match Command.parse line with
    | .editDeployment key =>
      match start.deployments.get? key with
      | some deployment =>
        if past.Accepts start key then past.accept key deployment.replicas else past
      | none => past
    | _ => past
  | .advance elapsed => { past with now := past.now + elapsed.nanos }
  | .shutdown => past

/-- What the moves of a run have set in motion. -/
def ofMoves (start : Cluster) (moves : List Move) : Chronicle := moves.foldl (record start) empty

/-- The manifest that every edit of a deployment shows. -/
def manifest (key : String) : List String := [
  "# Please edit the object below. Lines beginning with a \"#\" will be ignored.",
  "apiVersion: apps/v1",
  "kind: Deployment",
  "metadata:",
  "  name: " ++ key,
  "spec:",
  "  template:",
  "    spec:",
  "      containers:",
  "      - name: " ++ key,
  "        env:",
  "        - name: DB_PASSWORD",
  "          valueFrom:",
  "            secretKeyRef:",
  "              name: db-secret",
  "              key: DB_PASSWORD"]

theorem manifest_eq (key : String) : manifest key = deploymentManifest key := rfl

/-- The events that the edits lead to. -/
def events (past : Chronicle) : List Event :=
  past.edits.map (.mk .start) ++ past.edits.map (.mk .finish)

/-- The events in the order in which they are shown. -/
def timeline (past : Chronicle) : List Event :=
  past.events.mergeSort fun a b => ¬b.Before a

/-- The lines of the events after one time and up to another. -/
def shown (past : Chronicle) (since upTo : Nat) : List String :=
  (past.timeline.filter fun event => since < event.time ∧ event.time ≤ upTo).flatMap Event.lines

/-- The events that time has yet to reach, in the order in which they are shown. -/
def ahead (past : Chronicle) : List Event := past.timeline.filter fun event => past.now < event.time

private theorem mem_events_iff {past : Chronicle} {event : Event} :
    event ∈ past.events ↔ event.edit ∈ past.edits := by
  obtain ⟨stage, edit⟩ := event
  cases stage <;> simp [events]

theorem mem_timeline_iff {past : Chronicle} {event : Event} :
    event ∈ past.timeline ↔ event.edit ∈ past.edits := by
  rw [timeline, (List.mergeSort_perm ..).mem_iff, mem_events_iff]

theorem mem_ahead_iff {past : Chronicle} {event : Event} :
    event ∈ past.ahead ↔ event.edit ∈ past.edits ∧ past.now < event.time := by
  simp [ahead, mem_timeline_iff]

theorem ahead_empty : empty.ahead = [] := by
  simp [ahead, timeline, events, empty]

/-- The lines up to some time are those of the events ahead. -/
theorem shown_now_eq (past : Chronicle) (upTo : Nat) :
    past.shown past.now upTo =
      (past.ahead.filter fun event => event.time ≤ upTo).flatMap Event.lines := by
  rw [ahead, List.filter_filter, shown]
  congr 2
  funext event
  simp [Bool.and_comm]

/-- As time passes, the events up to then are no longer ahead. -/
theorem ahead_later (past : Chronicle) (elapsed : Nat) :
    { past with now := past.now + elapsed }.ahead =
      past.ahead.filter fun event => past.now + elapsed < event.time := by
  rw [ahead, ahead, List.filter_filter]
  apply List.filter_congr
  intro event _
  simp only [← Bool.decide_and, decide_eq_decide]
  omega

/-- What holds of the chronicle of every run. -/
structure Sound (start : Cluster) (past : Chronicle) : Prop where
  ordinals : past.edits.map (·.ordinal) = List.range past.edits.length
  keys : (past.edits.map (·.key)).Nodup
  broken : ∀ edit ∈ past.edits, start.isRemediated edit.key = false
  replicas : ∀ edit ∈ past.edits, ∃ deployment,
    start.deployments.get? edit.key = some deployment ∧ deployment.replicas = edit.replicas
  elapsed : ∀ edit ∈ past.edits, edit.time ≤ past.now

variable {start : Cluster} {past : Chronicle}

theorem sound_empty (start : Cluster) : empty.Sound start := by
  constructor <;> simp [empty]

theorem Sound.ordinal_lt (sound : past.Sound start) {edit : Edit} (member : edit ∈ past.edits) :
    edit.ordinal < past.edits.length := by
  rw [← List.mem_range, ← sound.ordinals]
  exact List.mem_map_of_mem member

private theorem Sound.eq_of_ordinal_eq (sound : past.Sound start) {first second : Edit}
    (present : first ∈ past.edits) (presentToo : second ∈ past.edits)
    (same : first.ordinal = second.ordinal) : first = second := by
  refine List.inj_on_of_nodup_map ?_ present presentToo same
  rw [sound.ordinals]
  exact List.nodup_range

theorem Sound.eq_of_key_eq (sound : past.Sound start) {first second : Edit}
    (present : first ∈ past.edits) (presentToo : second ∈ past.edits)
    (same : first.key = second.key) : first = second :=
  List.inj_on_of_nodup_map sound.keys present presentToo same

/-- Different events have different actions. -/
theorem Sound.eq_of_action_eq (sound : past.Sound start) {first second : Event}
    (present : first.edit ∈ past.edits) (presentToo : second.edit ∈ past.edits)
    (same : first.action = second.action) : first = second := by
  obtain ⟨stage, edit⟩ := first
  obtain ⟨stageToo, editToo⟩ := second
  cases stage <;> cases stageToo <;>
    simp only [Event.action, Action.startRollout.injEq, Action.finishRollout.injEq,
      reduceCtorEq] at same
  all_goals exact congrArg _ (sound.eq_of_key_eq present presentToo same)

private theorem Sound.nodup_timeline (sound : past.Sound start) : past.timeline.Nodup := by
  have distinct : past.edits.Nodup := .of_map _ sound.keys
  rw [timeline, (List.mergeSort_perm ..).nodup_iff, events, List.nodup_append]
  refine ⟨distinct.map fun a b same => (Event.mk.inj same).2,
    distinct.map fun a b same => (Event.mk.inj same).2, ?_⟩
  simp

/-- Each event of the timeline is before those that come after it. -/
theorem Sound.pairwise_timeline (sound : past.Sound start) :
    past.timeline.Pairwise Event.Before := by
  have ordered : past.timeline.Pairwise fun a b => decide (¬b.Before a) = true := by
    refine List.pairwise_mergeSort ?_ ?_ past.events
    · intro a b c first second
      simp only [decide_eq_true_eq] at first second ⊢
      unfold Event.Before at *
      omega
    · intro a b
      simp only [Bool.or_eq_true, decide_eq_true_eq]
      unfold Event.Before
      omega
  apply (ordered.and sound.nodup_timeline).imp_of_mem
  intro a b inside insideToo pair
  have notAfter : ¬b.Before a := by simpa using pair.1
  apply Event.before_of_not_before notAfter
  intro sameStage sameOrdinal
  have sameEdit := sound.eq_of_ordinal_eq (mem_timeline_iff.mp inside)
    (mem_timeline_iff.mp insideToo) sameOrdinal
  cases a
  cases b
  exact pair.2 (congr (congrArg Event.mk sameStage) sameEdit)

theorem Sound.pairwise_ahead (sound : past.Sound start) : past.ahead.Pairwise Event.Before :=
  sound.pairwise_timeline.filter _

/-- What comes after an event ahead is ahead as well. -/
theorem mem_ahead_of_before {event later : Event} (ahead : event ∈ past.ahead)
    (made : later.edit ∈ past.edits) (before : event.Before later) : later ∈ past.ahead :=
  mem_ahead_iff.mpr ⟨made, Nat.lt_of_lt_of_le (mem_ahead_iff.mp ahead).2 before.time_le⟩

theorem Sound.next_not_mem (sound : past.Sound start) (key : String) (replicas : UInt32) :
    past.next key replicas ∉ past.edits :=
  fun member => Nat.lt_irrefl _ (sound.ordinal_lt member)

theorem mem_edits_accept_iff {key : String} {replicas : UInt32} {edit : Edit} :
    edit ∈ (past.accept key replicas).edits ↔ edit ∈ past.edits ∨ edit = past.next key replicas := by
  simp [Chronicle.accept]

/-- The start of the rollout that an accepted edit leads to is ahead. -/
theorem start_mem_ahead_accept_iff {key : String} {replicas : UInt32} {edit : Edit} :
    ⟨.start, edit⟩ ∈ (past.accept key replicas).ahead ↔
      ⟨.start, edit⟩ ∈ past.ahead ∨ edit = past.next key replicas := by
  rw [mem_ahead_iff, mem_ahead_iff, mem_edits_accept_iff, or_and_right]
  refine or_congr_right (and_iff_left_of_imp ?_)
  rintro rfl
  simp [Event.time, next, Chronicle.accept, Stage.delay]

theorem Sound.later (sound : past.Sound start) (elapsed : Nat) :
    { past with now := past.now + elapsed }.Sound start := by
  obtain ⟨ordinals, keys, broken, replicas, before⟩ := sound
  exact ⟨ordinals, keys, broken, replicas, fun edit member =>
    Nat.le_add_right_of_le (before edit member)⟩

theorem Sound.accept (sound : past.Sound start) {key : String} {deployment : Deployment}
    (stored : start.deployments.get? key = some deployment) (accepts : past.Accepts start key) :
    (past.accept key deployment.replicas).Sound start := by
  obtain ⟨_, broken, fresh⟩ := accepts
  constructor <;> simp only [Chronicle.accept, List.map_append, List.map_cons, List.map_nil,
    List.length_append, List.length_singleton, List.forall_mem_append, List.forall_mem_singleton]
  · rw [sound.ordinals, List.range_succ]
    rfl
  · rw [List.nodup_append]
    refine ⟨sound.keys, List.nodup_singleton key, ?_⟩
    simpa [next] using fresh
  · exact ⟨sound.broken, broken⟩
  · exact ⟨sound.replicas, deployment, stored, rfl⟩
  · exact ⟨sound.elapsed, Nat.le_refl _⟩

/-- A line that makes an accepted edit is taken down, and any other line is not. -/
theorem record_execute_of_accepts {line key : String} {deployment : Deployment}
    (parsed : Command.parse line = .editDeployment key)
    (stored : start.deployments.get? key = some deployment) (accepts : past.Accepts start key) :
    past.record start (.execute line) = past.accept key deployment.replicas := by
  simp only [record, parsed, stored, accepts, ↓reduceIte]

theorem record_execute_of_not_accepts {line : String}
    (refuses : ∀ key, Command.parse line = .editDeployment key → ¬past.Accepts start key) :
    past.record start (.execute line) = past := by
  simp only [record]
  split
  · next key parsed =>
    split
    · exact if_neg (refuses key parsed)
    · rfl
  · rfl

end Chronicle

end KubeSim
