import KubeSim.Cluster.Codec
import KubeSim.Cluster.Report
import KubeSim.Proofs.Catalog
import KubeSim.Proofs.JsonText

/-! # Reading back a cluster

Writing a cluster as JSON loses nothing. `Json.Faithful` says of a writer and a reader of a type
that the one writes proper values, which the other reads back. It holds of texts and counts, it
carries over to lists and catalogs, and so it holds of every resource, one after the other. A
catalog is read back since its entries come in the order in which they are stored.
-/

namespace KubeSim

variable {α : Type}

/-- A writer of proper values and a reader that reads each of them back. -/
structure Json.Faithful (write : α → Json) (read : Json → Option α) : Prop where
  proper : ∀ item, (write item).IsProper
  reads : ∀ item, read (write item) = some item

namespace Json.Faithful

variable {write : α → Json} {read : Json → Option α}

theorem read_render (faithful : Faithful write read) (item : α) :
    (Json.read (write item).render).bind read = some item := by
  rw [Json.read_render (faithful.proper item), Option.bind_some, faithful.reads]

theorem string : Faithful .string string? where
  proper := .string
  reads _ := rfl

theorem uint32 : Faithful (fun count => .natural count.toNat) uint32? where
  proper count := .natural count.toNat
  reads count := by simp [uint32?, naturalBelow?, count.toNat_lt]

/-- A list is read back when its items are. -/
theorem list (faithful : Faithful write read) :
    Faithful (fun items => .array (items.map write)) (list? read) where
  proper items := by
    refine .array fun item member => ?_
    obtain ⟨item, _, rfl⟩ := List.mem_map.mp member
    exact faithful.proper item
  reads items := by
    have each : read ∘ write = fun item => pure item := funext faithful.reads
    rw [list?, List.mapM_map, each, List.mapM_pure, List.map_id']
    rfl

/-- A catalog is read back when its values are. -/
theorem catalog (faithful : Faithful write read) :
    Faithful (Catalog.toJson write) (Catalog.ofJson? read) where
  proper catalog := by
    refine .object fun field member => ?_
    obtain ⟨entry, _, rfl⟩ := List.mem_map.mp member
    exact faithful.proper entry.2
  reads catalog := by
    have each : (fun field : String × Json => (read field.2).map (Prod.mk field.1)) ∘
        (fun entry : String × α => (entry.1, write entry.2)) = fun entry => pure entry := by
      funext entry
      rw [Function.comp_apply, faithful.reads]
      rfl
    rw [Catalog.toJson, Catalog.ofJson?, List.mapM_map, each, List.mapM_pure, List.map_id']
    exact congrArg some catalog.ofList_entries

end Json.Faithful

open Json

theorem Phase.faithful : Faithful Phase.toJson Phase.ofJson? where
  proper phase := .string phase.name
  reads phase := by cases phase <;> rfl

/-- No output and no lines of output are told apart. -/
theorem Pod.faithful_output :
    Faithful Pod.outputJson (fun json => Pod.readOutput? (some json)) where
  proper
    | none => .null
    | some lines => Faithful.string.list.proper lines
  reads
    | none => rfl
    | some lines => congrArg (Option.map some) (Faithful.string.list.reads lines)

theorem Pod.faithful : Faithful Pod.toJson Pod.ofJson? where
  proper pod := by simp [Pod.toJson, Phase.faithful.proper, Pod.faithful_output.proper]
  reads pod := by
    simp [Pod.ofJson?, Pod.toJson, record?, field?, string?, bool?, Phase.faithful.reads,
      Faithful.uint32.reads, Pod.faithful_output.reads]

theorem EnvSource.faithful : Faithful EnvSource.toJson EnvSource.ofJson? where
  proper source := by cases source <;> simp [EnvSource.toJson]
  reads source := by
    cases source <;> simp [EnvSource.ofJson?, EnvSource.toJson, variant?, record?, field?, string?]

theorem EnvVar.faithful : Faithful EnvVar.toJson EnvVar.ofJson? where
  proper var := by simp [EnvVar.toJson, EnvSource.faithful.proper]
  reads var := by
    simp [EnvVar.ofJson?, EnvVar.toJson, record?, field?, string?, EnvSource.faithful.reads]

theorem Deployment.faithful : Faithful Deployment.toJson Deployment.ofJson? where
  proper deployment := by simp [Deployment.toJson, EnvVar.faithful.list.proper]
  reads deployment := by
    simp [Deployment.ofJson?, Deployment.toJson, record?, field?, string?, Faithful.uint32.reads,
      EnvVar.faithful.list.reads]

theorem Secret.faithful : Faithful Secret.toJson Secret.ofJson? where
  proper secret := by simp [Secret.toJson, Faithful.string.catalog.proper]
  reads secret := by
    simp [Secret.ofJson?, Secret.toJson, record?, field?, string?, Faithful.string.catalog.reads]

namespace Cluster

theorem faithful : Faithful toJson ofJson? where
  proper cluster := by
    simp [toJson, Pod.faithful.list.proper, Secret.faithful.catalog.proper,
      Deployment.faithful.catalog.proper]
  reads cluster := by
    simp [toJson, ofJson?, record?, field?, Pod.faithful.list.reads, Secret.faithful.catalog.reads,
      Deployment.faithful.catalog.reads]

/-- Every cluster is read back from its text. So no two clusters have the same text, and what is read
answers every question as before. -/
theorem decode?_encode :
    (∀ cluster, decode? (encode cluster) = some cluster) ∧
    (∀ cluster other, encode cluster = encode other → cluster = other) ∧
    ∀ cluster after, decode? (encode cluster) = some after →
      (∀ key, after.isRemediated key = cluster.isRemediated key) ∧
      (∀ start, after.findPod? start = cluster.findPod? start) ∧
      podTable after.pods = podTable cluster.pods := by
  have back : ∀ cluster, decode? (encode cluster) = some cluster := faithful.read_render
  refine ⟨back, fun cluster other same => ?_, fun cluster after read => ?_⟩
  · have found := back cluster
    rw [same, back] at found
    exact (Option.some.inj found).symm
  · rw [back] at read
    cases read
    exact ⟨fun _ => rfl, fun _ => rfl, rfl⟩

/-- Texts with marks and control characters, keys that are no names, and every shape of a field. -/
def awkward : Cluster where
  pods := [
    .crashLooping "say \"hi\"\\" "::1" 4294967295
      ["\t\x08\x0c\r\n\x01\x1f\x7f", "", "naïve ☃ 😀"],
    .crashLooping "" "" 0 [],
    .healthy "web-0" "10.0.0.1"]
  secrets := .ofList [("é", ⟨"\x00", .ofList [("z", "1"), ("", "\\u0041")]⟩), ("a", .new "b")]
  deployments := .ofList [("key", ⟨"name", 10, 4294967295,
    [⟨"PLAIN", .value "a,b:c]\x7d"⟩, .fromSecret "DB_PASSWORD" "db-secret" "DB_PASSWORD"]⟩)]

/-- Nothing is lost, and output that is not kept is told apart from output without lines. -/
theorem decode?_encode_awkward :
    (∃ after, decode? awkward.encode = some after ∧ after.isRemediated "key" = true ∧
      (after.findPod? "web").map (·.output) = some none) ∧
    awkward.encode ≠ encode { awkward with
      pods := awkward.pods.map fun pod => { pod with output := some pod.logs } } := by
  obtain ⟨back, injective, _⟩ := decode?_encode
  refine ⟨⟨awkward, back awkward, by decide +kernel, by decide +kernel⟩, fun same => ?_⟩
  exact absurd (injective _ _ same) (by decide +kernel)

end Cluster

end KubeSim
