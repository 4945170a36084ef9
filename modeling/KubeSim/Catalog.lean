/-! # Named resources in key order

A `Catalog` maps keys to values and lists its entries by key, in the order of the keys' UTF-8
bytes. The order is part of the type, so two catalogs with the same entries are equal.
-/

namespace KubeSim

/-- The UTF-8 bytes of a key, by which keys are ordered. -/
def keyBytes (key : String) : List UInt8 := key.toByteArray.data.toList

def KeyBefore (a b : String) : Prop := keyBytes a < keyBytes b

instance (a b : String) : Decidable (KeyBefore a b) :=
  inferInstanceAs (Decidable (keyBytes a < keyBytes b))

private theorem keyBytes_inj {a b : String} : keyBytes a = keyBytes b ↔ a = b := by
  simp only [keyBytes, Array.toList_inj, ← ByteArray.ext_iff, String.toByteArray_inj]

theorem KeyBefore.irrefl (a : String) : ¬KeyBefore a a := List.lt_irrefl _

theorem KeyBefore.trans {a b c : String} (first : KeyBefore a b) (second : KeyBefore b c) :
    KeyBefore a c := List.lt_trans first second

theorem KeyBefore.of_not {a b : String} (distinct : a ≠ b) (other : ¬KeyBefore a b) :
    KeyBefore b a := by
  by_cases back : KeyBefore b a
  · exact back
  · exact absurd (keyBytes_inj.mp (List.le_antisymm (List.not_lt.mp back) (List.not_lt.mp other)))
      distinct

/-- Values by key, in strictly increasing order of the keys. -/
structure Catalog (α : Type) where
  entries : List (String × α)
  sorted : entries.Pairwise fun a b => KeyBefore a.1 b.1
deriving DecidableEq

namespace Catalog

variable {α : Type}

/-- Two catalogs with the same entries are equal. -/
@[ext] theorem ext {a b : Catalog α} (same : a.entries = b.entries) : a = b := by
  cases a
  cases b
  simp only at same
  subst same
  rfl

def empty : Catalog α := ⟨[], .nil⟩

instance : Inhabited (Catalog α) := ⟨empty⟩

def keys (catalog : Catalog α) : List String := catalog.entries.map (·.1)

def values (catalog : Catalog α) : List α := catalog.entries.map (·.2)

def get? (catalog : Catalog α) (key : String) : Option α :=
  (catalog.entries.find? fun entry => entry.1 = key).map (·.2)

/-- Puts a value under a key into a sorted list of entries, replacing the value that is there. -/
def insertEntry (key : String) (value : α) : List (String × α) → List (String × α)
  | [] => [(key, value)]
  | (k, v) :: rest =>
    if k = key then (key, value) :: rest
    else if KeyBefore key k then (key, value) :: (k, v) :: rest
    else (k, v) :: insertEntry key value rest

private theorem mem_keys_insertEntry {key : String} {value : α} {entries : List (String × α)}
    {entry : String × α} (member : entry ∈ insertEntry key value entries) :
    entry = (key, value) ∨ entry ∈ entries := by
  induction entries with
  | nil => simpa [insertEntry] using member
  | cons head rest ih =>
    simp only [insertEntry] at member
    split at member
    · simp only [List.mem_cons] at member ⊢
      exact member.imp_right .inr
    · split at member
      · simpa using member
      · simp only [List.mem_cons] at member ⊢
        rcases member with here | there
        · exact .inr (.inl here)
        · exact (ih there).imp_right .inr

private theorem sorted_insertEntry {key : String} {value : α} {entries : List (String × α)}
    (sorted : entries.Pairwise fun a b => KeyBefore a.1 b.1) :
    (insertEntry key value entries).Pairwise fun a b => KeyBefore a.1 b.1 := by
  induction entries with
  | nil => simp [insertEntry]
  | cons head rest ih =>
    have ⟨first, others⟩ := List.pairwise_cons.mp sorted
    simp only [insertEntry]
    split
    · next same =>
      subst same
      exact List.pairwise_cons.mpr ⟨first, others⟩
    · next distinct =>
      split
      · next before =>
        refine List.pairwise_cons.mpr ⟨fun entry member => ?_, sorted⟩
        rcases List.mem_cons.mp member with rfl | later
        · exact before
        · exact before.trans (first entry later)
      · next notBefore =>
        refine List.pairwise_cons.mpr ⟨fun entry member => ?_, ih others⟩
        rcases mem_keys_insertEntry member with rfl | later
        · exact KeyBefore.of_not (Ne.symm distinct) notBefore
        · exact first entry later

/-- Stores a value under a key, replacing the value that is there. -/
def insert (catalog : Catalog α) (key : String) (value : α) : Catalog α :=
  ⟨insertEntry key value catalog.entries, sorted_insertEntry catalog.sorted⟩

/-- The catalog of a list of entries, where the last entry of a key counts. -/
def ofList (entries : List (String × α)) : Catalog α :=
  entries.foldl (fun catalog entry => catalog.insert entry.1 entry.2) empty

/-- Changes the value stored under a key, if there is one. -/
def adjust (catalog : Catalog α) (key : String) (change : α → α) : Catalog α where
  entries := catalog.entries.map fun entry =>
    if entry.1 = key then (entry.1, change entry.2) else entry
  sorted := by
    refine List.pairwise_map.mpr (catalog.sorted.imp fun before => ?_)
    split <;> split <;> exact before

theorem nodup_keys (catalog : Catalog α) : catalog.keys.Nodup := by
  refine List.pairwise_map.mpr (catalog.sorted.imp fun before same => ?_)
  rw [same] at before
  exact before.irrefl _

/-- The keys are those under which something is stored. -/
theorem mem_keys_iff {catalog : Catalog α} {key : String} :
    key ∈ catalog.keys ↔ ∃ value, catalog.get? key = some value := by
  simp only [keys, get?, List.mem_map, Option.map_eq_some_iff]
  constructor
  · rintro ⟨entry, member, rfl⟩
    cases search : catalog.entries.find? fun other => other.1 = entry.1 with
    | none => simpa using List.find?_eq_none.mp search entry member
    | some found => exact ⟨found.2, found, rfl, rfl⟩
  · rintro ⟨_, entry, search, rfl⟩
    exact ⟨entry, List.mem_of_find?_eq_some search, by simpa using List.find?_some search⟩

@[simp] theorem keys_adjust (catalog : Catalog α) (key : String) (change : α → α) :
    (catalog.adjust key change).keys = catalog.keys := by
  simp only [keys, adjust, List.map_map]
  refine List.map_congr_left fun entry _ => ?_
  simp only [Function.comp_apply]
  split <;> rfl

/-- A change under one key leaves what is stored under the others. -/
theorem get?_adjust (catalog : Catalog α) (key other : String) (change : α → α) :
    (catalog.adjust key change).get? other =
      if other = key then (catalog.get? key).map change else catalog.get? other := by
  have search : (catalog.adjust key change).entries.find? (fun entry => entry.1 = other) =
      (catalog.entries.find? fun entry => entry.1 = other).map fun entry =>
        if entry.1 = key then (entry.1, change entry.2) else entry := by
    simp only [adjust, List.find?_map]
    congr 2
    funext entry
    simp only [Function.comp_apply]
    split <;> rfl
  rw [get?, search, Option.map_map]
  split
  · next same =>
    subst same
    rw [get?, Option.map_map]
    refine Option.map_congr fun entry found => ?_
    have named : entry.1 = other := by simpa using List.find?_some found
    simp [named]
  · next distinct =>
    refine Option.map_congr fun entry found => ?_
    have named : entry.1 = other := by simpa using List.find?_some found
    simp [named, distinct]

end Catalog

end KubeSim
