import KubeSim.Catalog
import Mathlib.Data.List.Induction
import Mathlib.Data.List.Nodup
import Mathlib.Data.List.Sort

/-! # The laws of catalogs

A catalog is what its lookups tell: catalogs that answer every lookup alike are equal
(`Catalog.ext_get?`), since both list the same entries in the one order that there is. So a law of
storing is a law about lookups. Of the values that are stored under one key the last one counts, and
values under different keys can be stored in any order.
-/

namespace KubeSim

namespace Catalog

variable {α : Type}

/-! ## Entries that come in order -/

/-- A key after all others goes to the end. -/
private theorem insertEntry_of_last {key : String} {value : α} {entries : List (String × α)}
    (last : ∀ entry ∈ entries, KeyBefore entry.1 key) :
    insertEntry key value entries = entries ++ [(key, value)] := by
  induction entries with
  | nil => rfl
  | cons entry rest ih =>
    rw [List.forall_mem_cons] at last
    have distinct : entry.1 ≠ key := fun same => KeyBefore.irrefl key (same ▸ last.1)
    have notBefore : ¬KeyBefore key entry.1 := fun back => KeyBefore.irrefl key (back.trans last.1)
    rw [insertEntry, if_neg distinct, if_neg notBefore, ih last.2, List.cons_append]

/-- Entries that come in order are stored as they come. -/
private theorem entries_foldl_insert {catalog : Catalog α} {entries : List (String × α)}
    (sorted : (catalog.entries ++ entries).Pairwise fun a b => KeyBefore a.1 b.1) :
    (entries.foldl (fun catalog entry => catalog.insert entry.1 entry.2) catalog).entries =
      catalog.entries ++ entries := by
  induction entries generalizing catalog with
  | nil => rw [List.foldl_nil, List.append_nil]
  | cons entry rest ih =>
    have last : ∀ other ∈ catalog.entries, KeyBefore other.1 entry.1 := fun other member =>
      (List.pairwise_append.mp sorted).2.2 other member entry List.mem_cons_self
    have stored : (catalog.insert entry.1 entry.2).entries = catalog.entries ++ [entry] :=
      insertEntry_of_last last
    rw [List.append_cons, ← stored] at sorted ⊢
    exact ih sorted

@[simp] theorem ofList_entries (catalog : Catalog α) : ofList catalog.entries = catalog := by
  apply ext
  rw [ofList, entries_foldl_insert]
  · rfl
  · exact catalog.sorted

/-! ## Lookups -/

private theorem pairwise_keys (catalog : Catalog α) : catalog.keys.Pairwise KeyBefore :=
  List.pairwise_map.mpr catalog.sorted

/-- What is found under a key is what is listed with it. -/
theorem get?_eq_some_iff {catalog : Catalog α} {key : String} {value : α} :
    catalog.get? key = some value ↔ (key, value) ∈ catalog.entries := by
  have listed {found : α} (stored : catalog.get? key = some found) :
      (key, found) ∈ catalog.entries := by
    obtain ⟨entry, search, rfl⟩ := Option.map_eq_some_iff.mp stored
    have named : entry.1 = key := by simpa using List.find?_some search
    exact named ▸ List.mem_of_find?_eq_some search
  refine ⟨listed, fun member => ?_⟩
  obtain ⟨found, stored⟩ := mem_keys_iff.mp (List.mem_map_of_mem (f := Prod.fst) member)
  have same : (key, found) = (key, value) :=
    List.inj_on_of_nodup_map catalog.nodup_keys (listed stored) member rfl
  rw [stored, (Prod.mk.injEq ..).mp same |>.2]

/-- Catalogs that answer every lookup alike are equal. -/
theorem ext_get? {catalog other : Catalog α} (same : ∀ key, catalog.get? key = other.get? key) :
    catalog = other := by
  have listed : catalog.entries.Perm other.entries := by
    refine (List.perm_ext_iff_of_nodup catalog.nodup_keys.of_map other.nodup_keys.of_map).mpr ?_
    rintro ⟨key, value⟩
    rw [← get?_eq_some_iff, same, get?_eq_some_iff]
  refine ext (listed.eq_of_pairwise (fun entry next _ _ before after => ?_) catalog.sorted
    other.sorted)
  exact absurd (before.trans after) (KeyBefore.irrefl _)

private theorem find?_insertEntry (key other : String) (value : α) (entries : List (String × α)) :
    (insertEntry key value entries).find? (fun entry => entry.1 = other) =
      if other = key then some (key, value) else entries.find? fun entry => entry.1 = other := by
  induction entries with
  | nil => simp [insertEntry, eq_comm]
  | cons entry rest ih =>
    obtain ⟨k, v⟩ := entry
    rw [insertEntry]
    split
    · next same =>
      subst same
      by_cases here : other = k
      · simp [here]
      · simp [here, Ne.symm here]
    · next distinct =>
      split
      · by_cases here : other = key
        · simp [here]
        · simp [here, Ne.symm here]
      · by_cases here : other = key
        · subst here
          simp [distinct, ih]
        · simp [List.find?_cons, here, ih]

/-- What is stored under a key is found there, and under other keys what was found before. -/
theorem get?_insert (catalog : Catalog α) (key other : String) (value : α) :
    (catalog.insert key value).get? other =
      if other = key then some value else catalog.get? other := by
  rw [get?, insert, find?_insertEntry]
  split <;> rfl

/-! ## Catalogs of lists -/

private theorem ofList_concat (entries : List (String × α)) (entry : String × α) :
    ofList (entries ++ [entry]) = (ofList entries).insert entry.1 entry.2 := by
  rw [ofList, List.foldl_append]
  rfl

/-- The last entry of a key is what is found under it. -/
theorem get?_ofList (entries : List (String × α)) (key : String) :
    (ofList entries).get? key =
      (entries.reverse.find? fun entry => entry.1 = key).map (·.2) := by
  induction entries using List.reverseRecOn with
  | nil => rfl
  | append_singleton rest entry ih =>
    rw [ofList_concat, get?_insert, ih, List.reverse_concat]
    by_cases here : key = entry.1
    · simp [here]
    · simp [here, Ne.symm here]

/-- Values under different keys can be stored in either order. -/
theorem insert_comm (catalog : Catalog α) {key other : String} (distinct : key ≠ other)
    (value next : α) :
    (catalog.insert key value).insert other next =
      (catalog.insert other next).insert key value := by
  refine ext_get? fun wanted => ?_
  simp only [get?_insert]
  by_cases here : wanted = key
  · rw [if_pos here, if_pos here, if_neg (here ▸ distinct)]
  · rw [if_neg here, if_neg here]

/-- The order of entries under different keys makes no difference. -/
theorem ofList_perm {entries others : List (String × α)}
    (distinct : (entries.map (·.1)).Nodup) (same : entries.Perm others) :
    ofList entries = ofList others := by
  refine same.foldl_eq' (fun entry listed next listedNext catalog => ?_) empty
  by_cases key : entry.1 = next.1
  · rw [List.inj_on_of_nodup_map distinct listed listedNext key]
  · exact catalog.insert_comm key entry.2 next.2

/-! ## Values that are stored by name -/

/-- Every value is stored under its own name. -/
def KeyedBy (name : α → String) (catalog : Catalog α) : Prop :=
  ∀ entry ∈ catalog.entries, entry.1 = name entry.2

variable {name : α → String}

theorem keyedBy_iff {catalog : Catalog α} :
    catalog.KeyedBy name ↔
      ∀ key value, catalog.get? key = some value → name value = key := by
  simp only [KeyedBy, Prod.forall, get?_eq_some_iff]
  exact forall₃_congr fun _ _ _ => eq_comm

theorem KeyedBy.map_values {catalog : Catalog α} (keyed : catalog.KeyedBy name) :
    catalog.values.map name = catalog.keys := by
  rw [values, List.map_map]
  exact List.map_congr_left fun entry listed => (keyed entry listed).symm

/-- The values are listed in the order of their names. -/
theorem KeyedBy.pairwise_values {catalog : Catalog α} (keyed : catalog.KeyedBy name) :
    catalog.values.Pairwise fun value next => KeyBefore (name value) (name next) := by
  rw [← List.pairwise_map, keyed.map_values]
  exact catalog.pairwise_keys

/-- The values that are listed are those that are found under their names. -/
theorem KeyedBy.mem_values_iff {catalog : Catalog α} (keyed : catalog.KeyedBy name) {value : α} :
    value ∈ catalog.values ↔ catalog.get? (name value) = some value := by
  rw [get?_eq_some_iff]
  constructor
  · intro listed
    obtain ⟨entry, member, rfl⟩ := List.mem_map.mp listed
    rwa [← keyed entry member]
  · intro member
    exact List.mem_map_of_mem (f := Prod.snd) member

/-- Of the values of one name the last one is found under it. -/
theorem get?_ofList_map (name : α → String) (items : List α) (key : String) :
    (ofList (items.map fun item => (name item, item))).get? key =
      items.reverse.find? fun item => name item = key := by
  rw [get?_ofList, ← List.map_reverse, List.find?_map, Option.map_map]
  exact congrFun Option.map_id _

theorem keyedBy_ofList_map (name : α → String) (items : List α) :
    (ofList (items.map fun item => (name item, item))).KeyedBy name := by
  rw [keyedBy_iff]
  intro key item found
  rw [get?_ofList_map] at found
  simpa using List.find?_some found

/-- The order of values of different names makes no difference. -/
theorem ofList_map_perm {items others : List α} (distinct : (items.map name).Nodup)
    (same : items.Perm others) :
    ofList (items.map fun item => (name item, item)) =
      ofList (others.map fun item => (name item, item)) := by
  refine ofList_perm ?_ (same.map _)
  rwa [List.map_map]

end Catalog

end KubeSim
