import KubeSim.Cluster.Report
import KubeSim.Proofs.Grammar
import KubeSim.Proofs.JsonText
import Mathlib.Data.List.Forall2

/-! # Reading the pod table back

A line of the pod table is a row of words: the five columns of a pod, each but the last with blanks
after it. Padding only adds to these blanks, so a name that is longer than its column still ends
where it ends, and the tokens of the line are the columns (`Pod.tokens_tableRow`). As every column
tells what it was written from, the table tells it of every pod.
-/

namespace KubeSim

namespace Text

private theorem isBlank_eq_false_of_isDigit {c : Char} (digit : c.isDigit = true) :
    isBlank c = false := by
  simp only [Char.isDigit, Bool.and_eq_true, decide_eq_true_eq, UInt32.le_iff_toNat_le,
    ge_iff_le] at digit
  simp only [isBlank, Bool.or_eq_false_iff, Bool.and_eq_false_iff, decide_eq_false_iff_not,
    beq_eq_false_iff_ne, ne_eq, UInt32.le_iff_toNat_le, ← UInt32.toNat_inj, UInt32.reduceToNat]
  have low : ('0' : Char).val.toNat = 48 := rfl
  have high : ('9' : Char).val.toNat = 57 := rfl
  omega

theorem isWord_decimal (n : Nat) : IsWord (decimal n) := by
  constructor
  · intro empty
    have digits : decimalDigits n = [] := String.ofList_eq_empty_iff.mp empty
    exact Json.ne_nil_of_isNatural (Json.isNatural_decimalDigits n) digits
  · intro c member
    rw [decimal, String.toList_ofList] at member
    exact isBlank_eq_false_of_isDigit (decimalDigits_isDigit n c member)

/-- Numbers are told apart by their digits. -/
theorem decimal_inj {n m : Nat} (same : decimal n = decimal m) : n = m := by
  have digits : decimalDigits n = decimalDigits m := String.ofList_injective same
  rw [← Json.foldl_decimalDigits n, digits, Json.foldl_decimalDigits]

/-- The blanks between a text in a column of this width and the next column. -/
def columnGap (width : Nat) (text : String) : List Char :=
  List.replicate (width - text.length) ' ' ++ [' ']

private theorem toList_padRight_append (width : Nat) (text : String) (rest : List Char) :
    (padRight width text).toList ++ (" ".toList ++ rest) =
      text.toList ++ (columnGap width text ++ rest) := by
  simp only [padRight, blanks, columnGap, String.toList_append, String.toList_ofList,
    List.append_assoc]
  rfl

private theorem isBlank_of_mem_columnGap {width : Nat} {text : String} {c : Char}
    (member : c ∈ columnGap width text) : isBlank c = true := by
  rcases List.mem_append.mp member with padding | last
  · rw [List.eq_of_mem_replicate padding]
    rfl
  · rw [List.mem_singleton.mp last]
    rfl

/-- A word and the blanks after it go in front of a row of words. -/
theorem Spaced.word {text : String} (word : IsWord text) {gap : List Char} (apart : gap ≠ [])
    (blank : ∀ c ∈ gap, isBlank c = true) {rest : List (List Char × List Char)}
    (others : Spaced rest) : Spaced ((text.toList, gap) :: rest) :=
  .cons (by simpa using word.nonempty) word.solid blank (fun _ => apart) others

end Text

open Text (IsWord)

namespace Phase

private theorem isWord_name (phase : Phase) : IsWord phase.name := by
  cases phase <;> decide +kernel

private theorem ofName?_name (phase : Phase) : ofName? phase.name = some phase := by
  cases phase <;> rfl

theorem name_inj {phase other : Phase} (same : phase.name = other.name) : phase = other :=
  Option.some.inj (by rw [← ofName?_name phase, same, ofName?_name])

end Phase

namespace Pod

private theorem isWord_readyColumn (pod : Pod) : IsWord pod.readyColumn := by
  unfold readyColumn
  split <;> decide +kernel

private theorem ready_eq_of_readyColumn {pod other : Pod}
    (same : pod.readyColumn = other.readyColumn) :
    pod.ready = other.ready := by
  unfold readyColumn at same
  cases ready : pod.ready <;> cases readyOther : other.ready <;> simp_all

def columns (pod : Pod) : List String :=
  [pod.name, pod.readyColumn, pod.phase.name, Text.decimal pod.restarts.toNat, pod.age]

/-- The columns, each with the blanks after it. -/
def spacedColumns (pod : Pod) : List (List Char × List Char) := [
  (pod.name.toList, Text.columnGap 28 pod.name),
  (pod.readyColumn.toList, "     ".toList),
  (pod.phase.name.toList, Text.columnGap 20 pod.phase.name),
  ((Text.decimal pod.restarts.toNat).toList, "          ".toList),
  (pod.age.toList, [])]

private theorem toList_tableRow (pod : Pod) :
    pod.tableRow.toList = Text.joined pod.spacedColumns := by
  simp only [tableRow, String.toList_append, spacedColumns, Text.joined_cons, Text.joined_nil,
    List.append_assoc, List.append_nil, Text.toList_padRight_append]

/-- A pod whose name and age are words. -/
structure IsPlain (pod : Pod) : Prop where
  name : IsWord pod.name
  age : IsWord pod.age

instance (pod : Pod) : Decidable pod.IsPlain :=
  decidable_of_iff (IsWord pod.name ∧ IsWord pod.age)
    ⟨fun plain => ⟨plain.1, plain.2⟩, fun plain => ⟨plain.name, plain.age⟩⟩

variable {pod other : Pod}

theorem IsPlain.spaced_spacedColumns (plain : pod.IsPlain) : Text.Spaced pod.spacedColumns := by
  have age : Text.Spaced [(pod.age.toList, [])] :=
    .cons (by simpa using plain.age.nonempty) plain.age.solid (by simp) (by simp) .nil
  refine .word plain.name (by simp [Text.columnGap]) (fun _ => Text.isBlank_of_mem_columnGap) ?_
  refine .word pod.isWord_readyColumn (by decide) (List.all_eq_true.mp rfl) ?_
  refine .word pod.phase.isWord_name (by simp [Text.columnGap])
    (fun _ => Text.isBlank_of_mem_columnGap) ?_
  exact .word (Text.isWord_decimal _) (by decide) (List.all_eq_true.mp rfl) age

/-- The tokens of a line of the table are the columns, whatever their widths. -/
theorem IsPlain.tokens_tableRow (plain : pod.IsPlain) : Text.tokens pod.tableRow = pod.columns := by
  let spelling : Text.Spelling := ⟨[], pod.spacedColumns, by simp, plain.spaced_spacedColumns⟩
  have line : spelling.line = pod.tableRow :=
    String.toList_injective (by rw [spelling.toList_line, toList_tableRow]; rfl)
  rw [← line, spelling.tokens_line]
  simp [Text.Spelling.tokens, spelling, spacedColumns, columns]

/-- The columns tell what they were written from. -/
theorem eq_of_columns_eq (same : pod.columns = other.columns) :
    pod.name = other.name ∧ pod.ready = other.ready ∧ pod.phase = other.phase ∧
      pod.restarts = other.restarts ∧ pod.age = other.age := by
  simp only [columns, List.cons.injEq, and_true] at same
  obtain ⟨name, ready, phase, restarts, age⟩ := same
  exact ⟨name, ready_eq_of_readyColumn ready, Phase.name_inj phase,
    UInt32.toNat_inj.mp (Text.decimal_inj restarts), age⟩

end Pod

/-- Below its titles the table has a line for each pod, in order, and the tokens of the line are the
pod's columns. So pods with the same table agree on all that it shows. -/
theorem podTable_tokens {pods : List Pod} (plain : ∀ pod ∈ pods, pod.IsPlain) :
    (∃ rows, podTable pods = podTableHeader :: rows ∧
      List.Forall₂ (fun pod row => Text.tokens row =
        [pod.name, if pod.ready then "1/1" else "0/1", pod.phase.name,
          Text.decimal pod.restarts.toNat, pod.age]) pods rows) ∧
    ∀ others : List Pod, (∀ pod ∈ others, pod.IsPlain) → podTable others = podTable pods →
      List.Forall₂ (fun pod other => pod.name = other.name ∧ pod.ready = other.ready ∧
        pod.phase = other.phase ∧ pod.restarts = other.restarts ∧ pod.age = other.age)
        pods others := by
  refine ⟨⟨pods.map Pod.tableRow, rfl, ?_⟩, fun others plainOthers same => ?_⟩
  · rw [List.forall₂_map_right_iff, List.forall₂_same]
    exact fun pod member => (plain pod member).tokens_tableRow
  · have read {pods : List Pod} (plain : ∀ pod ∈ pods, pod.IsPlain) :
        (pods.map Pod.tableRow).map Text.tokens = pods.map Pod.columns := by
      rw [List.map_map]
      exact List.map_congr_left fun pod member => (plain pod member).tokens_tableRow
    have rows : pods.map Pod.columns = others.map Pod.columns := by
      rw [← read plain, ← read plainOthers, (List.cons.inj same).2]
    rw [← List.forall₂_eq_eq_eq, List.forall₂_map_left_iff, List.forall₂_map_right_iff] at rows
    exact rows.imp fun _ _ => Pod.eq_of_columns_eq

/-- Pods with a name that is longer than its column and with characters of several bytes. -/
def overlong : List Pod := [
  .crashLooping "auth-service-5f7d9c8b6d-j4k2h" "10.244.0.13" 4294967295 [],
  { Pod.healthy "ポッド" "10.244.0.14" with age := "３日" }]

/-- Neither of them runs a column into the next. -/
theorem podTable_tokens_overlong :
    (∀ pod ∈ overlong, pod.IsPlain) ∧
    ∃ rows, podTable overlong = podTableHeader :: rows ∧
      rows.map Text.tokens = [
        ["auth-service-5f7d9c8b6d-j4k2h", "0/1", "CrashLoopBackOff", "4294967295", "10m"],
        ["ポッド", "1/1", "Running", "0", "３日"]] := by
  have plain : ∀ pod ∈ overlong, pod.IsPlain := by decide +kernel
  obtain ⟨⟨rows, table, read⟩, _⟩ := podTable_tokens plain
  refine ⟨plain, rows, table, ?_⟩
  obtain _ | ⟨first, _ | ⟨second, _ | _⟩⟩ := read
  rw [List.map_cons, List.map_cons, List.map_nil, first, second]
  decide +kernel

end KubeSim
