import KubeSim.Command
import Mathlib.Data.List.TakeWhile

/-! # The words that a command is made of

Every token of a line is a word: it has a character, and none of its characters is a blank. A line
of blanks has no token, so it is never read as an edit, and an edit always names a word.
-/

namespace KubeSim

namespace Text

/-- Some characters, none of them a blank. -/
structure IsWord (text : String) : Prop where
  nonempty : text ≠ ""
  solid : ∀ c ∈ text.toList, isBlank c = false

instance (text : String) : Decidable (IsWord text) :=
  decidable_of_iff (text ≠ "" ∧ text.toList.all (fun c => !isBlank c) = true) <| by
    simp only [List.all_eq_true, Bool.not_eq_true']
    exact ⟨fun word => ⟨word.1, word.2⟩, fun word => ⟨word.nonempty, word.solid⟩⟩

/-- A run has a character and no blank. -/
private theorem solid_of_mem_runs {cs run : List Char} (member : run ∈ runs cs) :
    run ≠ [] ∧ ∀ c ∈ run, isBlank c = false := by
  fun_induction runs cs generalizing run with
  | case1 => cases member
  | case2 c rest blank ih => exact ih member
  | case3 c solid =>
    obtain rfl := List.mem_singleton.mp member
    simpa using solid
  | case4 c solid next rest blank ih =>
    rcases List.mem_cons.mp member with rfl | later
    · simpa using solid
    · exact ih later
  | case5 c solid next rest solidNext none ih =>
    rw [none] at member
    obtain rfl := List.mem_singleton.mp member
    simpa using solid
  | case6 c solid next rest solidNext first others found ih =>
    rw [found] at member ih
    rcases List.mem_cons.mp member with rfl | later
    · refine ⟨List.cons_ne_nil _ _, fun d inside => ?_⟩
      rcases List.mem_cons.mp inside with rfl | inside
      · simpa using solid
      · exact (ih List.mem_cons_self).2 d inside
    · exact ih (List.mem_cons_of_mem _ later)

theorem isWord_of_mem_tokens {line token : String} (member : token ∈ tokens line) :
    IsWord token := by
  obtain ⟨run, inside, rfl⟩ := List.mem_map.mp member
  constructor
  · intro empty
    exact (solid_of_mem_runs inside).1 (by simpa using congrArg String.toList empty)
  · rw [String.toList_ofList]
    exact (solid_of_mem_runs inside).2

private theorem runs_of_blank {cs : List Char} (blank : ∀ c ∈ cs, isBlank c = true) :
    runs cs = [] := by
  induction cs with
  | nil => rfl
  | cons c rest ih =>
    rw [runs.eq_def]
    simp only [blank c List.mem_cons_self, ↓reduceIte]
    exact ih fun d member => blank d (List.mem_cons_of_mem _ member)

private theorem blank_of_trim_eq_empty {line : String} (empty : trim line = "") :
    ∀ c ∈ line.toList, isBlank c = true := by
  have front : ∀ c ∈ trimStart line.toList, isBlank c = true := by
    have nothing := congrArg String.toList empty
    simp only [trim, trimEnd, String.toList_ofList, String.toList_empty, List.reverse_eq_nil_iff,
      List.dropWhile_eq_nil_iff, List.mem_reverse] at nothing
    exact nothing
  intro c member
  rw [← List.takeWhile_append_dropWhile (p := isBlank) (l := line.toList)] at member
  rcases List.mem_append.mp member with before | after
  · exact List.mem_takeWhile_imp before
  · exact front c after

theorem tokens_of_trim_eq_empty {line : String} (empty : trim line = "") : tokens line = [] := by
  rw [tokens, runs_of_blank (blank_of_trim_eq_empty empty), List.map_nil]

end Text

namespace Command

theorem ofTokens?_of_parse_editDeployment {line key : String}
    (parsed : parse line = .editDeployment key) :
    ofTokens? (Text.tokens line) = some (.editDeployment key) := by
  unfold parse at parsed
  cases read : ofTokens? (Text.tokens line) with
  | none =>
    rw [read] at parsed
    cases parsed
  | some command =>
    rw [read, Option.getD_some] at parsed
    rw [parsed]

/-- An edit names a word of its line. -/
theorem isWord_of_parse_editDeployment {line key : String}
    (parsed : parse line = .editDeployment key) : Text.IsWord key := by
  have read := ofTokens?_of_parse_editDeployment parsed
  have member : key ∈ Text.tokens line := by
    unfold ofTokens? at read
    split at read <;> cases read
    next words =>
      rw [words]
      exact .tail _ (.tail _ (.tail _ (.head _)))
  exact Text.isWord_of_mem_tokens member

theorem trim_ne_empty_of_parse_editDeployment {line key : String}
    (parsed : parse line = .editDeployment key) : Text.trim line ≠ "" := by
  intro empty
  have read := ofTokens?_of_parse_editDeployment parsed
  rw [Text.tokens_of_trim_eq_empty empty] at read
  cases read

end Command

end KubeSim
