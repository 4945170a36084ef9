import KubeSim.Proofs.History

/-! # Recall is a walk through the history

The arrow keys recall what was entered before. Whatever was done to a prompt, the place that recall
has reached is an entry of the history (`Prompt.sound_ofEdits`): typing keeps the place, the history
only grows, and entering a line forgets the place. So an arrow that looks up an entry finds it.

From a line that was just entered, recall is a walk with two ends. `Prompt.shownAt` is what a prompt
shows at a position of the history, where the position after the newest entry has an empty line. An
arrow moves the position by one and stays at either end (`Prompt.follow_shownAt`). No entry has
anything to trim, so what is shown is entered as it stands.
-/

namespace KubeSim

/-- A key that recalls: up to what was entered before, down to what was entered after. -/
inductive Arrow where
  | up
  | down
deriving DecidableEq

/-- Where an arrow leads from a position in a history of `count` entries. The position after the
newest entry is the last. -/
def Arrow.move (count position : Nat) : Arrow → Nat
  | .up => position - 1
  | .down => min (position + 1) count

/-- Where arrows lead from the last position in a history of `count` entries. -/
def Arrow.moveAll (count : Nat) (arrows : List Arrow) : Nat := arrows.foldl (move count) count

theorem Arrow.move_le {count position : Nat} (inside : position ≤ count) (arrow : Arrow) :
    arrow.move count position ≤ count := by
  cases arrow with
  | up => exact (Nat.sub_le position 1).trans inside
  | down => exact Nat.min_le_right ..

theorem Arrow.moveAll_le (count : Nat) (arrows : List Arrow) : moveAll count arrows ≤ count := by
  have walked : ∀ position ≤ count, arrows.foldl (move count) position ≤ count := by
    induction arrows with
    | nil => exact fun _ inside => inside
    | cons arrow rest ih => exact fun _ inside => ih _ (move_le inside arrow)
  exact walked count (Nat.le_refl count)

namespace Prompt

inductive Edit where
  | push (c : Char)
  | backspace
  | paste (text : String)
  | submit
  | arrow (direction : Arrow)
deriving DecidableEq

def follow (prompt : Prompt) : Arrow → Prompt
  | .up => prompt.recallPrevious
  | .down => prompt.recallNext

def followAll (prompt : Prompt) (arrows : List Arrow) : Prompt := arrows.foldl follow prompt

def edit (prompt : Prompt) : Edit → Prompt
  | .push c => prompt.push c
  | .backspace => prompt.backspace.2
  | .paste text => (prompt.paste text).2
  | .submit => prompt.submit.2
  | .arrow direction => prompt.follow direction

def ofEdits (edits : List Edit) : Prompt := edits.foldl edit new

/-! ## What is looked up is there -/

/-- The place in the history that an arrow looks up, if it looks one up. -/
def sought (prompt : Prompt) : Arrow → Option Nat
  | .up =>
    if prompt.history = [] then none
    else match prompt.recalled with
      | none => some (prompt.history.length - 1)
      | some index => some (index - 1)
  | .down =>
    match prompt.recalled with
    | none => none
    | some index => if index + 1 < prompt.history.length then some (index + 1) else none

/-- The recalled entry is in the history, and no entry has anything to trim. -/
structure Sound (prompt : Prompt) : Prop where
  recalled : ∀ index, prompt.recalled = some index → index < prompt.history.length
  tight : ∀ line ∈ prompt.history, Text.IsTight line

theorem sound_new : Sound new := ⟨by simp [new], by simp [new]⟩

variable {prompt : Prompt}

/-- An entry is shown as it stands in the history. -/
private theorem showEntry_of_lt {index : Nat} (inside : index < prompt.history.length) :
    prompt.showEntry index =
      { prompt with text := prompt.history[index], recalled := some index } := by
  rw [showEntry, List.getElem?_eq_getElem inside]

/-- An arrow that looks up a place finds an entry there and shows it. Any other arrow leaves the
prompt as it is or empties the line. -/
private theorem Sound.follow_cases (sound : prompt.Sound) (arrow : Arrow) :
    (∃ index, ∃ inside : index < prompt.history.length, prompt.sought arrow = some index ∧
      prompt.follow arrow =
        { prompt with text := prompt.history[index], recalled := some index }) ∨
    prompt.sought arrow = none ∧
      (prompt.follow arrow = prompt ∨
        prompt.follow arrow = { prompt with text := "", recalled := none }) := by
  cases arrow with
  | up =>
    simp only [sought, follow, recallPrevious]
    cases found : prompt.recalled with
    | none =>
      by_cases empty : prompt.history = []
      · -- There is no entry to show, so the prompt stays as it is.
        simp [empty, showEntry]
      · have filled := List.length_pos_iff.mpr empty
        have inside : prompt.history.length - 1 < prompt.history.length := by omega
        exact .inl ⟨_, inside, if_neg empty, showEntry_of_lt inside⟩
    | some place =>
      have reached := sound.recalled place found
      have filled : prompt.history ≠ [] := List.ne_nil_of_length_pos (by omega)
      have inside : place - 1 < prompt.history.length := by omega
      exact .inl ⟨_, inside, if_neg filled, showEntry_of_lt inside⟩
  | down =>
    simp only [sought, follow, recallNext]
    cases found : prompt.recalled with
    | none => exact .inr ⟨rfl, .inl rfl⟩
    | some place =>
      by_cases inside : place + 1 < prompt.history.length
      · exact .inl ⟨_, inside, if_pos inside, (if_pos inside).trans (showEntry_of_lt inside)⟩
      · exact .inr ⟨if_neg inside, .inr (if_neg inside)⟩

/-- Entering lines keeps a prompt sound, where it forgets the recalled entry or leaves it alone. -/
theorem Sound.enters (sound : prompt.Sound) {after : Prompt} {lines : List String}
    (entered : Enters lines prompt after)
    (place : after.recalled = none ∨ after.recalled = prompt.recalled) : after.Sound := by
  constructor
  · intro index found
    rcases place with forgotten | kept
    · rw [forgotten] at found
      cases found
    · have inside := sound.recalled index (kept ▸ found)
      rw [entered.history, List.length_append]
      omega
  · rw [entered.history]
    exact List.forall_mem_append.mpr ⟨sound.tight, entered.tight⟩

theorem Sound.follow (sound : prompt.Sound) (arrow : Arrow) : (prompt.follow arrow).Sound := by
  obtain ⟨index, inside, _, shown⟩ | ⟨_, same | emptied⟩ := sound.follow_cases arrow
  · rw [shown]
    refine ⟨?_, sound.tight⟩
    rintro place ⟨⟩
    exact inside
  · rwa [same]
  · rw [emptied]
    exact sound.enters (.none rfl) (.inl rfl)

theorem Sound.edit (sound : prompt.Sound) (edit : Edit) : (prompt.edit edit).Sound := by
  cases edit with
  | push c => exact sound.enters (.none rfl) (.inr rfl)
  | backspace => exact sound.enters (.none rfl) (.inr rfl)
  | paste text => exact sound.enters (enters_paste prompt text) (.inl (recalled_paste prompt text))
  | submit => exact sound.enters (enters_submit prompt) (.inl rfl)
  | arrow direction => exact sound.follow direction

/-- Whatever was done to it, a prompt is sound. -/
theorem sound_ofEdits (edits : List Edit) : (ofEdits edits).Sound := by
  have kept : ∀ first : Prompt, first.Sound → (edits.foldl Prompt.edit first).Sound := by
    induction edits with
    | nil => exact fun _ sound => sound
    | cons edit rest ih => exact fun _ sound => ih _ (sound.edit edit)
  exact kept new sound_new

/-! ## The walk -/

/-- What is shown at a position of a history: the entry there, or an empty line after the newest. -/
def shownAt (history : List String) (position : Nat) : Prompt where
  text := history.getD position ""
  history := history
  recalled := if position < history.length then some position else none

variable {history : List String} {position : Nat}

private theorem shownAt_of_lt (inside : position < history.length) :
    shownAt history position = ⟨history[position], history, some position⟩ := by
  simp [shownAt, inside]

private theorem shownAt_length (history : List String) :
    shownAt history history.length = ⟨"", history, none⟩ := by
  simp [shownAt]

/-- An entry is shown the same way whatever was shown before. -/
private theorem showEntry_shownAt (inside : position < history.length) (before : Nat) :
    (shownAt history before).showEntry position = shownAt history position := by
  have found : position < (shownAt history before).history.length := inside
  rw [showEntry_of_lt found, shownAt_of_lt inside]
  rfl

/-- An arrow leads from what is shown at a position to what is shown where the arrow leads. -/
private theorem follow_shownAt (inside : position ≤ history.length) (arrow : Arrow) :
    (shownAt history position).follow arrow =
      shownAt history (arrow.move history.length position) := by
  rcases Nat.lt_or_eq_of_le inside with recalls | rfl
  · have place : (shownAt history position).recalled = some position := by
      rw [shownAt_of_lt recalls]
    cases arrow with
    | up =>
      have before : position - 1 < history.length := by omega
      simp only [follow, recallPrevious, place, Arrow.move, showEntry_shownAt before]
    | down =>
      simp only [follow, recallNext, place, Arrow.move]
      by_cases next : position + 1 < history.length
      · rw [Nat.min_eq_left next.le, ← showEntry_shownAt next position]
        exact if_pos next
      · rw [Nat.min_eq_right (Nat.not_lt.mp next), shownAt_length]
        exact if_neg next
  · -- Past the newest entry no place is recalled, and the history alone says where an arrow leads.
    cases arrow with
    | up =>
      simp only [follow, recallPrevious, Arrow.move, shownAt_length]
      rcases Nat.eq_zero_or_pos history.length with empty | filled
      · rw [List.length_eq_zero_iff.mp empty]
        rfl
      · have newest : history.length - 1 < history.length := by omega
        rw [← showEntry_shownAt newest history.length, shownAt_length]
    | down =>
      simp only [follow, recallNext, Arrow.move, shownAt_length]
      rw [Nat.min_eq_right (Nat.le_succ _), shownAt_length]

/-- Arrows lead to what is shown where they lead. -/
theorem followAll_shownAt (history : List String) (arrows : List Arrow) :
    (shownAt history history.length).followAll arrows =
      shownAt history (Arrow.moveAll history.length arrows) := by
  have walked : ∀ position ≤ history.length, arrows.foldl follow (shownAt history position) =
      shownAt history (arrows.foldl (Arrow.move history.length) position) := by
    induction arrows with
    | nil => exact fun _ _ => rfl
    | cons arrow rest ih =>
      intro position inside
      rw [List.foldl_cons, follow_shownAt inside, ih _ (Arrow.move_le inside arrow),
        List.foldl_cons]
  exact walked history.length (Nat.le_refl _)

/-- The shown entry is entered as it stands, and the empty line is dropped. -/
private theorem submit_shownAt (tight : ∀ line ∈ history, Text.IsTight line)
    (inside : position ≤ history.length) :
    (shownAt history position).submit =
      if position < history.length then
        (some (shownAt history position).text,
          ⟨"", history ++ [(shownAt history position).text], none⟩)
      else (none, ⟨"", history, none⟩) := by
  split
  · next recalls =>
    rw [shownAt_of_lt recalls]
    exact submit_of_isTight (tight _ (List.getElem_mem recalls))
  · next past =>
    rw [Nat.le_antisymm inside (Nat.not_lt.mp past), shownAt_length]
    rfl

private theorem getElem?_text_shownAt (inside : position ≤ history.length) :
    (history ++ [""])[position]? = some (shownAt history position).text := by
  rcases Nat.lt_or_eq_of_le inside with recalls | rfl
  · rw [List.getElem?_append_left recalls, shownAt_of_lt recalls, List.getElem?_eq_getElem]
  · rw [List.getElem?_concat_length, shownAt_length]

theorem submit_eq_shownAt (prompt : Prompt) :
    prompt.submit.2 = shownAt prompt.submit.2.history prompt.submit.2.history.length := by
  rw [shownAt_length]
  rfl

/-- Whatever was done to a prompt, the recalled entry is in its history, and an arrow that looks up
an entry shows it. From a line that was just entered, any arrows show the entry at the position that
they lead to, where each moves it by one and stays at the ends. That entry is entered as it stands,
and the empty line after the newest entry is dropped. -/
theorem recall_eq_walk (edits : List Edit) {prompt : Prompt} (reached : ofEdits edits = prompt) :
    (∀ index, prompt.recalled = some index → index < prompt.history.length) ∧
      (∀ arrow index, prompt.sought arrow = some index → ∃ line,
        prompt.history[index]? = some line ∧
          prompt.follow arrow = { prompt with text := line, recalled := some index }) ∧
      ∀ fresh, prompt.submit.2 = fresh → ∀ arrows : List Arrow, ∃ line,
        (fresh.history ++ [""])[Arrow.moveAll fresh.history.length arrows]? = some line ∧
          (fresh.followAll arrows).text = line ∧
          (fresh.followAll arrows).submit =
            if Arrow.moveAll fresh.history.length arrows < fresh.history.length then
              (some line, ⟨"", fresh.history ++ [line], none⟩)
            else (none, ⟨"", fresh.history, none⟩) := by
  have sound := sound_ofEdits edits
  rw [reached] at sound
  refine ⟨sound.recalled, ?_, ?_⟩
  · intro arrow index looked
    obtain ⟨place, inside, found, shown⟩ | ⟨missed, _⟩ := sound.follow_cases arrow
    · cases found.symm.trans looked
      exact ⟨_, List.getElem?_eq_getElem inside, shown⟩
    · rw [missed] at looked
      cases looked
  · rintro fresh rfl arrows
    have tight : ∀ line ∈ prompt.submit.2.history, Text.IsTight line := (sound.edit .submit).tight
    have start := submit_eq_shownAt prompt
    generalize prompt.submit.2.history = history at start tight ⊢
    have inside := Arrow.moveAll_le history.length arrows
    rw [start, followAll_shownAt]
    exact ⟨_, getElem?_text_shownAt inside, rfl, submit_shownAt tight inside⟩

/-- Three lines are entered, the last of them recalled. Three arrows up and one down lead to the
second line, six arrows up to the first, and one up and two down back to the empty line. -/
theorem recall_eq_walk_threeLines :
    ∃ prompt, ofEdits [.paste "help\r\nkubectl get pods\n \nclea", .push 'r', .backspace,
        .arrow .up, .arrow .up] = prompt ∧
      prompt.submit.2.history = ["help", "kubectl get pods", "help"] ∧
      (prompt.submit.2.followAll [.up, .up, .up, .down]).submit =
        (some "kubectl get pods",
          ⟨"", ["help", "kubectl get pods", "help", "kubectl get pods"], none⟩) ∧
      (prompt.submit.2.followAll (.replicate 6 .up)).text = "help" ∧
      (prompt.submit.2.followAll [.up, .down, .down]).submit =
        (none, ⟨"", ["help", "kubectl get pods", "help"], none⟩) := by
  obtain ⟨_, _, walk⟩ := recall_eq_walk [.paste "help\r\nkubectl get pods\n \nclea", .push 'r',
    .backspace, .arrow .up, .arrow .up] rfl
  have walked := walk _ rfl
  have listed : (ofEdits [.paste "help\r\nkubectl get pods\n \nclea", .push 'r', .backspace,
      .arrow .up, .arrow .up]).submit.2.history = ["help", "kubectl get pods", "help"] := by
    decide +kernel
  rw [listed] at walked
  refine ⟨_, rfl, listed, ?_, ?_, ?_⟩
  · obtain ⟨line, ⟨⟩, _, entered⟩ := walked [.up, .up, .up, .down]
    exact entered
  · obtain ⟨line, ⟨⟩, shown, _⟩ := walked (.replicate 6 .up)
    exact shown
  · obtain ⟨_, _, _, dropped⟩ := walked [.up, .down, .down]
    exact dropped

end Prompt

end KubeSim
