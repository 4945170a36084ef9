import KubeSim.Proofs.Paste

/-! # Line breaks of a pasted text

A line ends with a carriage return, a line feed, or the one before the other. `Prompt.fragments`
finds all three in one pass. They can also be replaced beforehand: `Text.unified` leaves out every
carriage return before a line feed and turns the others into line feeds, and the fragments are what
lies between the line feeds that result (`Prompt.fragments_eq_splitOn`).

Struck on the keyboard, a text can be interrupted anywhere. So a paste can be cut in two anywhere as
well, even between a carriage return and its line feed: the first part enters the line, and the line
feed that begins the second part finds nothing to enter (`Prompt.paste_append`).
-/

namespace KubeSim

namespace Text

/-- The characters with every carriage return before a line feed left out. -/
def joinBreaks : List Char → List Char
  | [] => []
  | '\r' :: '\n' :: rest => '\n' :: joinBreaks rest
  | c :: rest => c :: joinBreaks rest

/-- The characters with every line break replaced by a line feed. -/
def unified (cs : List Char) : List Char :=
  (joinBreaks cs).map fun c => if c = '\r' then '\n' else c

private theorem unified_return_newline (rest : List Char) :
    unified ('\r' :: '\n' :: rest) = '\n' :: unified rest := rfl

/-- A character that does not begin a pair of a carriage return and a line feed stands alone. -/
private theorem unified_cons {c : Char} {rest : List Char}
    (single : ∀ others, c = '\r' → rest = '\n' :: others → False) :
    unified (c :: rest) = (if c = '\r' then '\n' else c) :: unified rest := by
  rw [unified, joinBreaks, List.map_cons, unified]
  exact single

end Text

namespace Prompt

private theorem splitOn_newline (cs : List Char) :
    ('\n' :: cs).splitOn '\n' = [] :: cs.splitOn '\n' := by
  rw [List.splitOn_cons_eq_if_modifyHead, if_pos (beq_self_eq_true '\n')]

/-- The fragments of a text are what lies between the line feeds once each line break is one. -/
theorem fragments_eq_splitOn (cs : List Char) : fragments cs = (Text.unified cs).splitOn '\n' := by
  fun_induction fragments cs with
  | case1 => rfl
  | case2 rest ih => rw [Text.unified_return_newline, splitOn_newline, ih]
  | case3 c rest single isBreak ih =>
    have fed : (if c = '\r' then '\n' else c) = '\n' := by
      rcases isBreak with rfl | rfl <;> rfl
    rw [Text.unified_cons single, fed, splitOn_newline, ih]
  | case4 c rest _ _ none => exact absurd none (fragments_ne_nil rest)
  | case5 c rest single isTyped fragment others found ih =>
    obtain ⟨notNewline, notReturn⟩ := not_or.mp isTyped
    rw [Text.unified_cons single, if_neg notReturn, List.splitOn_cons_eq_if_modifyHead,
      if_neg (by simpa using notNewline), ← ih, found, List.modifyHead_cons]

/-- A paste enters the line at each line feed that the text has once each line break is one. -/
theorem paste_eq_resume_splitOn (prompt : Prompt) (text : String) :
    prompt.paste text =
      Prod.map id unrecalled (prompt.resume ((Text.unified text.toList).splitOn '\n')) := by
  rw [paste_eq_resume, fragments_eq_splitOn]

/-- Characters can be struck in two parts. -/
private theorem strikeAll_append (prompt : Prompt) (first second : List Char) :
    prompt.strikeAll (first ++ second) =
      ((prompt.strikeAll first).1 ++ ((prompt.strikeAll first).2.strikeAll second).1,
        ((prompt.strikeAll first).2.strikeAll second).2) := by
  induction first generalizing prompt with
  | nil => rfl
  | cons c rest ih => simp only [List.cons_append, strikeAll, ih, List.append_assoc]

/-- A text can be pasted in two parts, wherever it is cut. -/
theorem paste_append (prompt : Prompt) (first second : String) :
    prompt.paste (first ++ second) =
      ((prompt.paste first).1 ++ ((prompt.paste first).2.paste second).1,
        ((prompt.paste first).2.paste second).2) := by
  have resumed : (prompt.strikeAll first.toList).2.unrecalled.paste second =
      Prod.map id unrecalled ((prompt.strikeAll first.toList).2.strikeAll second.toList) := by
    rw [paste_eq_strikeAll, strikeAll_unrecalled, Prod.map_map]
    rfl
  simp only [paste_eq_strikeAll prompt, String.toList_append, strikeAll_append, Prod.map_fst,
    Prod.map_snd, resumed, Prod.map_apply, id_eq]

/-- Whatever was typed, remembered and recalled before, a pasted text is entered at its line breaks,
which are line feeds once they are replaced. It enters the lines that its characters enter when they
are struck one by one, in that order, and leaves the same text and the same history, with no entry
recalled. So a text can be pasted in two parts, wherever it is cut. -/
theorem paste_eq_keystrokes (prompt : Prompt) (text : String) :
    prompt.paste text =
        Prod.map id unrecalled (prompt.resume ((Text.unified text.toList).splitOn '\n')) ∧
      (prompt.paste text).1 = (prompt.strikeAll text.toList).1 ∧
      (prompt.paste text).2.text = (prompt.strikeAll text.toList).2.text ∧
      (prompt.paste text).2.history = (prompt.strikeAll text.toList).2.history ∧
      (prompt.paste text).2.recalled = none ∧
      ∀ rest, prompt.paste (text ++ rest) =
        ((prompt.paste text).1 ++ ((prompt.paste text).2.paste rest).1,
          ((prompt.paste text).2.paste rest).2) := by
  have struck := paste_eq_strikeAll prompt text
  refine ⟨paste_eq_resume_splitOn prompt text, ?_, ?_, ?_, recalled_paste prompt text,
    paste_append prompt text⟩
  · rw [struck, Prod.map_fst, id_eq]
  · rw [struck, Prod.map_snd, text_unrecalled]
  · rw [struck, Prod.map_snd, history_unrecalled]

/-- A cut between a carriage return and its line feed enters the line once, as does the whole. -/
example :
    ((⟨"kubectl ", ["help"], some 0⟩ : Prompt).paste "get pods\r").1 = ["kubectl get pods"] ∧
      ((⟨"kubectl ", ["help"], some 0⟩ : Prompt).paste "get pods\r").2.paste "\nclear" =
        ([], ⟨"clear", ["help", "kubectl get pods"], none⟩) ∧
      (⟨"kubectl ", ["help"], some 0⟩ : Prompt).paste "get pods\r\nclear" =
        (["kubectl get pods"], ⟨"clear", ["help", "kubectl get pods"], none⟩) := by
  decide +kernel

end Prompt

end KubeSim
