import KubeSim.Proofs.Tokens
import Mathlib.Data.List.DropRight
import Mathlib.Tactic.MkIffOfInductiveProp

/-! # The grammar of a line

A `Spelling` takes a line apart into blanks and words: blanks that may be missing at its start, and
words, each with the blanks after it, of which there is one at least where another word follows.
Every line has exactly one spelling. Its words are the tokens of the line, and trimming the line
takes the blanks at both ends out of its spelling.

The forms of a command are stated as the relation `Command.Form` between the words of a line and what
it asks for. The main statement, `Command.parse_spelling`, says that reading a line finds the form of
its words and that every other line is unknown, as it stands between the blanks at its ends.
-/

namespace KubeSim

namespace Text

/-! ## Blanks and words -/

/-- Words in a row, each with the blanks after it. No two words touch. -/
inductive Spaced : List (List Char × List Char) → Prop
  | nil : Spaced []
  | cons {word gap : List Char} {rest : List (List Char × List Char)} (nonempty : word ≠ [])
      (solid : ∀ c ∈ word, isBlank c = false) (blank : ∀ c ∈ gap, isBlank c = true)
      (apart : rest ≠ [] → gap ≠ []) (others : Spaced rest) : Spaced ((word, gap) :: rest)

/-- The characters of words in a row, with the blanks after each. -/
def joined (words : List (List Char × List Char)) : List Char :=
  words.flatMap fun entry => entry.1 ++ entry.2

@[simp] theorem joined_nil : joined [] = [] := rfl

@[simp] theorem joined_cons (word gap : List Char) (rest : List (List Char × List Char)) :
    joined ((word, gap) :: rest) = word ++ (gap ++ joined rest) := by
  simp [joined]

/-- A row of words starts with one of them. -/
private theorem Spaced.head_joined {words : List (List Char × List Char)} (spaced : Spaced words) :
    ∀ c ∈ (joined words).head?, isBlank c = false := by
  cases spaced with
  | nil => simp
  | @cons word gap rest nonempty solid _ _ _ =>
    obtain ⟨first, others, rfl⟩ := List.exists_cons_of_ne_nil nonempty
    simpa using solid first List.mem_cons_self

/-- What follows a word starts with a blank. -/
private theorem head_gap {gap : List Char} {rest : List (List Char × List Char)}
    (blank : ∀ c ∈ gap, isBlank c = true) (apart : rest ≠ [] → gap ≠ []) :
    ∀ c ∈ (gap ++ joined rest).head?, isBlank c = true := by
  cases gap with
  | nil =>
    have last : rest = [] := by
      by_contra more
      exact apart more rfl
    simp [last]
  | cons first others => simpa using blank first List.mem_cons_self

/-- A text splits in one way into characters of a kind and a rest that starts with another. -/
private theorem append_inj_of_head {p : Char → Bool} {front rest other tail : List Char}
    (kind : ∀ c ∈ front, p c = true) (stops : ∀ c ∈ rest.head?, p c = false)
    (otherKind : ∀ c ∈ other, p c = true) (otherStops : ∀ c ∈ tail.head?, p c = false)
    (same : front ++ rest = other ++ tail) : front = other ∧ rest = tail := by
  have stopped {cs : List Char} (stops : ∀ c ∈ cs.head?, p c = false) : cs.takeWhile p = [] := by
    cases cs with
    | nil => rfl
    | cons first others => simp [stops first (by simp)]
  have taken := congrArg (List.takeWhile p) same
  rw [List.takeWhile_append_of_pos kind, List.takeWhile_append_of_pos otherKind, stopped stops,
    stopped otherStops, List.append_nil, List.append_nil] at taken
  exact ⟨taken, List.append_cancel_left (taken ▸ same)⟩

private theorem Spaced.eq_of_joined_eq {words others : List (List Char × List Char)}
    (spaced : Spaced words) (otherSpaced : Spaced others) (same : joined words = joined others) :
    words = others := by
  induction spaced generalizing others with
  | nil =>
    cases otherSpaced with
    | nil => rfl
    | cons nonempty => simp [nonempty] at same
  | @cons word gap rest nonempty solid blank apart spacedRest ih =>
    cases otherSpaced with
    | nil => simp [nonempty] at same
    | @cons otherWord otherGap otherRest _ otherSolid otherBlank otherApart otherSpacedRest =>
      rw [joined_cons, joined_cons] at same
      have wordsSame := append_inj_of_head (p := fun c => !isBlank c) (by simpa using solid)
        (by simpa using head_gap blank apart) (by simpa using otherSolid)
        (by simpa using head_gap otherBlank otherApart) same
      have gapsSame := append_inj_of_head blank spacedRest.head_joined otherBlank
        otherSpacedRest.head_joined wordsSame.2
      rw [wordsSame.1, gapsSame.1, ih otherSpacedRest gapsSame.2]

/-! ## Spellings -/

/-- A line taken apart: the blanks at its start, and its words, each with the blanks after it. -/
@[ext] structure Spelling where
  lead : List Char
  words : List (List Char × List Char)
  blank : ∀ c ∈ lead, isBlank c = true
  spaced : Spaced words

namespace Spelling

def chars (spelling : Spelling) : List Char := spelling.lead ++ joined spelling.words

def line (spelling : Spelling) : String := String.ofList spelling.chars

def tokens (spelling : Spelling) : List String :=
  spelling.words.map fun entry => String.ofList entry.1

theorem toList_line (spelling : Spelling) : spelling.line.toList = spelling.chars :=
  String.toList_ofList

private theorem exists_chars (cs : List Char) : ∃ spelling : Spelling, spelling.chars = cs := by
  induction cs with
  | nil => exact ⟨⟨[], [], by simp, .nil⟩, rfl⟩
  | cons c rest ih =>
    obtain ⟨⟨lead, words, blank, spaced⟩, rfl⟩ := ih
    cases isBlankC : isBlank c with
    | true =>
      have blankAll : ∀ d ∈ c :: lead, isBlank d = true := List.forall_mem_cons.mpr ⟨isBlankC, blank⟩
      exact ⟨⟨c :: lead, words, blankAll, spaced⟩, rfl⟩
    | false =>
      have solid : ∀ d ∈ [c], isBlank d = false := by simpa using isBlankC
      -- Without blanks between, the character joins the word that follows it.
      cases lead with
      | cons first others =>
        refine ⟨⟨[], ([c], first :: others) :: words, by simp, ?_⟩, by simp [chars]⟩
        exact .cons (by simp) solid blank (by simp) spaced
      | nil =>
        cases spaced with
        | nil =>
          refine ⟨⟨[], [([c], [])], by simp, ?_⟩, by simp [chars]⟩
          exact .cons (by simp) solid (by simp) (by simp) .nil
        | @cons word gap more _ solidWord blankGap apart spacedMore =>
          have solidAll : ∀ d ∈ c :: word, isBlank d = false :=
            List.forall_mem_cons.mpr ⟨isBlankC, solidWord⟩
          refine ⟨⟨[], (c :: word, gap) :: more, by simp, ?_⟩, by simp [chars]⟩
          exact .cons (by simp) solidAll blankGap apart spacedMore

private theorem eq_of_chars_eq {spelling other : Spelling} (same : spelling.chars = other.chars) :
    spelling = other := by
  obtain ⟨leads, rows⟩ := append_inj_of_head spelling.blank spelling.spaced.head_joined other.blank
    other.spaced.head_joined same
  exact Spelling.ext leads (spelling.spaced.eq_of_joined_eq other.spaced rows)

/-- Every line has exactly one spelling. -/
theorem existsUnique_line (line : String) : ∃! spelling : Spelling, spelling.line = line := by
  obtain ⟨spelling, spelled⟩ := exists_chars line.toList
  refine ⟨spelling, by simp only [Spelling.line, spelled, String.ofList_toList], ?_⟩
  intro other otherSpelled
  apply eq_of_chars_eq
  rw [spelled, ← otherSpelled, toList_line]

end Spelling

/-! ## Tokens and trimming -/

private theorem runs_append_of_blank {lead : List Char} (blank : ∀ c ∈ lead, isBlank c = true)
    (cs : List Char) : runs (lead ++ cs) = runs cs := by
  induction lead with
  | nil => rfl
  | cons c rest ih =>
    obtain ⟨first, others⟩ := List.forall_mem_cons.mp blank
    rw [List.cons_append, runs.eq_def]
    simp only [first, ↓reduceIte]
    exact ih others

private theorem runs_append_of_solid {word : List Char} (nonempty : word ≠ [])
    (solid : ∀ c ∈ word, isBlank c = false) {cs : List Char}
    (stops : ∀ c ∈ cs.head?, isBlank c = true) : runs (word ++ cs) = word :: runs cs := by
  induction word with
  | nil => exact absurd rfl nonempty
  | cons c rest ih =>
    obtain ⟨first, others⟩ := List.forall_mem_cons.mp solid
    cases rest with
    | nil =>
      cases cs with
      | nil => simp [runs, first]
      | cons d more => simp [runs, first, stops d (by simp)]
    | cons d more =>
      have second : isBlank d = false := others d List.mem_cons_self
      have run := ih (List.cons_ne_nil d more) others
      rw [List.cons_append] at run
      rw [List.cons_append, List.cons_append, runs]
      simp only [first, second, Bool.false_eq_true, ↓reduceIte, run]

private theorem Spaced.runs_joined {words : List (List Char × List Char)} (spaced : Spaced words) :
    runs (joined words) = words.map (·.1) := by
  induction spaced with
  | nil => rfl
  | cons nonempty solid blank apart _ ih =>
    rw [joined_cons, runs_append_of_solid nonempty solid (head_gap blank apart),
      runs_append_of_blank blank, ih, List.map_cons]

/-- The words of a row without the blanks after the last. -/
def closed : List (List Char × List Char) → List (List Char × List Char)
  | [] => []
  | [(word, _)] => [(word, [])]
  | entry :: next :: rest => entry :: closed (next :: rest)

@[simp] theorem closed_eq_nil_iff {words : List (List Char × List Char)} :
    closed words = [] ↔ words = [] := by
  fun_cases closed words <;> simp

private theorem map_fst_closed (words : List (List Char × List Char)) :
    (closed words).map (·.1) = words.map (·.1) := by
  fun_induction closed words with
  | case3 entry next rest ih => rw [List.map_cons, ih, List.map_cons (l := next :: rest)]
  | _ => rfl

private theorem closed_closed (words : List (List Char × List Char)) :
    closed (closed words) = closed words := by
  fun_induction closed words with
  | case3 entry next rest ih =>
    obtain ⟨first, more, row⟩ := List.exists_cons_of_ne_nil
      (show closed (next :: rest) ≠ [] by simp)
    rw [row] at ih ⊢
    rw [closed, ih]
  | _ => rfl

theorem Spaced.closed {words : List (List Char × List Char)} (spaced : Spaced words) :
    Spaced (closed words) := by
  induction spaced with
  | nil => exact .nil
  | @cons word gap rest nonempty solid blank apart _ ih =>
    cases rest with
    | nil => exact .cons nonempty solid (by simp) (by simp) .nil
    | cons next more => exact .cons nonempty solid blank (fun _ => apart (by simp)) ih

private theorem trimEnd_append (front rest : List Char) :
    trimEnd (front ++ rest) = if trimEnd rest = [] then trimEnd front else front ++ trimEnd rest := by
  simp only [trimEnd, List.reverse_append, List.dropWhile_append, List.isEmpty_iff,
    List.reverse_eq_nil_iff]
  split <;> simp

/-- Without the blanks after it a row of words ends with a word. -/
private theorem Spaced.trimEnd_joined {words : List (List Char × List Char)}
    (spaced : Spaced words) :
    trimEnd (joined words) = joined (Text.closed words) := by
  induction spaced with
  | nil => rfl
  | @cons word gap rest nonempty solid blank apart others ih =>
    cases rest with
    | nil =>
      have gone : trimEnd gap = [] := List.rdropWhile_eq_nil_iff.mpr blank
      have stays : trimEnd word = word := List.rdropWhile_eq_self_iff.mpr fun present => by
        simp [solid _ (List.getLast_mem present)]
      simp [Text.closed, trimEnd_append, gone, stays]
    | cons next more =>
      have filled : joined (Text.closed (next :: more)) ≠ [] := by
        intro empty
        have none := others.closed.eq_of_joined_eq .nil (by simpa using empty)
        simp at none
      rw [joined_cons, trimEnd_append, trimEnd_append, ih, Text.closed, joined_cons]
      simp [filled]

namespace Spelling

/-- The spelling without the blanks at both ends of the line. -/
def trimmed (spelling : Spelling) : Spelling :=
  ⟨[], closed spelling.words, by simp, spelling.spaced.closed⟩

@[simp] theorem tokens_trimmed (spelling : Spelling) : spelling.trimmed.tokens = spelling.tokens := by
  have same := congrArg (List.map String.ofList) (map_fst_closed spelling.words)
  simpa only [tokens, trimmed, List.map_map, Function.comp_def] using same

@[simp] theorem trimmed_trimmed (spelling : Spelling) :
    spelling.trimmed.trimmed = spelling.trimmed := by
  simp only [trimmed, closed_closed]

/-- The tokens of a line are the words of its spelling. -/
theorem tokens_line (spelling : Spelling) : Text.tokens spelling.line = spelling.tokens := by
  rw [Text.tokens, toList_line, chars, runs_append_of_blank spelling.blank,
    spelling.spaced.runs_joined, tokens, List.map_map]
  rfl

/-- Trimming a line takes the blanks at both ends out of its spelling. -/
theorem trim_line (spelling : Spelling) : Text.trim spelling.line = spelling.trimmed.line := by
  have start : trimStart spelling.chars = joined spelling.words := by
    rw [trimStart, chars, List.dropWhile_append_of_pos spelling.blank,
      List.dropWhile_eq_self_iff]
    intro filled
    have first := spelling.spaced.head_joined _ (List.head_mem_head? (List.ne_nil_of_length_pos filled))
    simpa [List.head_eq_getElem] using first
  rw [Text.trim, toList_line, start, spelling.spaced.trimEnd_joined]
  rfl

end Spelling

end Text

/-! ## Forms of commands -/

namespace Command

open Text (Spelling IsWord)

/-- The words that ask for something known. -/
@[mk_iff] inductive Form : List String → Command → Prop
  | help : Form ["help"] .help
  | clear : Form ["clear"] .clear
  | getPods : Form ["kubectl", "get", "pods"] .getPods
  | logs (pod : String) (more : List String) : Form ("kubectl" :: "logs" :: pod :: more) (.logs pod)
  | describePod (pod : String) (more : List String) :
      Form ("kubectl" :: "describe" :: "pod" :: pod :: more) (.describePod pod)
  | editDeployment (deployment : String) (more : List String) :
      Form ("kubectl" :: "edit" :: "deployment" :: deployment :: more) (.editDeployment deployment)

theorem ofTokens?_eq_some_iff {tokens : List String} {command : Command} :
    ofTokens? tokens = some command ↔ Form tokens command := by
  constructor
  · intro read
    unfold ofTokens? at read
    split at read <;> cases read <;> constructor
  · rintro ⟨⟩ <;> rfl

theorem ofTokens?_eq_none_iff {tokens : List String} :
    ofTokens? tokens = none ↔ ∀ command, ¬Form tokens command := by
  simp only [← ofTokens?_eq_some_iff, Option.eq_none_iff_forall_ne_some, ne_eq]

theorem parse_line (spelling : Spelling) : parse spelling.line =
    (ofTokens? spelling.tokens).getD (.unknown spelling.trimmed.line) := by
  rw [parse, spelling.tokens_line, spelling.trim_line]

theorem parse_line_eq_iff {spelling : Spelling} {command : Command} :
    parse spelling.line = command ↔ Form spelling.tokens command ∨
      (∀ known, ¬Form spelling.tokens known) ∧ command = .unknown spelling.trimmed.line := by
  rw [parse_line, ← ofTokens?_eq_none_iff, ← ofTokens?_eq_some_iff]
  cases ofTokens? spelling.tokens <;> simp [eq_comm]

theorem parse_line_trimmed (spelling : Spelling) :
    parse spelling.trimmed.line = parse spelling.line := by
  rw [parse_line, parse_line, Spelling.tokens_trimmed, Spelling.trimmed_trimmed]

/-- The name in a form is one of its words. -/
theorem Form.name_mem {tokens : List String} {command : Command} {name : String}
    (form : Form tokens command)
    (named : command ∈ [.logs name, .describePod name, .editDeployment name]) : name ∈ tokens := by
  cases form with
  | help | clear | getPods => simp at named
  | logs | describePod | editDeployment =>
    simp only [List.mem_cons, List.not_mem_nil, or_false, reduceCtorEq, false_or, logs.injEq,
      describePod.injEq, editDeployment.injEq] at named
    simp [named]

/-- Every line has exactly one spelling, and its words decide what the line asks for. A line whose
words have no known form is unknown, and is kept without the blanks at its ends. So a name that is
read is a word, and it changes nothing to trim a line first or to read an unknown one again. -/
theorem parse_spelling :
    (∀ line, ∃! spelling : Spelling, spelling.line = line) ∧
    (∀ spelling : Spelling,
      (parse spelling.line = .help ↔ spelling.tokens = ["help"]) ∧
      (parse spelling.line = .clear ↔ spelling.tokens = ["clear"]) ∧
      (parse spelling.line = .getPods ↔ spelling.tokens = ["kubectl", "get", "pods"]) ∧
      (∀ pod, parse spelling.line = .logs pod ↔
        ∃ more, spelling.tokens = "kubectl" :: "logs" :: pod :: more) ∧
      (∀ pod, parse spelling.line = .describePod pod ↔
        ∃ more, spelling.tokens = "kubectl" :: "describe" :: "pod" :: pod :: more) ∧
      (∀ deployment, parse spelling.line = .editDeployment deployment ↔
        ∃ more, spelling.tokens = "kubectl" :: "edit" :: "deployment" :: deployment :: more) ∧
      ∀ rest, parse spelling.line = .unknown rest ↔
        (∀ command, ¬Form spelling.tokens command) ∧ rest = spelling.trimmed.line) ∧
    (∀ line name, parse line ∈ [.logs name, .describePod name, .editDeployment name] →
      IsWord name) ∧
    (∀ line, parse (Text.trim line) = parse line) ∧
    ∀ line rest, parse line = .unknown rest → parse rest = .unknown rest := by
  refine ⟨Spelling.existsUnique_line, fun spelling => ?_, fun line name named => ?_, fun line => ?_,
    fun line rest unknown => ?_⟩
  · simp [parse_line_eq_iff, form_iff]
  · obtain ⟨spelling, rfl, _⟩ := Spelling.existsUnique_line line
    obtain form | ⟨_, unknown⟩ := parse_line_eq_iff.mp (Eq.refl (parse spelling.line))
    · have member := form.name_mem named
      rw [← spelling.tokens_line] at member
      exact Text.isWord_of_mem_tokens member
    · simp [unknown] at named
  · obtain ⟨spelling, rfl, _⟩ := Spelling.existsUnique_line line
    rw [spelling.trim_line, parse_line_trimmed]
  · obtain ⟨spelling, rfl, _⟩ := Spelling.existsUnique_line line
    obtain form | ⟨_, kept⟩ := parse_line_eq_iff.mp unknown
    · simp [form_iff] at form
    · obtain rfl : rest = spelling.trimmed.line := Command.unknown.inj kept
      rw [parse_line_trimmed, unknown]

/-- An edit between blanks of several kinds, with a word too many, names its deployment. A line that
falls short of a form keeps the blanks between its words. -/
theorem parse_spelling_manyBlanks :
    (∃ spelling : Spelling, spelling.line = "\u00a0kubectl\t edit\u3000deployment  api now\n" ∧
      parse spelling.line = .editDeployment "api") ∧
    IsWord "api" ∧
    parse (Text.trim "\u2003clear\u0085") = parse "\u2003clear\u0085" ∧
    parse " kubectl \t logs\r" = .unknown "kubectl \t logs" ∧
    parse "kubectl \t logs" = .unknown "kubectl \t logs" := by
  obtain ⟨spelled, forms, words, trimmed, again⟩ := parse_spelling
  refine ⟨?_, words "kubectl edit deployment api" "api" (by decide +kernel), trimmed _,
    by decide +kernel, again " kubectl \t logs\r" _ (by decide +kernel)⟩
  obtain ⟨spelling, same, _⟩ := spelled "\u00a0kubectl\t edit\u3000deployment  api now\n"
  obtain ⟨_, _, _, _, _, edits, _⟩ := forms spelling
  refine ⟨spelling, same, (edits "api").mpr ⟨["now"], ?_⟩⟩
  rw [← spelling.tokens_line, same]
  decide +kernel

end Command

end KubeSim
