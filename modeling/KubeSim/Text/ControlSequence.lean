/-! # Control sequences

Text may hold sequences that a terminal carries out instead of showing them: an escape character
and what belongs to it, up to a final character or the end of a string. `plain` leaves out all
sequences, finished or not, and the control characters other than blank space. A text that holds
neither is left as it is (`plain_of_forall_isShown`). Readers differ in what they make of blank
space in the midst of a sequence, which is an `Interruption`.
-/

namespace KubeSim.Text

namespace ControlSequence

/-- Where a reader stands in a text. -/
inductive Mode where
  | text
  /-- After an escape character. -/
  | escape
  /-- The same, with the final character still to come. -/
  | escapeMiddle
  /-- In a control sequence, which is opened by a bracket. -/
  | control
  /-- In a command to the system, which a bell ends. -/
  | command
  /-- At the start of a string for the device. -/
  | device
  /-- After a parameter of such a string. -/
  | deviceParameter
  /-- After the parameters of such a string. -/
  | deviceMiddle
  /-- In the rest of such a string, or in another string. -/
  | string
deriving DecidableEq, Repr

/-- Whether the control character stands for blank space. -/
def isBlankControl (c : Char) : Bool := c = '\t' || c = '\n' || c = '\x0c' || c = '\r'

/-- Whether the character is shown where it stands in text. -/
def isShown (c : Char) : Bool := isBlankControl c || (0x20 ≤ c.toNat && c.toNat ≠ 0x7F)

/-- Whether the code point of the character lies between two others. -/
def between (low high : Nat) (c : Char) : Bool := low ≤ c.toNat && c.toNat ≤ high

/-- Whether the character ends a string, which it does by the byte 9C in its encoding. -/
def endsString (c : Char) : Bool := (String.utf8EncodeChar c).contains 0x9C

/-- The mode after the character that follows an escape character. -/
def Mode.afterEscape (c : Char) : Mode :=
  if c = '[' then .control
  else if c = ']' then .command
  else if c = 'P' then .device
  else if c = 'X' ∨ c = '^' ∨ c = '_' then .string
  else if between 0x20 0x2F c then .escapeMiddle
  else if between 0x30 0x7E c then .text
  else .escape

def Mode.next (mode : Mode) (c : Char) : Mode :=
  match mode with
  | .text => .text
  | .escape => .afterEscape c
  | .escapeMiddle => if between 0x30 0x7E c then .text else .escapeMiddle
  | .control => if between 0x40 0x7E c then .text else .control
  | .command => if c = '\x07' then .text else .command
  | .device =>
    if between 0x40 0x7E c then .string
    else if between 0x30 0x3F c then .deviceParameter
    else if between 0x20 0x2F c then .deviceMiddle
    else .device
  | .deviceParameter =>
    if between 0x3C 0x7E c then .string
    else if between 0x20 0x2F c then .deviceMiddle
    else .deviceParameter
  | .deviceMiddle => if between 0x30 0x7E c then .string else .deviceMiddle
  | .string => if endsString c then .text else .string

/-- Whether blank space is shown in the midst of a sequence, which it breaks off. -/
def Mode.isBrokenByBlank : Mode → Bool
  | .escape | .escapeMiddle | .control => true
  | _ => false

/-- What becomes of a sequence that blank space breaks off. -/
inductive Interruption where
  /-- It is over. -/
  | ends
  /-- It goes on after the next control character that is not shown, unless a character that is not
  ASCII has been shown by then. -/
  | suspends
deriving DecidableEq, Repr

/-- A reader of a text. In text, `suspended` is the mode to go back to. -/
structure Reader where
  mode : Mode
  suspended : Mode
deriving DecidableEq, Repr

namespace Reader

/-- A reader in a mode that has no sequence to go back to. -/
def inMode (mode : Mode) : Reader := ⟨mode, .text⟩

/-- A reader after a character in text, and whether the character is shown. -/
def stepText (reader : Reader) (c : Char) : Reader × Bool :=
  if isShown c then (if c.toNat < 0x80 then reader else .inMode .text, true)
  else (.inMode reader.suspended, false)

/-- A reader after a character, and whether the character is shown. An escape character starts a new
sequence anywhere, and a cancel or substitute character ends any. -/
def step (interruption : Interruption) (reader : Reader) (c : Char) : Reader × Bool :=
  if c = '\x1b' then (.inMode .escape, false)
  else if c = '\x18' ∨ c = '\x1a' then (.inMode .text, false)
  else if reader.mode = .text then reader.stepText c
  else if isBlankControl c && reader.mode.isBrokenByBlank then
    match interruption with
    | .ends => (.inMode .text, true)
    | .suspends => (⟨.text, reader.mode⟩, true)
  else (.inMode (reader.mode.next c), false)

def shown (interruption : Interruption) (reader : Reader) : List Char → List Char
  | [] => []
  | c :: rest =>
    let (next, visible) := reader.step interruption c
    if visible then c :: next.shown interruption rest else next.shown interruption rest

private theorem step_text {interruption : Interruption} {c : Char} (visible : isShown c) :
    (Reader.inMode .text).step interruption c = (.inMode .text, true) := by
  have other : ∀ hidden : Char, isShown hidden = false → c ≠ hidden := by
    rintro hidden unseen rfl
    simp [unseen] at visible
  unfold step
  rw [if_neg (other _ (by decide)), if_neg (not_or.mpr
    ⟨other _ (by decide), other _ (by decide)⟩)]
  simp [inMode, stepText, visible]

theorem shown_of_forall_isShown {interruption : Interruption} {cs : List Char}
    (visible : ∀ c ∈ cs, isShown c) : (Reader.inMode .text).shown interruption cs = cs := by
  induction cs with
  | nil => rfl
  | cons c rest ih =>
    simp only [List.forall_mem_cons] at visible
    simp [shown, step_text visible.1, ih visible.2]

end Reader

end ControlSequence

open ControlSequence

/-- What a text shows without its control sequences. -/
def plain (interruption : Interruption) (text : String) : String :=
  String.ofList ((Reader.inMode .text).shown interruption text.toList)

theorem plain_of_forall_isShown {interruption : Interruption} {text : String}
    (visible : ∀ c ∈ text.toList, isShown c) : plain interruption text = text := by
  rw [plain, Reader.shown_of_forall_isShown visible, String.ofList_toList]

end KubeSim.Text
