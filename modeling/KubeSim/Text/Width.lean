import KubeSim.Text.Ranges
import KubeSim.Text.Width.Table

/-! # Display widths

The number of columns that a grapheme cluster takes on a terminal. A cluster is read from its last
character to its first, since a selector, a skin tone or a joiner changes what stands before it:
each character takes the columns that its `Follower` allows, and is in turn the follower of the
character before it. Most characters leave no trace, and take columns of their own.
-/

namespace KubeSim.Text.Width

/-- The Khmer sign for "and so forth", which is the widest of all characters. -/
def khmerEtCetera : Char := '\u17d8'

/-- The columns of a character by itself. A control character takes one, too. -/
def ofChar (c : Char) : Nat :=
  if c.toNat < 0x300 then (if c.toNat = 0xAD then 0 else 1)
  else if c = khmerEtCetera then 3
  else if within invisible c.toNat then 0
  else if within wide c.toNat then 2
  else 1

/-- The mark that asks for the coloured form of the character before it. -/
def emojiSelector : Char := '\ufe0f'

/-- The mark that asks for the plain form of the character before it. -/
def textSelector : Char := '\ufe0e'

/-- The mark that joins two emoji. -/
def joiner : Char := '\u200d'

/-- The frame of a keycap. -/
def keycap : Char := '\u20e3'

/-- The sign that writes the Khmer letter after it below the letter before it. -/
def khmerStack : Char := '\u17d2'

/-- The flag that tags turn into the flag of a region. -/
def blackFlag : Char := '🏴'

/-- Whether the character is a letter in the tags that name a region. -/
def isTagLetter (c : Char) : Bool := 0xE0061 ≤ c.toNat && c.toNat ≤ 0xE007A

/-- Whether the character is a digit in the tags that name a region. -/
def isTagDigit (c : Char) : Bool := 0xE0030 ≤ c.toNat && c.toNat ≤ 0xE0039

def isTagEnd (c : Char) : Bool := c.toNat = 0xE007F

/-- Whether the character is one of the letters that name a region in pairs. -/
def isIndicator (c : Char) : Bool := 0x1F1E6 ≤ c.toNat && c.toNat ≤ 0x1F1FF

/-- Whether the character sets the skin tone of the emoji before it. -/
def isTone (c : Char) : Bool := 0x1F3FB ≤ c.toNat && c.toNat ≤ 0x1F3FF

/-- Whether the character is drawn in colour without being asked to. -/
def isColored (c : Char) : Bool := 0x300 ≤ c.toNat && within colored c.toNat

def isSelectable (c : Char) : Bool := within selectable c.toNat

def isTonable (c : Char) : Bool := 0x300 ≤ c.toNat && within tonable c.toNat

/-- Whether the character is a Khmer letter that may be written below another one. -/
def isKhmerLetter (c : Char) : Bool := 0x300 ≤ c.toNat && within khmerLetters c.toNat

/-- Whether the character is a squared letter, which is wide in its plain form, too. -/
def isSquaredLetter (c : Char) : Bool := 0x1F200 ≤ c.toNat && c.toNat ≤ 0x1F2FF

/-- Whether the mark may stand between a Khmer letter and the sign that writes it below. -/
def isKhmerMark (c : Char) : Bool := within khmerMarks c.toNat

/-- What the character before it has to know of the part of a cluster that is read. -/
inductive Follower where
  /-- Nothing. -/
  | none
  | textSelector
  /-- An emoji selector, with an emoji joined to it or not. -/
  | emojiSelector (joined : Bool)
  | tone
  | emoji
  /-- A joiner and an emoji. -/
  | joined
  | joinedKeycap
  /-- One letter of a region, with an emoji joined to it. -/
  | joinedIndicator
  /-- Tags that end a region's name, read so far up to so many letters and digits before them. -/
  | joinedTags (letters digits : Nat)
  | khmerLetter
deriving DecidableEq, Repr

/-- The columns of a character that does not depend on its follower, and what it leaves for the
character before it. -/
def alone (c : Char) : Nat × Follower :=
  if c = emojiSelector then (0, .emojiSelector false)
  else if c = textSelector then (0, .textSelector)
  else if isTone c then (2, .tone)
  else if isColored c then (2, .emoji)
  else if isKhmerLetter c then (1, .khmerLetter)
  else (ofChar c, .none)

/-- The same for a character before a joiner and an emoji. What is joined takes no column, but for
a letter of a region that is by itself. -/
def beforeJoiner (c : Char) : Nat × Follower :=
  if c = emojiSelector then (0, .emojiSelector true)
  else if c = keycap then (0, .joinedKeycap)
  else if isTone c then (0, .tone)
  else if isTagEnd c then (0, .joinedTags 0 0)
  else if isIndicator c then (1, .joinedIndicator)
  else if isColored c then (0, .emoji)
  else alone c

/-- The same for a character before tags. A region is named by three to six letters, or by three
digits and up to four letters. -/
def beforeTags (letters digits : Nat) (c : Char) : Nat × Follower :=
  if isTagLetter c ∧ letters < 6 ∧ digits = 0 then
    (0, .joinedTags (letters + 1) 0)
  else if isTagDigit c ∧ letters ≤ 4 ∧ digits < 3 then
    (0, .joinedTags letters (digits + 1))
  else if c = blackFlag ∧ (digits = 3 ∨ (digits = 0 ∧ 3 ≤ letters)) then (0, .emoji)
  else alone c

/-- The columns of a character before its follower, and what it leaves for the character before
it. -/
def before (c : Char) : Follower → Nat × Follower
  | .none => alone c
  | .textSelector =>
    if isColored c && isSelectable c && !isSquaredLetter c then (1, .none) else alone c
  | .emojiSelector joined =>
    if isSelectable c then (if joined then 0 else 2, .emoji) else alone c
  | .tone =>
    if isTonable c then (0, .emoji) else if c = joiner then (0, .joined) else alone c
  | .emoji => if c = joiner then (0, .joined) else alone c
  | .joined => beforeJoiner c
  | .joinedKeycap => if c = emojiSelector then (0, .emojiSelector true) else alone c
  | .joinedIndicator => alone c
  | .joinedTags letters digits => beforeTags letters digits c
  | .khmerLetter => if isKhmerMark c then (0, .khmerLetter) else alone c

/-- Whether the character takes back the column of its follower: as the sign that writes a Khmer
letter below another one, or as the first letter of a region to which an emoji is joined. -/
def takesBack (c : Char) : Follower → Bool
  | .khmerLetter => c = khmerStack
  | .joinedIndicator => isIndicator c
  | _ => false

/-- The columns of characters up to the end of a cluster, and what they leave for the character
before them. -/
def measure : List Char → Nat × Follower
  | [] => (0, .none)
  | c :: rest =>
    let (columns, follower) := measure rest
    if takesBack c follower then (columns - 1, .none)
    else
      let (own, left) := before c follower
      (own + columns, left)

/-- The columns of a grapheme cluster. A line break takes none. -/
def ofCluster (cluster : List Char) : Nat :=
  if cluster = ['\r', '\n'] then 0 else (measure cluster).1

end KubeSim.Text.Width
