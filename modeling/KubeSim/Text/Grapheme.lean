import KubeSim.Text.Grapheme.Table
import KubeSim.Text.Ranges

/-! # Grapheme clusters

What a reader takes for one character may be several characters of text: a letter and its accents,
an emoji sequence, a syllable. `clusters` cuts a text at the boundaries of extended grapheme
clusters. Whether there is a boundary before a character depends on the cluster that is being
read, of which a `Context` remembers what the rules ask for.
-/

namespace KubeSim.Text.Grapheme

/-- The classes of characters that the boundary rules distinguish. -/
inductive Class where
  | carriageReturn
  | lineFeed
  | control
  | extender
  | joiner
  | indicator
  | prepended
  | spacingMark
  | leading
  | vowel
  | trailing
  | openSyllable
  | closedSyllable
  | pictograph
  | other
deriving DecidableEq, Repr

/-- The class of a code point below U+0300. -/
def latinClass (code : Nat) : Class :=
  if code = 0x0D then .carriageReturn
  else if code = 0x0A then .lineFeed
  else if code < 0x20 ∨ (0x7F ≤ code ∧ code < 0xA0) ∨ code = 0xAD then .control
  else if code = 0xA9 ∨ code = 0xAE then .pictograph
  else .other

/-- The class of a Hangul letter or syllable. The vowels of the Kirat Rai script join like those of
Hangul. -/
def syllableClass? (code : Nat) : Option Class :=
  if (0x1100 ≤ code ∧ code ≤ 0x115F) ∨ (0xA960 ≤ code ∧ code ≤ 0xA97C) then some .leading
  else if (0x1160 ≤ code ∧ code ≤ 0x11A7) ∨ (0xD7B0 ≤ code ∧ code ≤ 0xD7C6) then some .vowel
  else if code = 0x16D63 ∨ (0x16D67 ≤ code ∧ code ≤ 0x16D6A) then some .vowel
  else if (0x11A8 ≤ code ∧ code ≤ 0x11FF) ∨ (0xD7CB ≤ code ∧ code ≤ 0xD7FB) then some .trailing
  else if 0xAC00 ≤ code ∧ code ≤ 0xD7A3 then
    some (if (code - 0xAC00) % 28 = 0 then .openSyllable else .closedSyllable)
  else none

def classOf (c : Char) : Class :=
  let code := c.toNat
  if code < 0x300 then latinClass code
  else if code = 0x200D then .joiner
  else if 0x1F1E6 ≤ code ∧ code ≤ 0x1F1FF then .indicator
  else match syllableClass? code with
    | some letter => letter
    | none =>
      if within extenders code then .extender
      else if within spacingMarks code then .spacingMark
      else if within pictographs code then .pictograph
      else if within controls code then .control
      else if within prepended code then .prepended
      else .other

/-- How far the cluster has got towards joining two emoji. -/
inductive EmojiRun where
  | none
  /-- A pictograph, and marks that extend it. -/
  | pictograph
  /-- The same, and a joiner. -/
  | joined
deriving DecidableEq, Repr

/-- How far the cluster has got towards joining two consonants. -/
inductive ConjunctRun where
  | none
  /-- A consonant, and marks that extend it; a non-joiner is no such mark. -/
  | consonant
  /-- The same, with a linker among the marks. -/
  | linked
deriving DecidableEq, Repr

/-- What the rules ask of the cluster that is being read. -/
structure Context where
  last : Class
  oddIndicators : Bool
  emoji : EmojiRun
  conjunct : ConjunctRun
deriving DecidableEq, Repr

/-- Whether the character is a consonant that may take part in a conjunct. -/
def isConsonant (c : Char) : Bool := 0x300 ≤ c.toNat && within consonants c.toNat

def isLinker (c : Char) : Bool := 0x300 ≤ c.toNat && within linkers c.toNat

/-- The mark that keeps two consonants apart. -/
def nonJoiner : Char := '\u200c'

namespace Context

/-- The context after the first character of a cluster. -/
def start (c : Char) : Context where
  last := classOf c
  oddIndicators := classOf c = .indicator
  emoji := if classOf c = .pictograph then .pictograph else .none
  conjunct := if isConsonant c then .consonant else .none

/-- The context after a further character of the cluster. -/
def extend (context : Context) (c : Char) : Context where
  last := classOf c
  oddIndicators := classOf c = .indicator && !context.oddIndicators
  emoji :=
    match classOf c, context.emoji with
    | .pictograph, _ => .pictograph
    | .extender, .pictograph => .pictograph
    | .joiner, .pictograph => .joined
    | _, _ => .none
  conjunct :=
    if isConsonant c then .consonant
    else match context.conjunct, classOf c with
      | .none, _ => .none
      | run, .extender =>
        if isLinker c then .linked else if c = nonJoiner then .none else run
      | run, .joiner => run
      | _, _ => .none

/-- Whether the class forbids a boundary on either side of it to be overruled. -/
def isBreaking : Class → Bool
  | .carriageReturn | .lineFeed | .control => true
  | _ => false

/-- Whether the two classes are letters of one Hangul syllable. -/
def joinsSyllable : Class → Class → Bool
  | .leading, .leading | .leading, .vowel | .leading, .openSyllable => true
  | .leading, .closedSyllable => true
  | .openSyllable, .vowel | .openSyllable, .trailing | .vowel, .vowel | .vowel, .trailing => true
  | .closedSyllable, .trailing | .trailing, .trailing => true
  | _, _ => false

/-- Whether the character continues the cluster. -/
def joins (context : Context) (c : Char) : Bool :=
  let next := classOf c
  if isBreaking context.last || isBreaking next then
    context.last = .carriageReturn && next = .lineFeed
  else
    joinsSyllable context.last next || next = .extender || next = .joiner || next = .spacingMark ||
      context.last = .prepended || (context.conjunct = .linked && isConsonant c) ||
      (context.emoji = .joined && next = .pictograph) ||
      (context.oddIndicators && next = .indicator)

end Context

/-- The clusters of a text that begins with `c`, read so far in `context`. -/
def clustersFrom (context : Context) (c : Char) : List Char → List (List Char)
  | [] => [[c]]
  | next :: rest =>
    if context.joins next then
      match clustersFrom (context.extend next) next rest with
      | [] => [[c]]
      | cluster :: others => (c :: cluster) :: others
    else [c] :: clustersFrom (.start next) next rest

def clusters : List Char → List (List Char)
  | [] => []
  | c :: rest => clustersFrom (.start c) c rest

private theorem flatten_clustersFrom (context : Context) (c : Char) (rest : List Char) :
    (clustersFrom context c rest).flatten = c :: rest := by
  induction rest generalizing context c with
  | nil => rfl
  | cons next rest ih =>
    rw [clustersFrom]
    split
    · have joined := ih (context.extend next) next
      cases onwards : clustersFrom (context.extend next) next rest with
      | nil =>
        rw [onwards] at joined
        cases joined
      | cons cluster others =>
        rw [onwards, List.flatten_cons] at joined
        rw [List.flatten_cons, List.cons_append, joined]
    · rw [List.flatten_cons, ih]
      rfl

private theorem nil_notMem_clustersFrom (context : Context) (c : Char) (rest : List Char) :
    [] ∉ clustersFrom context c rest := by
  induction rest generalizing context c with
  | nil => simp [clustersFrom]
  | cons next rest ih =>
    rw [clustersFrom]
    split
    · have filled := ih (context.extend next) next
      cases onwards : clustersFrom (context.extend next) next rest with
      | nil => simp
      | cons cluster others =>
        rw [onwards, List.mem_cons, not_or] at filled
        simpa using filled.2
    · simpa using ih (.start next) next

/-- The clusters of a text are the text, cut in parts. -/
theorem flatten_clusters (text : List Char) : (clusters text).flatten = text := by
  cases text with
  | nil => rfl
  | cons c rest => exact flatten_clustersFrom _ c rest

theorem nil_notMem_clusters (text : List Char) : [] ∉ clusters text := by
  cases text with
  | nil => exact List.not_mem_nil
  | cons c rest => exact nil_notMem_clustersFrom _ c rest

end KubeSim.Text.Grapheme
