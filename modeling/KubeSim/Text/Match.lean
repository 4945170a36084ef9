/-! # Looking for a text inside another

The three questions asked of names and lines: does the text start with, end with or contain a
given pattern. The empty pattern is found everywhere.
-/

namespace KubeSim.Text

def startsWith (text pattern : String) : Bool := pattern.toList.isPrefixOf text.toList

def endsWith (text pattern : String) : Bool := pattern.toList.isSuffixOf text.toList

/-- Whether `pattern` occurs as a run of neighbours in the characters. -/
def occursIn (pattern : List Char) : List Char → Bool
  | [] => pattern.isEmpty
  | c :: rest => pattern.isPrefixOf (c :: rest) || occursIn pattern rest

def contains (text pattern : String) : Bool := occursIn pattern.toList text.toList

theorem startsWith_iff {text pattern : String} :
    startsWith text pattern = true ↔ pattern.toList <+: text.toList := List.isPrefixOf_iff_prefix

theorem endsWith_iff {text pattern : String} :
    endsWith text pattern = true ↔ pattern.toList <:+ text.toList := List.isSuffixOf_iff_suffix

private theorem occursIn_iff {pattern cs : List Char} :
    occursIn pattern cs = true ↔ pattern <:+: cs := by
  induction cs with
  | nil => cases pattern <;> simp [occursIn]
  | cons c rest ih => simp [occursIn, ih, List.infix_cons_iff]

theorem contains_iff {text pattern : String} :
    contains text pattern = true ↔ pattern.toList <:+: text.toList := occursIn_iff

end KubeSim.Text
