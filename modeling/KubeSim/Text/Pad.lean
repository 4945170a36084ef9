/-! # Padding to a width

Widths here count characters, not bytes or screen columns. A text that is already as wide as
asked is left as it is.
-/

namespace KubeSim.Text

def blanks (count : Nat) : String := String.ofList (List.replicate count ' ')

/-- The text followed by blanks up to `width`. -/
def padRight (width : Nat) (text : String) : String := text ++ blanks (width - text.length)

/-- The text preceded by blanks up to `width`. -/
def padLeft (width : Nat) (text : String) : String := blanks (width - text.length) ++ text

/-- The text between blanks up to `width`, an odd blank going to the right. -/
def padCenter (width : Nat) (text : String) : String :=
  let missing := width - text.length
  blanks (missing / 2) ++ text ++ blanks (missing - missing / 2)

end KubeSim.Text
