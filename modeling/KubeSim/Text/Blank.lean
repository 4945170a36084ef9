/-! # White space, trimming and tokens

A blank is a character with the Unicode property `White_Space`. `trim` removes the blanks at both
ends of a line, and `tokens` lists its maximal runs of characters that are not blank.
-/

namespace KubeSim.Text

/-- The characters with the property `White_Space`. -/
def isBlank (c : Char) : Bool :=
  let n := c.val
  (0x09 ≤ n && n ≤ 0x0D) || n == 0x20 || n == 0x85 || n == 0xA0 || n == 0x1680 ||
    (0x2000 ≤ n && n ≤ 0x200A) || n == 0x2028 || n == 0x2029 || n == 0x202F || n == 0x205F ||
    n == 0x3000

/-- The characters left when leading blanks are removed. -/
def trimStart (cs : List Char) : List Char := cs.dropWhile isBlank

/-- The characters left when trailing blanks are removed. -/
def trimEnd (cs : List Char) : List Char := (cs.reverse.dropWhile isBlank).reverse

/-- The line without the blanks at either end. -/
def trim (line : String) : String := String.ofList (trimEnd (trimStart line.toList))

/-- The maximal runs of characters that are not blank, in order. -/
def runs : List Char → List (List Char)
  | [] => []
  | c :: rest =>
    if isBlank c then runs rest
    else match rest with
      | [] => [[c]]
      | next :: _ =>
        if isBlank next then [c] :: runs rest
        else match runs rest with
          | [] => [[c]]
          | run :: others => (c :: run) :: others

/-- The words of a line, in order. -/
def tokens (line : String) : List String := (runs line.toList).map String.ofList

end KubeSim.Text
