import KubeSim.Json
import KubeSim.Text.Numeral

/-! # Compact JSON text

No blanks between tokens. In a string the quote, the backslash and the control characters below
U+0020 are escaped, by a letter where JSON has one and by four lower-case hexadecimal digits
otherwise; every other character stands for itself.
-/

namespace KubeSim.Json

def hexDigit (value : Nat) : Char :=
  if value < 10 then Char.ofNat (48 + value) else Char.ofNat (87 + value)

/-- The characters that stand for `c` inside a string. -/
def escape (c : Char) : List Char :=
  if c = '"' then ['\\', '"']
  else if c = '\\' then ['\\', '\\']
  else if c = '\x08' then ['\\', 'b']
  else if c = '\t' then ['\\', 't']
  else if c = '\n' then ['\\', 'n']
  else if c = '\x0c' then ['\\', 'f']
  else if c = '\r' then ['\\', 'r']
  else if c.toNat < 0x20 then
    ['\\', 'u', '0', '0', hexDigit (c.toNat / 16), hexDigit (c.toNat % 16)]
  else [c]

def quoted (s : String) : List Char := '"' :: (s.toList.flatMap escape ++ ['"'])

mutual

def chars : Json → List Char
  | .null => ['n', 'u', 'l', 'l']
  | .bool true => ['t', 'r', 'u', 'e']
  | .bool false => ['f', 'a', 'l', 's', 'e']
  | .natural value => Text.decimalDigits value
  | .otherNumber text => text.toList
  | .string value => quoted value
  | .array [] => ['[', ']']
  | .array (item :: items) => '[' :: (chars item ++ itemsTail items)
  | .object [] => ['\x7b', '\x7d']
  | .object ((name, value) :: fields) =>
    '\x7b' :: (quoted name ++ ':' :: (chars value ++ fieldsTail fields))

/-- The characters after an item of an array, given the items that follow. -/
def itemsTail : List Json → List Char
  | [] => [']']
  | item :: items => ',' :: (chars item ++ itemsTail items)

/-- The characters after a field of an object, given the fields that follow. -/
def fieldsTail : List (String × Json) → List Char
  | [] => ['\x7d']
  | (name, value) :: fields => ',' :: (quoted name ++ ':' :: (chars value ++ fieldsTail fields))

end

/-- The compact text of a value. -/
def render (json : Json) : String := String.ofList json.chars

end KubeSim.Json
