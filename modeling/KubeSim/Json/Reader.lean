import KubeSim.Json
import KubeSim.Text.Numeral

/-! # Reading JSON text

A recursive descent over the characters. Each call returns the value it read and the characters
that follow. The fuel bounds the nesting; a text is read with more fuel than it has characters,
and every call takes at least one.
-/

namespace KubeSim.Json

/-- The blanks that JSON allows between tokens. -/
def isSpace (c : Char) : Bool := c == ' ' || c == '\t' || c == '\n' || c == '\r'

def skipSpace (cs : List Char) : List Char := cs.dropWhile isSpace

def hexValue? (c : Char) : Option Nat :=
  if '0' ≤ c ∧ c ≤ '9' then some (c.toNat - 48)
  else if 'a' ≤ c ∧ c ≤ 'f' then some (c.toNat - 87)
  else if 'A' ≤ c ∧ c ≤ 'F' then some (c.toNat - 55)
  else none

/-- The 16-bit unit that four hexadecimal digits write. -/
def unit? (a b c d : Char) : Option Nat :=
  match hexValue? a, hexValue? b, hexValue? c, hexValue? d with
  | some a, some b, some c, some d => some (((a * 16 + b) * 16 + c) * 16 + d)
  | _, _, _, _ => none

/-- The character that a letter stands for after a backslash. -/
def unescape? (c : Char) : Option Char :=
  if c = '"' ∨ c = '\\' ∨ c = '/' then some c
  else if c = 'b' then some '\x08'
  else if c = 't' then some '\t'
  else if c = 'n' then some '\n'
  else if c = 'f' then some '\x0c'
  else if c = 'r' then some '\r'
  else none

/-- The character of two units that form a pair of surrogates. -/
def pair? (high low : Nat) : Option Char :=
  if 0xD800 ≤ high ∧ high < 0xDC00 ∧ 0xDC00 ≤ low ∧ low < 0xE000 then
    some (Char.ofNat (0x10000 + (high - 0xD800) * 0x400 + (low - 0xDC00)))
  else none

/-- The text of a string from the character after its opening quote. -/
def stringTail : List Char → Option (List Char × List Char)
  | [] => none
  | '"' :: rest => some ([], rest)
  | '\\' :: 'u' :: a :: b :: c :: d :: rest =>
    match unit? a b c d with
    | none => none
    | some unit =>
      if unit < 0xD800 ∨ 0xE000 ≤ unit then
        (stringTail rest).map fun (text, after) => (Char.ofNat unit :: text, after)
      else match rest with
        | '\\' :: 'u' :: e :: f :: g :: h :: rest =>
          match (unit? e f g h).bind (pair? unit) with
          | none => none
          | some character =>
            (stringTail rest).map fun (text, after) => (character :: text, after)
        | _ => none
  | '\\' :: c :: rest =>
    match unescape? c with
    | none => none
    | some character => (stringTail rest).map fun (text, after) => (character :: text, after)
  | c :: rest =>
    if c.toNat < 0x20 ∨ c = '\\' then none
    else (stringTail rest).map fun (text, after) => (c :: text, after)

/-- The characters that a number is made of. -/
def isNumberChar (c : Char) : Bool :=
  c.isDigit || c == '-' || c == '+' || c == '.' || c == 'e' || c == 'E'

/-- Whether the characters are digits without a leading zero. -/
def isNatural : List Char → Bool
  | [] => false
  | ['0'] => true
  | c :: rest => c != '0' && c.isDigit && rest.all Char.isDigit

/-- Whether the characters are one digit or more. -/
def isDigits (cs : List Char) : Bool := !cs.isEmpty && cs.all Char.isDigit

/-- Whether the characters are an exponent's digits after an optional sign. -/
def isExponent : List Char → Bool
  | '+' :: digits => isDigits digits
  | '-' :: digits => isDigits digits
  | digits => isDigits digits

/-- Whether the characters follow JSON's grammar of numbers. -/
def isNumber (cs : List Char) : Bool :=
  let unsigned := if cs.head? = some '-' then cs.tail else cs
  let whole := unsigned.takeWhile Char.isDigit
  let afterWhole := unsigned.dropWhile Char.isDigit
  let fraction :=
    if afterWhole.head? = some '.' then afterWhole.tail.takeWhile Char.isDigit else ['0']
  let afterFraction :=
    if afterWhole.head? = some '.' then afterWhole.tail.dropWhile Char.isDigit else afterWhole
  isNatural whole && !fraction.isEmpty && match afterFraction with
    | [] => true
    | mark :: exponent => (mark == 'e' || mark == 'E') && isExponent exponent

def number? (cs : List Char) : Option (Json × List Char) :=
  let token := cs.takeWhile isNumberChar
  let rest := cs.dropWhile isNumberChar
  if isNatural token then
    some (.natural (token.foldl (fun value c => value * 10 + (c.toNat - 48)) 0), rest)
  else if isNumber token then some (.otherNumber (String.ofList token), rest)
  else none

mutual

def value? : Nat → List Char → Option (Json × List Char)
  | 0, _ => none
  | fuel + 1, cs =>
    match skipSpace cs with
    | [] => none
    | '"' :: rest =>
      (stringTail rest).map fun (text, after) => (.string (String.ofList text), after)
    | '[' :: rest =>
      match skipSpace rest with
      | ']' :: after => some (.array [], after)
      | inside =>
        match value? fuel inside with
        | none => none
        | some (item, after) =>
          (items? fuel after).map fun (items, after) => (.array (item :: items), after)
    | '\x7b' :: rest =>
      match skipSpace rest with
      | '\x7d' :: after => some (.object [], after)
      | inside =>
        match member? fuel inside with
        | none => none
        | some (first, after) =>
          (fields? fuel after).map fun (fields, after) => (.object (first :: fields), after)
    | 'n' :: 'u' :: 'l' :: 'l' :: rest => some (.null, rest)
    | 't' :: 'r' :: 'u' :: 'e' :: rest => some (.bool true, rest)
    | 'f' :: 'a' :: 'l' :: 's' :: 'e' :: rest => some (.bool false, rest)
    | cs => number? cs

/-- The items that follow an item, up to the closing bracket. -/
def items? : Nat → List Char → Option (List Json × List Char)
  | 0, _ => none
  | fuel + 1, cs =>
    match skipSpace cs with
    | ']' :: after => some ([], after)
    | ',' :: rest =>
      match value? fuel rest with
      | none => none
      | some (item, after) => (items? fuel after).map fun (items, after) => (item :: items, after)
    | _ => none

/-- The fields that follow a field, up to the closing brace. -/
def fields? : Nat → List Char → Option (List (String × Json) × List Char)
  | 0, _ => none
  | fuel + 1, cs =>
    match skipSpace cs with
    | '\x7d' :: after => some ([], after)
    | ',' :: rest =>
      match member? fuel rest with
      | none => none
      | some (first, after) =>
        (fields? fuel after).map fun (fields, after) => (first :: fields, after)
    | _ => none

/-- A member of an object: its name, a colon and its value. -/
def member? : Nat → List Char → Option ((String × Json) × List Char)
  | 0, _ => none
  | fuel + 1, cs =>
    match skipSpace cs with
    | '"' :: rest =>
      match stringTail rest with
      | none => none
      | some (name, after) =>
        match skipSpace after with
        | ':' :: rest =>
          (value? fuel rest).map fun (value, after) => ((String.ofList name, value), after)
        | _ => none
    | _ => none

end

/-- The value that the whole text writes, with blanks allowed at either end. -/
def read (text : String) : Option Json :=
  match value? (2 * text.length + 1) text.toList with
  | some (value, after) => if (skipSpace after).isEmpty then some value else none
  | none => none

end KubeSim.Json
