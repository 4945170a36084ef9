/-! # Decimal numbers

`decimal` writes a natural number with the fewest decimal digits. `readNumeral` reads a number
below a bound: one or more digits after an optional plus sign. Reading goes from left to right and
stops at the first fault, which is a character that is no digit or a digit at which the value
passes the bound.
-/

namespace KubeSim.Text

/-- The character of a digit below ten. -/
def digitChar (digit : Nat) : Char := Char.ofNat (48 + digit)

/-- The digits of a number, the most significant first, without leading zeros. -/
def decimalDigits (n : Nat) : List Char :=
  if n < 10 then [digitChar n] else decimalDigits (n / 10) ++ [digitChar (n % 10)]

def decimal (n : Nat) : String := String.ofList (decimalDigits n)

private theorem digitChar_eq_digitChar {digit : Nat} (small : digit < 10) :
    digitChar digit = digit.digitChar := by
  revert digit
  decide

theorem decimalDigits_eq_toDigits (n : Nat) : decimalDigits n = Nat.toDigits 10 n := by
  induction n using decimalDigits.induct with
  | case1 n small =>
    rw [decimalDigits, if_pos small, Nat.toDigits_of_lt_base small, digitChar_eq_digitChar small]
  | case2 n large ih =>
    rw [decimalDigits, if_neg large, Nat.toDigits_eq_if (by decide), if_neg large, ih,
      digitChar_eq_digitChar (Nat.mod_lt n (by decide))]

/-- Numbers are written as the library writes them. -/
theorem decimal_eq_toString (n : Nat) : decimal n = toString n := by
  rw [decimal, decimalDigits_eq_toDigits, Nat.toString_eq_ofList_toDigits]

def digit? (c : Char) : Option Nat := if c.isDigit then some (c.toNat - 48) else none

/-- Why a text is not a number in range. -/
inductive NumeralError where
  | empty
  | invalidDigit
  | tooLarge
deriving DecidableEq, Repr

def NumeralError.message : NumeralError → String
  | .empty => "cannot parse integer from empty string"
  | .invalidDigit => "invalid digit found in string"
  | .tooLarge => "number too large to fit in target type"

/-- Reads digits onto `value`, which stays below `bound`. -/
def readDigits (bound : Nat) : Nat → List Char → Except NumeralError Nat
  | value, [] => .ok value
  | value, c :: rest =>
    match digit? c with
    | none => .error .invalidDigit
    | some digit =>
      if value * 10 + digit < bound then readDigits bound (value * 10 + digit) rest
      else .error .tooLarge

/-- The number below `bound` that the text writes. -/
def readNumeral (bound : Nat) (text : String) : Except NumeralError Nat :=
  match text.toList with
  | [] => .error .empty
  | ['+'] => .error .invalidDigit
  | '+' :: digits => readDigits bound 0 digits
  | digits => readDigits bound 0 digits

end KubeSim.Text
