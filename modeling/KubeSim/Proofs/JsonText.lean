import KubeSim.Json.Printer
import KubeSim.Json.Reader

/-! # Reading back what was printed

The compact text of a value is read as that value. A number is read up to the first character that
no number is made of, so a value can be read from the head of a longer text when none of those
follows. `Json.ReadsBack` says that of a value, for enough fuel; it holds of every value whose
numbers are well written, by induction on the value (`Json.readsBack_of_isProper`). As a text has
more characters than its value is deep, the whole text is read (`Json.read_render`).
-/

namespace KubeSim

namespace Text

/-- A number is written in digits. -/
theorem decimalDigits_isDigit (n : Nat) : ∀ c ∈ decimalDigits n, c.isDigit = true := by
  rw [decimalDigits_eq_toDigits]
  exact fun _ => Nat.isDigit_of_mem_toDigits (by decide) (by decide)

/-- Only zero is written with a zero in front. -/
private theorem head_decimalDigits {n : Nat} (positive : 0 < n) :
    ∃ c rest, decimalDigits n = c :: rest ∧ c ≠ '0' := by
  fun_induction decimalDigits n with
  | case1 n small =>
    refine ⟨_, [], rfl, ?_⟩
    decide +revert
  | case2 n _ ih =>
    obtain ⟨c, rest, digits, nonzero⟩ := ih (by omega)
    exact ⟨c, rest ++ [digitChar (n % 10)], by rw [digits, List.cons_append], nonzero⟩

end Text

namespace Json

open Text

/-! ## Digits -/

theorem isNatural_decimalDigits (n : Nat) : isNatural (decimalDigits n) = true := by
  rcases Nat.eq_zero_or_pos n with rfl | positive
  · rw [decimalDigits, if_pos (by decide)]
    decide
  · have digits := decimalDigits_isDigit n
    obtain ⟨c, rest, written, nonzero⟩ := head_decimalDigits positive
    rw [written, List.forall_mem_cons] at digits
    have onlyDigits : rest.all Char.isDigit = true := List.all_eq_true.mpr digits.2
    simp [written, isNatural, nonzero, digits.1, onlyDigits]

/-- The digits of a number make it up again. -/
theorem foldl_decimalDigits (n : Nat) :
    (decimalDigits n).foldl (fun value c => value * 10 + (c.toNat - 48)) 0 = n := by
  have value := @Nat.ofDigitChars_ten_toDigits n
  simp only [Nat.ofDigitChars_eq_foldl, ← decimalDigits_eq_toDigits, Nat.mul_comm 10] at value
  exact value

/-! ## Strings -/

private theorem hexValue?_hexDigit {value : Nat} (small : value < 16) :
    hexValue? (hexDigit value) = some value := by
  decide +revert

/-- A letter after a backslash. -/
private theorem stringTail_letter {letter c : Char} (unescaped : unescape? letter = some c)
    (rest : List Char) : stringTail ('\\' :: letter :: rest) =
      (stringTail rest).map fun (text, after) => (c :: text, after) := by
  have notUnit : letter ≠ 'u' := by
    rintro rfl
    cases unescaped
  simp [stringTail, notUnit, unescaped]

/-- Four digits after a backslash, which write no half of a pair. -/
private theorem stringTail_unit {a b c d : Char} {unit : Nat} (written : unit? a b c d = some unit)
    (small : unit < 0xD800) (rest : List Char) :
    stringTail ('\\' :: 'u' :: a :: b :: c :: d :: rest) =
      (stringTail rest).map fun (text, after) => (Char.ofNat unit :: text, after) := by
  simp [stringTail, written, small]

/-- A character that stands for itself. -/
private theorem stringTail_plain {c : Char} (notQuote : c ≠ '"') (notBackslash : c ≠ '\\')
    (visible : 0x20 ≤ c.toNat) (rest : List Char) :
    stringTail (c :: rest) = (stringTail rest).map fun (text, after) => (c :: text, after) := by
  simp [stringTail, notBackslash, Nat.not_lt.mpr visible]

/-- A character is escaped by a letter or by its value, or it stands for itself. -/
private theorem escape_cases (c : Char) :
    (∃ letter, escape c = ['\\', letter] ∧ unescape? letter = some c) ∨
    (c.toNat < 0x20 ∧
      escape c = ['\\', 'u', '0', '0', hexDigit (c.toNat / 16), hexDigit (c.toNat % 16)]) ∨
    (c ≠ '"' ∧ c ≠ '\\' ∧ 0x20 ≤ c.toNat ∧ escape c = [c]) := by
  by_cases lettered : c ∈ ['"', '\\', '\x08', '\t', '\n', '\x0c', '\r']
  · left
    simp only [List.mem_cons, List.not_mem_nil, or_false] at lettered
    rcases lettered with rfl | rfl | rfl | rfl | rfl | rfl | rfl <;> exact ⟨_, rfl, by decide⟩
  · right
    simp only [List.mem_cons, List.not_mem_nil, or_false, not_or] at lettered
    by_cases control : c.toNat < 0x20
    · simp [escape, lettered, control]
    · simp [escape, lettered, control]
      omega

/-- The reader takes the escape of a character for the character. -/
private theorem stringTail_escape (c : Char) (rest : List Char) :
    stringTail (escape c ++ rest) =
      (stringTail rest).map fun (text, after) => (c :: text, after) := by
  obtain ⟨letter, escaped, unescaped⟩ | ⟨control, escaped⟩ |
    ⟨notQuote, notBackslash, visible, escaped⟩ := escape_cases c
  · rw [escaped]
    exact stringTail_letter unescaped rest
  · have high := hexValue?_hexDigit (show c.toNat / 16 < 16 by omega)
    have low := hexValue?_hexDigit (show c.toNat % 16 < 16 by omega)
    have zero : hexValue? '0' = some 0 := by decide
    have written : unit? '0' '0' (hexDigit (c.toNat / 16)) (hexDigit (c.toNat % 16)) =
        some c.toNat := by
      simp only [unit?, zero, high, low, Option.some.injEq]
      omega
    rw [escaped]
    refine (stringTail_unit written (by omega) rest).trans ?_
    rw [Char.ofNat_toNat]
  · rw [escaped]
    exact stringTail_plain notQuote notBackslash visible rest

/-- A string is read up to its closing quote. -/
theorem stringTail_quoted (cs rest : List Char) :
    stringTail (cs.flatMap escape ++ '"' :: rest) = some (cs, rest) := by
  induction cs with
  | nil => rw [List.flatMap_nil, List.nil_append, stringTail]
  | cons c others ih =>
    rw [List.flatMap_cons, List.append_assoc, stringTail_escape, ih, Option.map_some]

/-! ## Numbers -/

/-- Characters that do not continue a number. -/
def EndsNumber (rest : List Char) : Prop := ∀ c ∈ rest.head?, isNumberChar c = false

private theorem endsNumber_cons {c : Char} {rest : List Char} (ends : isNumberChar c = false) :
    EndsNumber (c :: rest) := by
  intro first isFirst
  cases isFirst
  exact ends

/-- A token of a number is cut off where the number ends. -/
private theorem number?_append {token rest : List Char}
    (inside : ∀ c ∈ token, isNumberChar c = true)
    (ends : EndsNumber rest) : number? (token ++ rest) =
      if isNatural token then
        some (.natural (token.foldl (fun value c => value * 10 + (c.toNat - 48)) 0), rest)
      else if isNumber token then some (.otherNumber (String.ofList token), rest)
      else none := by
  have taken : (token ++ rest).takeWhile isNumberChar = token := by
    rw [List.takeWhile_append_of_pos inside]
    cases rest with
    | nil => simp
    | cons c others => simp [ends c rfl]
  have dropped : (token ++ rest).dropWhile isNumberChar = rest := by
    rw [List.dropWhile_append_of_pos inside]
    cases rest with
    | nil => rfl
    | cons c others => simp [ends c rfl]
  simp only [number?, taken, dropped]

private theorem ne_of_isNumberChar {c other : Char} (inside : isNumberChar c = true)
    (outside : isNumberChar other = false) : c ≠ other := by
  rintro rfl
  rw [inside] at outside
  cases outside

private theorem isSpace_of_isNumberChar {c : Char} (inside : isNumberChar c = true) :
    isSpace c = false := by
  have differs : ∀ other, isNumberChar other = false → c ≠ other :=
    fun _ => ne_of_isNumberChar inside
  simp [isSpace, differs ' ' (by decide), differs '\t' (by decide), differs '\n' (by decide),
    differs '\r' (by decide)]

private theorem skipSpace_cons {c : Char} (solid : isSpace c = false) (rest : List Char) :
    skipSpace (c :: rest) = c :: rest :=
  List.dropWhile_cons_of_neg (by simp [solid])

/-- No blank, no mark and no word starts like a number. -/
private theorem value?_of_isNumberChar {c : Char} (starts : isNumberChar c = true) (fuel : Nat)
    (rest : List Char) : value? (fuel + 1) (c :: rest) = number? (c :: rest) := by
  rw [value?, skipSpace_cons (isSpace_of_isNumberChar starts)]
  split
  case h_1 empty => cases empty
  case h_8 => rfl
  -- Every other branch asks for a first character that is in no number.
  all_goals
    next same =>
      obtain ⟨rfl, -⟩ := List.cons.inj same
      exact absurd starts (by decide)

/-- Tokens of numbers are read as `number?` reads them. -/
private theorem value?_token {token rest : List Char} (some : token ≠ [])
    (inside : ∀ c ∈ token, isNumberChar c = true) (fuel : Nat) :
    value? (fuel + 1) (token ++ rest) = number? (token ++ rest) := by
  obtain ⟨c, others, rfl⟩ := List.exists_cons_of_ne_nil some
  exact value?_of_isNumberChar (inside c List.mem_cons_self) fuel (others ++ rest)

private theorem decimalDigits_isNumberChar (n : Nat) :
    ∀ c ∈ decimalDigits n, isNumberChar c = true := by
  intro c member
  simp [isNumberChar, decimalDigits_isDigit n c member]

theorem ne_nil_of_isNatural {token : List Char} (natural : isNatural token = true) :
    token ≠ [] := by
  rintro rfl
  cases natural

private theorem ne_nil_of_isNumber {token : List Char} (number : isNumber token = true) :
    token ≠ [] := by
  rintro rfl
  cases number

/-! ## Values -/

/-- A value in which every other number is written as JSON writes numbers. -/
inductive IsProper : Json → Prop where
  | null : IsProper .null
  | bool (value : Bool) : IsProper (.bool value)
  | natural (value : Nat) : IsProper (.natural value)
  | otherNumber {text : String} (inside : ∀ c ∈ text.toList, isNumberChar c = true)
      (number : isNumber text.toList = true) (notNatural : isNatural text.toList = false) :
      IsProper (.otherNumber text)
  | string (value : String) : IsProper (.string value)
  | array {items : List Json} (proper : ∀ item ∈ items, IsProper item) : IsProper (.array items)
  | object {fields : List (String × Json)} (proper : ∀ field ∈ fields, IsProper field.2) :
      IsProper (.object fields)

attribute [simp] IsProper.null IsProper.bool IsProper.natural IsProper.string

@[simp] theorem isProper_object_iff {fields : List (String × Json)} :
    IsProper (.object fields) ↔ ∀ field ∈ fields, IsProper field.2 :=
  ⟨fun | .object proper => proper, .object⟩

/-- The first of the characters is neither a blank nor the end of an array. -/
def StartsValue (cs : List Char) : Prop := ∃ c rest, cs = c :: rest ∧ isSpace c = false ∧ c ≠ ']'

private theorem startsValue_of_isNumberChar {token : List Char} (some : token ≠ [])
    (inside : ∀ c ∈ token, isNumberChar c = true) : StartsValue token := by
  obtain ⟨c, rest, rfl⟩ := List.exists_cons_of_ne_nil some
  have starts := inside c List.mem_cons_self
  exact ⟨c, rest, rfl, isSpace_of_isNumberChar starts, ne_of_isNumberChar starts (by decide)⟩

private theorem startsValue_append {cs : List Char} (starts : StartsValue cs) (rest : List Char) :
    StartsValue (cs ++ rest) := by
  obtain ⟨c, others, rfl, solid, opens⟩ := starts
  exact ⟨c, others ++ rest, rfl, solid, opens⟩

theorem startsValue_chars {value : Json} (proper : value.IsProper) : StartsValue value.chars := by
  cases proper with
  | null => exact ⟨_, _, by rw [chars], by decide, by decide⟩
  | bool value => cases value <;> exact ⟨_, _, by rw [chars], by decide, by decide⟩
  | natural value =>
    rw [chars]
    exact startsValue_of_isNumberChar (ne_nil_of_isNatural (isNatural_decimalDigits value))
      (decimalDigits_isNumberChar value)
  | otherNumber inside number _ =>
    rw [chars]
    exact startsValue_of_isNumberChar (ne_nil_of_isNumber number) inside
  | string value => exact ⟨_, _, by rw [chars, quoted], by decide, by decide⟩
  | @array items _ => cases items <;> exact ⟨_, _, by rw [chars], by decide, by decide⟩
  | @object fields _ => cases fields <;> exact ⟨_, _, by rw [chars], by decide, by decide⟩

/-- With enough fuel the reader takes the characters of the value for the value, whatever follows
that does not continue a number. -/
def ReadsBack (value : Json) : Prop :=
  ∀ (fuel : Nat) (rest : List Char), value.chars.length ≤ fuel → EndsNumber rest →
    value? fuel (value.chars ++ rest) = some (value, rest)

/-- Every value has a character, so there is some fuel. -/
private theorem readsBack_of_succ {value : Json} (proper : value.IsProper)
    (reads : ∀ (fuel : Nat) (rest : List Char), value.chars.length ≤ fuel + 1 → EndsNumber rest →
      value? (fuel + 1) (value.chars ++ rest) = some (value, rest)) : value.ReadsBack := by
  intro fuel rest enough ends
  cases fuel with
  | zero =>
    obtain ⟨c, others, starts, _⟩ := startsValue_chars proper
    simp [starts] at enough
  | succ fuel => exact reads fuel rest enough ends

private theorem endsNumber_itemsTail (items : List Json) (rest : List Char) :
    EndsNumber (itemsTail items ++ rest) := by
  cases items <;> exact endsNumber_cons (by decide)

private theorem endsNumber_fieldsTail (fields : List (String × Json)) (rest : List Char) :
    EndsNumber (fieldsTail fields ++ rest) := by
  cases fields with
  | nil => exact endsNumber_cons (by decide)
  | cons field others => exact endsNumber_cons (by decide)

/-- Items are read back up to the bracket. -/
private theorem items?_itemsTail {items : List Json} (read : ∀ item ∈ items, ReadsBack item)
    {fuel : Nat}
    {rest : List Char} (enough : (itemsTail items).length ≤ fuel) :
    items? fuel (itemsTail items ++ rest) = some (items, rest) := by
  induction items generalizing fuel with
  | nil =>
    rw [itemsTail] at enough ⊢
    cases fuel with
    | zero => cases enough
    | succ fuel => simp [items?, skipSpace_cons (show isSpace ']' = false by decide)]
  | cons item others ih =>
    rw [List.forall_mem_cons] at read
    rw [itemsTail] at enough ⊢
    cases fuel with
    | zero => cases enough
    | succ fuel =>
      rw [List.length_cons, List.length_append] at enough
      have first := read.1 fuel _ (show item.chars.length ≤ fuel by omega)
        (endsNumber_itemsTail others rest)
      have tail := ih read.2 (show (itemsTail others).length ≤ fuel by omega)
      simp only [items?, List.cons_append, List.append_assoc,
        skipSpace_cons (show isSpace ',' = false by decide), first, tail, Option.map_some]

/-- A field is read back by its name and its value. -/
private theorem member?_quoted {name : String} {value : Json} (read : ReadsBack value) {fuel : Nat}
    {rest : List Char} (enough : (quoted name ++ ':' :: value.chars).length ≤ fuel)
    (ends : EndsNumber rest) :
    member? fuel (quoted name ++ ':' :: (value.chars ++ rest)) = some ((name, value), rest) := by
  rw [quoted] at enough ⊢
  cases fuel with
  | zero => cases enough
  | succ fuel =>
    simp only [List.length_append, List.length_cons] at enough
    have content := read fuel _ (show value.chars.length ≤ fuel by omega) ends
    simp only [member?, List.cons_append, List.append_assoc, List.nil_append,
      skipSpace_cons (show isSpace '"' = false by decide), stringTail_quoted,
      skipSpace_cons (show isSpace ':' = false by decide), content, Option.map_some,
      String.ofList_toList]

/-- Fields are read back up to the brace. -/
private theorem fields?_fieldsTail {fields : List (String × Json)}
    (read : ∀ field ∈ fields, ReadsBack field.2) {fuel : Nat} {rest : List Char}
    (enough : (fieldsTail fields).length ≤ fuel) :
    fields? fuel (fieldsTail fields ++ rest) = some (fields, rest) := by
  induction fields generalizing fuel with
  | nil =>
    rw [fieldsTail] at enough ⊢
    cases fuel with
    | zero => cases enough
    | succ fuel => simp [fields?, skipSpace_cons (show isSpace '\x7d' = false by decide)]
  | cons field others ih =>
    obtain ⟨name, value⟩ := field
    rw [List.forall_mem_cons] at read
    rw [fieldsTail] at enough ⊢
    cases fuel with
    | zero => cases enough
    | succ fuel =>
      simp only [List.length_cons, List.length_append] at enough
      have room : (quoted name ++ ':' :: value.chars).length ≤ fuel := by
        simp only [List.length_append, List.length_cons]
        omega
      have first := member?_quoted read.1 room (endsNumber_fieldsTail others rest)
      have tail := ih read.2 (show (fieldsTail others).length ≤ fuel by omega)
      simp only [fields?, List.cons_append, List.append_assoc,
        skipSpace_cons (show isSpace ',' = false by decide), first, tail, Option.map_some]

/-- What follows the bracket is an item, and not the end of the array. -/
private theorem value?_array {fuel : Nat} {item : Json} {items : List Json}
    {inside after rest : List Char}
    (starts : StartsValue inside) (first : value? fuel inside = some (item, after))
    (others : items? fuel after = some (items, rest)) :
    value? (fuel + 1) ('[' :: inside) = some (.array (item :: items), rest) := by
  obtain ⟨c, cs, rfl, solid, opens⟩ := starts
  simp [value?, skipSpace_cons (show isSpace '[' = false by decide), skipSpace_cons solid, opens,
    first, others]

/-- What follows the brace is a name, and not the end of the object. -/
private theorem value?_object {fuel : Nat} {field : String × Json} {fields : List (String × Json)}
    {inside after rest : List Char} (first : member? fuel ('"' :: inside) = some (field, after))
    (others : fields? fuel after = some (fields, rest)) :
    value? (fuel + 1) ('\x7b' :: '"' :: inside) = some (.object (field :: fields), rest) := by
  simp [value?, skipSpace_cons (show isSpace '\x7b' = false by decide),
    skipSpace_cons (show isSpace '"' = false by decide), first, others]

/-- Values are read back from the inside out: the items of an array and the fields of an object are
read back already. -/
theorem readsBack_of_isProper {value : Json} (proper : value.IsProper) : value.ReadsBack := by
  induction proper with
  | null =>
    refine readsBack_of_succ .null fun fuel rest _ _ => ?_
    simp [value?, chars, skipSpace, isSpace]
  | bool value =>
    refine readsBack_of_succ (.bool value) fun fuel rest _ _ => ?_
    cases value <;> simp [value?, chars, skipSpace, isSpace]
  | natural value =>
    refine readsBack_of_succ (.natural value) fun fuel rest _ ends => ?_
    have natural := isNatural_decimalDigits value
    rw [chars, value?_token (ne_nil_of_isNatural natural) (decimalDigits_isNumberChar value),
      number?_append (decimalDigits_isNumberChar value) ends, if_pos natural, foldl_decimalDigits]
  | @otherNumber text inside number notNatural =>
    refine readsBack_of_succ (.otherNumber inside number notNatural) fun fuel rest _ ends => ?_
    rw [chars, value?_token (ne_nil_of_isNumber number) inside, number?_append inside ends,
      notNatural, number, String.ofList_toList]
    rfl
  | string value =>
    refine readsBack_of_succ (.string value) fun fuel rest _ _ => ?_
    simp [value?, chars, quoted, skipSpace, isSpace, stringTail_quoted]
  | @array items proper ih =>
    refine readsBack_of_succ (.array proper) fun fuel rest enough _ => ?_
    cases items with
    | nil => simp [value?, chars, skipSpace, isSpace]
    | cons item others =>
      -- The item and the tail are each read with one unit of fuel less, and are shorter by one.
      rw [List.forall_mem_cons] at proper ih
      rw [chars] at enough ⊢
      simp only [List.length_cons, List.length_append] at enough
      have first := ih.1 fuel _ (show item.chars.length ≤ fuel by omega)
        (endsNumber_itemsTail others rest)
      rw [List.cons_append, List.append_assoc]
      exact value?_array (startsValue_append (startsValue_chars proper.1) _) first
        (items?_itemsTail ih.2 (show (itemsTail others).length ≤ fuel by omega))
  | @object fields proper ih =>
    refine readsBack_of_succ (.object proper) fun fuel rest enough _ => ?_
    cases fields with
    | nil => simp [value?, chars, skipSpace, isSpace]
    | cons field others =>
      obtain ⟨name, value⟩ := field
      rw [List.forall_mem_cons] at proper ih
      rw [chars] at enough ⊢
      simp only [List.length_cons, List.length_append] at enough
      have room : (quoted name ++ ':' :: value.chars).length ≤ fuel := by
        simp only [List.length_append, List.length_cons]
        omega
      have first := member?_quoted ih.1 room (endsNumber_fieldsTail others rest)
      rw [List.cons_append, List.append_assoc, List.cons_append, List.append_assoc]
      exact value?_object first
        (fields?_fieldsTail ih.2 (show (fieldsTail others).length ≤ fuel by omega))

/-- The text of a value is read as that value. -/
theorem read_render {value : Json} (proper : value.IsProper) : read value.render = some value := by
  have enough : value.chars.length ≤ 2 * value.chars.length + 1 := by omega
  have whole := readsBack_of_isProper proper _ [] enough (by simp [EndsNumber])
  rw [List.append_nil] at whole
  rw [read, render, String.toList_ofList, String.length_ofList, whole]
  rfl

end Json

end KubeSim
