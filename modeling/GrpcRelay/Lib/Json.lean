import Mathlib.Data.Nat.Digits.Defs
import Mathlib.Tactic.Common

/-!
# JSON texts

JSON values, the text that a compact writer gives them, and a reader of such texts.

The writer puts no blanks between tokens and escapes the quote, the backslash and the control
characters: five of them have a letter, the others a code of four hexadecimal digits.  Numbers keep
their literal, so that it does not matter here how it was made.

The reader gives every value back (`parse_render`), so a text stands for one value only.  A text has
no line break, so values can be written one a line (`splitLines_unlines`).
-/

namespace Json

/-! ## Values -/

/-- The characters of a number. -/
def isNumberChar (c : Char) : Bool :=
  c.isDigit || c == '-' || c == '+' || c == '.' || c == 'e' || c == 'E'

/-- The first characters of a number. -/
def startsNumber (c : Char) : Bool := c.isDigit || c == '-'

/-- A number, given by its literal. -/
structure Number where
  literal : List Char
  starts : (literal.head?.map startsNumber).getD false = true
  chars : literal.all isNumberChar = true
  deriving DecidableEq

/-- A JSON value; an object keeps the order of its members. -/
inductive Value where
  | null
  | bool (b : Bool)
  | number (n : Number)
  | string (s : String)
  | array (items : List Value)
  | object (members : List (String × Value))

/-- The literal of an integer. -/
def decimal (n : ℤ) : List Char :=
  if n < 0 then '-' :: Nat.toDigits 10 n.natAbs else Nat.toDigits 10 n.natAbs

theorem isDigit_of_mem_toDigits {n : ℕ} {c : Char} (h : c ∈ Nat.toDigits 10 n) :
    c.isDigit = true :=
  Nat.isDigit_of_mem_toDigits (by decide) (by decide) h

theorem toDigits_eq_cons (n : ℕ) : ∃ c cs, Nat.toDigits 10 n = c :: cs ∧ c.isDigit = true := by
  obtain ⟨c, cs, h⟩ := List.exists_cons_of_ne_nil (Nat.toDigits_ne_nil (b := 10) (n := n))
  exact ⟨c, cs, h, isDigit_of_mem_toDigits (h ▸ List.mem_cons_self)⟩

/-- The integer of a literal. -/
def ofDecimal : List Char → ℤ
  | '-' :: digits => -Nat.ofDigitChars 10 digits 0
  | digits => Nat.ofDigitChars 10 digits 0

theorem ofDecimal_decimal (n : ℤ) : ofDecimal (decimal n) = n := by
  have value : Nat.ofDigitChars 10 (Nat.toDigits 10 n.natAbs) 0 = n.natAbs :=
    Nat.ofDigitChars_ten_toDigits
  obtain ⟨c, cs, digits, digit⟩ := toDigits_eq_cons n.natAbs
  unfold decimal
  split_ifs with negative
  · rw [ofDecimal, value]
    omega
  · rw [digits] at value ⊢
    rw [ofDecimal, value]
    · omega
    · intro _ eq
      cases eq
      cases digit

namespace Number

/-- The number written for an integer. -/
def ofInt (n : ℤ) : Number where
  literal := decimal n
  starts := by
    obtain ⟨c, cs, digits, digit⟩ := toDigits_eq_cons n.natAbs
    unfold decimal
    split_ifs
    · rfl
    · rw [digits]
      simp [startsNumber, digit]
  chars := by
    have digits : (Nat.toDigits 10 n.natAbs).all isNumberChar = true :=
      List.all_eq_true.2 fun c mem => by simp [isNumberChar, isDigit_of_mem_toDigits mem]
    unfold decimal
    split_ifs
    · rw [List.all_cons, digits]
      rfl
    · exact digits

/-- The integer of a literal. -/
def toInt (n : Number) : ℤ := ofDecimal n.literal

theorem toInt_ofInt (n : ℤ) : (ofInt n).toInt = n := ofDecimal_decimal n

end Number

/-! ## The writer -/

/-- The letter after the backslash, for the characters that have one. -/
def shortEscape (c : Char) : Option Char :=
  if c = '"' then some '"'
  else if c = '\\' then some '\\'
  else if c = '\x08' then some 'b'
  else if c = '\t' then some 't'
  else if c = '\n' then some 'n'
  else if c = '\x0c' then some 'f'
  else if c = '\r' then some 'r'
  else none

/-- A hexadecimal digit, in lower case. -/
def hexDigit (n : ℕ) : Char := Nat.digitChar n

/-- A character of a string as it is written. -/
def escapeChar (c : Char) : List Char :=
  match shortEscape c with
  | some letter => ['\\', letter]
  | none =>
    if c.toNat < 32 then
      ['\\', 'u', '0', '0', hexDigit (c.toNat / 16), hexDigit (c.toNat % 16)]
    else [c]

/-- A string with its quotes. -/
def renderString (s : String) : List Char := '"' :: (s.toList.flatMap escapeChar ++ ['"'])

mutual

/-- A value as it is written, without blanks. -/
def render : Value → List Char
  | .null => "null".toList
  | .bool true => "true".toList
  | .bool false => "false".toList
  | .number n => n.literal
  | .string s => renderString s
  | .array items => '[' :: (renderItems items ++ [']'])
  | .object members => '\x7b' :: (renderMembers members ++ ['\x7d'])

/-- The items of an array, with commas between them. -/
def renderItems : List Value → List Char
  | [] => []
  | [v] => render v
  | v :: vs => render v ++ ',' :: renderItems vs

/-- The members of an object, with commas between them. -/
def renderMembers : List (String × Value) → List Char
  | [] => []
  | [(key, v)] => renderString key ++ ':' :: render v
  | (key, v) :: members => renderString key ++ ':' :: (render v ++ ',' :: renderMembers members)

end

/-! ## The reader -/

/-- The character that a letter after a backslash stands for. -/
def unescape (letter : Char) : Option Char :=
  if letter = '"' then some '"'
  else if letter = '\\' then some '\\'
  else if letter = '/' then some '/'
  else if letter = 'b' then some '\x08'
  else if letter = 't' then some '\t'
  else if letter = 'n' then some '\n'
  else if letter = 'f' then some '\x0c'
  else if letter = 'r' then some '\r'
  else none

/-- The value of a hexadecimal digit. -/
def hexValue (c : Char) : ℕ :=
  if c.isDigit then c.toNat - '0'.toNat else c.toLower.toNat - 'a'.toNat + 10

/-- The character of a code of four digits. -/
def codeChar (a b c d : Char) : Char :=
  .ofNat (hexValue a * 4096 + hexValue b * 256 + hexValue c * 16 + hexValue d)

/-- The characters of a string up to the closing quote, and what follows it. -/
def parseChars : List Char → Option (List Char × List Char)
  | [] => none
  | c :: cs =>
    if c = '"' then some ([], cs)
    else if c = '\\' then
      match cs with
      | [] => none
      | letter :: cs =>
        if letter = 'u' then
          match cs with
          | h₁ :: h₂ :: h₃ :: h₄ :: cs =>
            (parseChars cs).map fun r => (codeChar h₁ h₂ h₃ h₄ :: r.1, r.2)
          | _ => none
        else
          (unescape letter).bind fun e => (parseChars cs).map fun r => (e :: r.1, r.2)
    else (parseChars cs).map fun r => (c :: r.1, r.2)

/-- A string in its quotes, and what stands after it. -/
def parseString : List Char → Option (String × List Char)
  | '"' :: cs => (parseChars cs).map fun r => (String.ofList r.1, r.2)
  | _ => none

/-- The longest literal. -/
def parseNumber (cs : List Char) : Option (Number × List Char) :=
  let literal := cs.takeWhile isNumberChar
  if h : (literal.head?.map startsNumber).getD false = true then
    some (⟨literal, h, List.all_takeWhile⟩, cs.dropWhile isNumberChar)
  else none

mutual

/-- The value that a text begins with, and what follows it; no deeper than the first argument. -/
def parseValue : ℕ → List Char → Option (Value × List Char)
  | 0, _ => none
  | depth + 1, cs =>
    match cs with
    | 'n' :: 'u' :: 'l' :: 'l' :: cs => some (.null, cs)
    | 't' :: 'r' :: 'u' :: 'e' :: cs => some (.bool true, cs)
    | 'f' :: 'a' :: 'l' :: 's' :: 'e' :: cs => some (.bool false, cs)
    | '"' :: cs => (parseString ('"' :: cs)).map fun r => (.string r.1, r.2)
    | '[' :: ']' :: cs => some (.array [], cs)
    | '[' :: cs => (parseItems depth cs).map fun r => (.array r.1, r.2)
    | '\x7b' :: '\x7d' :: cs => some (.object [], cs)
    | '\x7b' :: cs => (parseMembers depth cs).map fun r => (.object r.1, r.2)
    | cs => (parseNumber cs).map fun r => (.number r.1, r.2)

/-- The items of an array that is not empty, up to its bracket. -/
def parseItems : ℕ → List Char → Option (List Value × List Char)
  | 0, _ => none
  | depth + 1, cs =>
    match parseValue depth cs with
    | some (v, ',' :: cs) => (parseItems depth cs).map fun r => (v :: r.1, r.2)
    | some (v, ']' :: cs) => some ([v], cs)
    | _ => none

/-- The members of an object that is not empty, up to its brace. -/
def parseMembers : ℕ → List Char → Option (List (String × Value) × List Char)
  | 0, _ => none
  | depth + 1, cs =>
    match parseString cs with
    | some (key, ':' :: cs) =>
      match parseValue depth cs with
      | some (v, ',' :: cs) => (parseMembers depth cs).map fun r => ((key, v) :: r.1, r.2)
      | some (v, '\x7d' :: cs) => some ([(key, v)], cs)
      | _ => none
    | _ => none

end

/-- The value of a text. -/
def parse (cs : List Char) : Option Value :=
  match parseValue cs.length cs with
  | some (v, []) => some v
  | _ => none

/-! ## Strings -/

theorem unescape_shortEscape {c letter : Char} (h : shortEscape c = some letter) :
    unescape letter = some c ∧ letter ≠ 'u' := by
  unfold shortEscape at h
  split_ifs at h with h₁ h₂ h₃ h₄ h₅ h₆ h₇
  all_goals
    cases h
    subst c
    exact ⟨rfl, by decide⟩

theorem plain_of_shortEscape {c : Char} (h : shortEscape c = none) : c ≠ '"' ∧ c ≠ '\\' := by
  refine ⟨?_, ?_⟩ <;> rintro rfl <;> cases h

theorem hexValue_hexDigit : ∀ {n : ℕ}, n < 16 → hexValue (hexDigit n) = n := by decide

theorem codeChar_hexDigit {c : Char} (h : c.toNat < 32) :
    codeChar '0' '0' (hexDigit (c.toNat / 16)) (hexDigit (c.toNat % 16)) = c := by
  have zero : hexValue '0' = 0 := rfl
  have code : c.toNat / 16 * 16 + c.toNat % 16 = c.toNat := Nat.div_add_mod' ..
  rw [codeChar, zero, hexValue_hexDigit (by omega), hexValue_hexDigit (by omega)]
  simp only [Nat.zero_mul, Nat.zero_add, code, Char.ofNat_toNat]

theorem parseChars_quote (cs : List Char) : parseChars ('"' :: cs) = some ([], cs) := by
  rw [parseChars.eq_def]
  simp

theorem parseChars_plain {c : Char} (quote : c ≠ '"') (backslash : c ≠ '\\') (cs : List Char) :
    parseChars (c :: cs) = (parseChars cs).map fun r => (c :: r.1, r.2) := by
  rw [parseChars.eq_def]
  simp only [if_neg quote, if_neg backslash]

theorem parseChars_letter {letter : Char} (plain : letter ≠ 'u') (cs : List Char) :
    parseChars ('\\' :: letter :: cs) =
      (unescape letter).bind fun e => (parseChars cs).map fun r => (e :: r.1, r.2) := by
  rw [parseChars.eq_def]
  simp [plain]

theorem parseChars_code (h₁ h₂ h₃ h₄ : Char) (cs : List Char) :
    parseChars ('\\' :: 'u' :: h₁ :: h₂ :: h₃ :: h₄ :: cs) =
      (parseChars cs).map fun r => (codeChar h₁ h₂ h₃ h₄ :: r.1, r.2) := by
  rw [parseChars.eq_def]
  simp

/-- The reader takes an escaped character for one character. -/
theorem parseChars_escapeChar (c : Char) (cs : List Char) :
    parseChars (escapeChar c ++ cs) = (parseChars cs).map fun r => (c :: r.1, r.2) := by
  unfold escapeChar
  split
  · rename_i letter short
    obtain ⟨back, plain⟩ := unescape_shortEscape short
    rw [List.cons_append, List.singleton_append, parseChars_letter plain, back, Option.bind_some]
  · rename_i short
    obtain ⟨quote, backslash⟩ := plain_of_shortEscape short
    split_ifs with control
    · simp only [List.cons_append, List.nil_append]
      rw [parseChars_code, codeChar_hexDigit control]
    · rw [List.singleton_append, parseChars_plain quote backslash]

theorem parseChars_escaped (s cs : List Char) :
    parseChars (s.flatMap escapeChar ++ '"' :: cs) = some (s, cs) := by
  induction s with
  | nil => exact parseChars_quote cs
  | cons c s ih =>
    rw [List.flatMap_cons, List.append_assoc, parseChars_escapeChar, ih]
    rfl

theorem parseString_renderString (s : String) (cs : List Char) :
    parseString (renderString s ++ cs) = some (s, cs) := by
  have text : renderString s ++ cs = '"' :: (s.toList.flatMap escapeChar ++ '"' :: cs) := by
    simp [renderString]
  rw [text, parseString, parseChars_escaped, Option.map_some, String.ofList_toList]

/-! ## Numbers -/

/-- What follows cannot be part of a number. -/
def Delimited (cs : List Char) : Prop := ∀ c ∈ cs.head?, isNumberChar c = false

theorem delimited_cons {c : Char} {cs : List Char} (h : isNumberChar c = false) :
    Delimited (c :: cs) := by
  intro c' mem
  cases mem
  exact h

theorem Number.literal_eq (n : Number) : ∃ c cs, n.literal = c :: cs ∧ startsNumber c = true := by
  have starts := n.starts
  cases literal : n.literal with
  | nil => simp [literal] at starts
  | cons c cs => exact ⟨c, cs, rfl, by simpa [literal] using starts⟩

theorem span_literal (n : Number) {cs : List Char} (delimited : Delimited cs) :
    (n.literal ++ cs).takeWhile isNumberChar = n.literal ∧
      (n.literal ++ cs).dropWhile isNumberChar = cs := by
  have chars := List.all_eq_true.1 n.chars
  rw [List.takeWhile_append_of_pos chars, List.dropWhile_append_of_pos chars]
  cases cs with
  | nil => simp
  | cons c cs =>
    have stop : isNumberChar c = false := delimited c rfl
    simp [stop]

theorem parseNumber_literal (n : Number) {cs : List Char} (delimited : Delimited cs) :
    parseNumber (n.literal ++ cs) = some (n, cs) := by
  obtain ⟨taken, dropped⟩ := span_literal n delimited
  unfold parseNumber
  simp only [taken, dropped, n.starts, dif_pos]

/-! ## Values -/

/-- A value is told from the end of an array by its first character. -/
theorem render_eq_cons (v : Value) : ∃ c cs, render v = c :: cs ∧ c ≠ ']' := by
  cases v with
  | null => exact ⟨_, _, by rw [render]; rfl, by decide⟩
  | bool b => cases b <;> exact ⟨_, _, by rw [render]; rfl, by decide⟩
  | number n =>
    obtain ⟨c, cs, literal, starts⟩ := n.literal_eq
    refine ⟨c, cs, by rw [render, literal], ?_⟩
    rintro rfl
    cases starts
  | string s => exact ⟨_, _, by rw [render]; rfl, by decide⟩
  | array items => exact ⟨_, _, by rw [render], by decide⟩
  | object members => exact ⟨_, _, by rw [render], by decide⟩

theorem renderItems_cons {vs : List Value} (v : Value) (h : vs ≠ []) :
    renderItems (v :: vs) = render v ++ ',' :: renderItems vs := by
  cases vs with
  | nil => exact absurd rfl h
  | cons w ws => rw [renderItems]; simp

theorem renderMembers_cons {ms : List (String × Value)} (key : String) (v : Value) (h : ms ≠ []) :
    renderMembers ((key, v) :: ms) =
      renderString key ++ ':' :: (render v ++ ',' :: renderMembers ms) := by
  cases ms with
  | nil => exact absurd rfl h
  | cons w ws => rw [renderMembers]; simp

theorem parseValue_number (n : Number) {depth : ℕ} {cs : List Char} (delimited : Delimited cs) :
    parseValue (depth + 1) (n.literal ++ cs) = some (.number n, cs) := by
  have number := parseNumber_literal n delimited
  obtain ⟨c, literal, eq, starts⟩ := n.literal_eq
  rw [eq, List.cons_append] at number ⊢
  rw [parseValue]
  · rw [number]
    rfl
  all_goals
    intros
    rename_i first
    obtain ⟨rfl, -⟩ := List.cons.inj first
    cases starts

theorem parseValue_array {vs : List Value} (h : vs ≠ []) {depth : ℕ} {cs : List Char} :
    parseValue (depth + 1) ('[' :: (renderItems vs ++ cs)) =
      (parseItems depth (renderItems vs ++ cs)).map fun r => (.array r.1, r.2) := by
  obtain ⟨v, vs, rfl⟩ := List.exists_cons_of_ne_nil h
  obtain ⟨c, text, eq, bracket⟩ := render_eq_cons v
  obtain ⟨text', eq'⟩ : ∃ text', renderItems (v :: vs) ++ cs = c :: text' := by
    cases vs with
    | nil => exact ⟨_, by rw [renderItems, eq, List.cons_append]⟩
    | cons w ws => exact ⟨_, by rw [renderItems_cons _ (by simp), eq]; rfl⟩
  rw [eq', parseValue]
  intros
  rename_i first
  cases first
  exact bracket rfl

theorem parseValue_object {ms : List (String × Value)} (h : ms ≠ []) {depth : ℕ} {cs : List Char} :
    parseValue (depth + 1) ('\x7b' :: (renderMembers ms ++ cs)) =
      (parseMembers depth (renderMembers ms ++ cs)).map fun r => (.object r.1, r.2) := by
  obtain ⟨⟨key, v⟩, ms, rfl⟩ := List.exists_cons_of_ne_nil h
  obtain ⟨text', eq'⟩ : ∃ text', renderMembers ((key, v) :: ms) ++ cs = '"' :: text' := by
    cases ms with
    | nil => exact ⟨_, by rw [renderMembers]; rfl⟩
    | cons w ws => exact ⟨_, by rw [renderMembers_cons _ _ (by simp)]; rfl⟩
  rw [eq', parseValue]
  intros
  rename_i first
  cases first

mutual

/-- The reader finds a value in front of anything that does not continue it. -/
theorem parseValue_render : ∀ (v : Value) {depth : ℕ} {cs : List Char},
    (render v).length ≤ depth → Delimited cs → parseValue depth (render v ++ cs) = some (v, cs)
  | .null, depth + 1, cs, _, _ => by rw [render, parseValue.eq_def]; rfl
  | .bool true, depth + 1, cs, _, _ => by rw [render, parseValue.eq_def]; rfl
  | .bool false, depth + 1, cs, _, _ => by rw [render, parseValue.eq_def]; rfl
  | .number n, depth + 1, cs, _, delimited => by rw [render, parseValue_number n delimited]
  | .string s, depth + 1, cs, _, _ => by
    have text : renderString s ++ cs = '"' :: (s.toList.flatMap escapeChar ++ '"' :: cs) := by
      simp [renderString]
    have string := parseString_renderString s cs
    rw [text] at string
    rw [render, text, parseValue, string]
    rfl
  | .array items, depth + 1, cs, bound, _ => by
    rw [render, List.cons_append, List.append_assoc, List.singleton_append]
    by_cases empty : items = []
    · subst empty
      rw [renderItems, List.nil_append, parseValue]
    · rw [render, List.length_cons, List.length_append, List.length_singleton] at bound
      rw [parseValue_array empty, parseItems_render items empty (by omega)]
      rfl
  | .object members, depth + 1, cs, bound, _ => by
    rw [render, List.cons_append, List.append_assoc, List.singleton_append]
    by_cases empty : members = []
    · subst empty
      rw [renderMembers, List.nil_append, parseValue]
    · rw [render, List.length_cons, List.length_append, List.length_singleton] at bound
      rw [parseValue_object empty, parseMembers_render members empty (by omega)]
      rfl
  | v, 0, cs, bound, _ => by
    obtain ⟨c, text, eq, -⟩ := render_eq_cons v
    rw [eq] at bound
    cases bound

theorem parseItems_render : ∀ (vs : List Value), vs ≠ [] → ∀ {depth : ℕ} {cs : List Char},
    (renderItems vs).length < depth → parseItems depth (renderItems vs ++ ']' :: cs) = some (vs, cs)
  | [v], _, depth + 1, cs, bound => by
    rw [renderItems] at bound ⊢
    rw [parseItems, parseValue_render v (by omega) (delimited_cons rfl)]
    rfl
  | v :: w :: ws, _, depth + 1, cs, bound => by
    rw [renderItems_cons v (by simp)] at bound ⊢
    rw [List.length_append, List.length_cons] at bound
    rw [List.append_assoc, List.cons_append, parseItems,
      parseValue_render v (by omega) (delimited_cons rfl)]
    simp only
    rw [parseItems_render (w :: ws) (by simp) (by omega)]
    rfl

theorem parseMembers_render : ∀ (ms : List (String × Value)), ms ≠ [] →
    ∀ {depth : ℕ} {cs : List Char}, (renderMembers ms).length < depth →
      parseMembers depth (renderMembers ms ++ '\x7d' :: cs) = some (ms, cs)
  | [(key, v)], _, depth + 1, cs, bound => by
    rw [renderMembers] at bound ⊢
    rw [List.length_append, List.length_cons] at bound
    rw [List.append_assoc, List.cons_append, parseMembers, parseString_renderString]
    simp only
    rw [parseValue_render v (by omega) (delimited_cons rfl)]
    rfl
  | (key, v) :: w :: ws, _, depth + 1, cs, bound => by
    rw [renderMembers_cons key v (by simp)] at bound ⊢
    rw [List.length_append, List.length_cons, List.length_append, List.length_cons] at bound
    rw [List.append_assoc, List.cons_append, List.append_assoc, List.cons_append, parseMembers,
      parseString_renderString]
    simp only
    rw [parseValue_render v (by omega) (delimited_cons rfl)]
    simp only
    rw [parseMembers_render (w :: ws) (by simp) (by omega)]
    rfl

end

/-- The reader gives back the value that was written. -/
theorem parse_render (v : Value) : parse (render v) = some v := by
  have whole := @parseValue_render v _ [] (Nat.le_refl _) fun c mem => by cases mem
  rw [List.append_nil] at whole
  rw [parse, whole]

/-! ## Lines -/

theorem notMem_escapeChar (c : Char) : '\n' ∉ escapeChar c := by
  have digit : ∀ {n : ℕ}, n < 16 → '\n' ≠ hexDigit n := by decide
  unfold escapeChar
  split
  · rename_i letter short
    intro mem
    obtain rfl : '\n' = letter := by simpa using mem
    cases (unescape_shortEscape short).1
  · rename_i short
    split_ifs with control
    · have high := digit (n := c.toNat / 16) (by omega)
      have low := digit (n := c.toNat % 16) (by omega)
      simp [high, low]
    · intro mem
      obtain rfl : '\n' = c := by simpa using mem
      exact control (by decide)

theorem notMem_renderString (s : String) : '\n' ∉ renderString s := by
  simp [renderString, List.mem_flatMap, notMem_escapeChar]

mutual

/-- A text has no line break. -/
theorem notMem_render : ∀ v : Value, '\n' ∉ render v
  | .null => by rw [render]; decide
  | .bool true => by rw [render]; decide
  | .bool false => by rw [render]; decide
  | .number n => by
    rw [render]
    intro mem
    cases List.all_eq_true.1 n.chars _ mem
  | .string s => by rw [render]; exact notMem_renderString s
  | .array items => by rw [render]; simp [notMem_renderItems items]
  | .object members => by rw [render]; simp [notMem_renderMembers members]

theorem notMem_renderItems : ∀ vs : List Value, '\n' ∉ renderItems vs
  | [] => by rw [renderItems]; simp
  | [v] => by rw [renderItems]; exact notMem_render v
  | v :: w :: ws => by
    rw [renderItems_cons v (by simp)]
    simp [notMem_render v, notMem_renderItems (w :: ws)]

theorem notMem_renderMembers : ∀ ms : List (String × Value), '\n' ∉ renderMembers ms
  | [] => by rw [renderMembers]; simp
  | [(key, v)] => by rw [renderMembers]; simp [notMem_renderString, notMem_render v]
  | (key, v) :: w :: ws => by
    rw [renderMembers_cons key v (by simp)]
    simp [notMem_renderString, notMem_render v, notMem_renderMembers (w :: ws)]

end

/-- Lines as they stand in a file, each with its line break. -/
def unlines (lines : List (List Char)) : List Char := lines.flatMap (· ++ ['\n'])

/-- The lines of a file, each ended by a line break. -/
def splitLines (cs : List Char) : List (List Char) :=
  match cs with
  | [] => []
  | c :: cs =>
    if c = '\n' then [] :: splitLines cs
    else
      match splitLines cs with
      | [] => [[c]]
      | line :: lines => (c :: line) :: lines

theorem splitLines_append {line : List Char} (h : '\n' ∉ line) (cs : List Char) :
    splitLines (line ++ '\n' :: cs) = line :: splitLines cs := by
  induction line with
  | nil => rw [List.nil_append, splitLines, if_pos rfl]
  | cons c line ih =>
    rw [List.mem_cons, not_or] at h
    rw [List.cons_append, splitLines, if_neg (Ne.symm h.1), ih h.2]

theorem splitLines_unlines {lines : List (List Char)} (h : ∀ line ∈ lines, '\n' ∉ line) :
    splitLines (unlines lines) = lines := by
  induction lines with
  | nil => rfl
  | cons line lines ih =>
    have first := h line List.mem_cons_self
    have others := ih fun l mem => h l (List.mem_cons_of_mem _ mem)
    rw [unlines] at others ⊢
    rw [List.flatMap_cons, List.append_assoc, List.singleton_append, splitLines_append first,
      others]

/-! ## Members -/

/-- The members of an object. -/
abbrev Members := List (String × Value)

/-- A field that is always written. -/
def field (key : String) (v : Value) (ms : Members) : Members := (key, v) :: ms

/-- A field that is left out when it has no value. -/
def skippable {α : Type} (key : String) (write : α → Value) (v : Option α) (ms : Members) :
    Members :=
  match v with
  | none => ms
  | some v => (key, write v) :: ms

/-- The value of an integer. -/
def integer (n : ℤ) : Value := .number (.ofInt n)

/-- The number written for a natural number. -/
def natural (n : ℕ) : Value := integer n

/-- The first member of a name. -/
def lookup (key : String) : Members → Option Value
  | [] => none
  | (k, v) :: ms => if k = key then some v else lookup key ms

/-- The text of a string. -/
def readString : Value → Option String
  | .string s => some s
  | _ => none

/-- The value of a boolean. -/
def readBool : Value → Option Bool
  | .bool b => some b
  | _ => none

/-- The number of a number value. -/
def readNumber : Value → Option Number
  | .number n => some n
  | _ => none

/-- The integer of a number value. -/
def readInteger (v : Value) : Option ℤ := (readNumber v).map Number.toInt

/-- The natural number of a number value. -/
def readNatural (v : Value) : Option ℕ := (readInteger v).map Int.toNat

/-- What is read of a member that must be there. -/
def required {α : Type} (read : Value → Option α) (key : String) (ms : Members) : Option α :=
  (lookup key ms).bind read

/-- The text of a member that must be there. -/
def text (key : String) (ms : Members) : Option String := required readString key ms

/-- What is read of a member that may be missing. -/
def optionally {α : Type} (read : Value → Option α) : Option Value → Option (Option α)
  | none => some none
  | some v => (read v).map some

/-- What is read of the first member of a name, if there is one. -/
def maybe {α : Type} (read : Value → Option α) (key : String) (ms : Members) :
    Option (Option α) :=
  optionally read (lookup key ms)

@[simp]
theorem lookup_field (key k : String) (v : Value) (ms : Members) :
    lookup key (field k v ms) = if k = key then some v else lookup key ms := by
  rw [field, lookup]

@[simp]
theorem lookup_skippable {α : Type} (key k : String) (write : α → Value) (v : Option α)
    (ms : Members) :
    lookup key (skippable k write v ms) =
      if k = key then (v.map write).or (lookup key ms) else lookup key ms := by
  cases v <;> simp [skippable, lookup]

@[simp]
theorem lookup_nil (key : String) : lookup key [] = none := rfl

theorem readInteger_integer (n : ℤ) : readInteger (integer n) = some n := by
  simp [readInteger, integer, readNumber, Number.toInt_ofInt]

theorem readNatural_natural (n : ℕ) : readNatural (natural n) = some n := by
  simp [readNatural, natural, readInteger_integer]

theorem optionally_map {α : Type} {read : Value → Option α} {write : α → Value}
    (back : ∀ v, read (write v) = some v) (v : Option α) :
    optionally read (v.map write) = some v := by
  cases v <;> simp [optionally, back]

end Json
