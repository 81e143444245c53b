import Mathlib.Data.Int.Log
import Mathlib.Data.Rat.Floor

/-!
# Binary64 numbers

The numbers of the format binary64, by their exact values: a finite number is an integer of at most
53 bits times a power of two.  The sign of a zero is left out, and with it nothing that a comparison
can see.

`parse` reads the decimal notation of Rust's `f64::from_str`: a sign, and then `inf`, `infinity` or
`nan` in any case, or digits with one point and an exponent; the value is rounded to the nearest
number, ties to even.
-/

namespace Float64

/-- A finite number, `significand * 2 ^ exponent`. -/
structure Finite where
  significand : ℤ
  exponent : ℤ
  significand_lt : significand.natAbs < 2 ^ 53
  exponent_ge : -1074 ≤ exponent
  exponent_le : exponent ≤ 971
  deriving DecidableEq

/-- The number that is meant. -/
def Finite.value (x : Finite) : ℚ := x.significand * 2 ^ x.exponent

/-- The number zero. -/
def Finite.zero : Finite := ⟨0, 0, by decide, by decide, by decide⟩

/-- The largest finite number. -/
def Finite.largest : Finite := ⟨2 ^ 53 - 1, 971, by decide, by decide, by decide⟩

/-- An `f64`, less the sign of zero. -/
inductive F64 where
  | nan
  | infinite (negative : Bool)
  | finite (x : Finite)
  deriving DecidableEq

namespace F64

/-- `<=`: false if one side is not a number. -/
def le : F64 → F64 → Bool
  | .nan, _ | _, .nan => false
  | .infinite true, _ | _, .infinite false => true
  | .finite x, .finite y => decide (x.value ≤ y.value)
  | _, _ => false

/-- `>=`. -/
def ge (x y : F64) : Bool := y.le x

/-- `>`. -/
def gt (x y : F64) : Bool := y.le x && !x.le y

/-- `==`. -/
def eq (x y : F64) : Bool := x.le y && y.le x

/-- Zero. -/
def zero : F64 := .finite .zero

/-- `f64::MAX`. -/
def max : F64 := .finite .largest

/-- Neither infinite nor `NaN`. -/
def IsFinite : F64 → Prop
  | .finite _ => True
  | _ => False

end F64

/-! ## Rounding -/

/-- The nearest integer, ties to even. -/
def roundHalfEven (q : ℚ) : ℤ :=
  if q - ⌊q⌋ < 1 / 2 then ⌊q⌋
  else if 1 / 2 < q - ⌊q⌋ then ⌊q⌋ + 1
  else if ⌊q⌋ % 2 = 0 then ⌊q⌋
  else ⌊q⌋ + 1

/-- The number nearest to a rational, ties to even.  The significand may round up to `2 ^ 53`, which
is `2 ^ 52` with the next exponent. -/
def ofRat (q : ℚ) : F64 :=
  let exponent := Max.max (Int.log 2 |q| - 52) (-1074)
  let significand := roundHalfEven (q / 2 ^ exponent)
  if h : significand.natAbs < 2 ^ 53 ∧ -1074 ≤ exponent ∧ exponent ≤ 971 then
    .finite ⟨significand, exponent, h.1, h.2.1, h.2.2⟩
  else if h : (significand / 2).natAbs < 2 ^ 53 ∧ -1074 ≤ exponent + 1 ∧ exponent + 1 ≤ 971 then
    .finite ⟨significand / 2, exponent + 1, h.1, h.2.1, h.2.2⟩
  else .infinite (decide (q < 0))

/-! ## Decimal notation -/

/-- A sign, if there is one: whether it is a minus, and the rest. -/
def parseSign : List Char → Bool × List Char
  | '-' :: rest => (true, rest)
  | '+' :: rest => (false, rest)
  | rest => (false, rest)

/-- The number that decimal digits write. -/
def ofDigits (digits : List Char) : ℕ :=
  digits.foldl (fun n c => 10 * n + (c.toNat - '0'.toNat)) 0

/-- The exponent at the end of a number: nothing, or `e`, a sign and digits. -/
def parseExponent : List Char → Option ℤ
  | [] => some 0
  | c :: rest =>
    let (negative, digits) := parseSign rest
    if c.toLower = 'e' ∧ digits ≠ [] ∧ digits.all Char.isDigit then
      some (if negative then -(ofDigits digits : ℤ) else ofDigits digits)
    else none

/-- Digits, of which there is at least one, with a point before, between or after them, and an
exponent. -/
def parseNumber (s : List Char) : Option ℚ :=
  let (whole, rest) := s.span Char.isDigit
  let (fraction, rest) := match rest with
    | '.' :: rest => rest.span Char.isDigit
    | _ => ([], rest)
  if whole = [] ∧ fraction = [] then none
  else (parseExponent rest).map fun (exponent : ℤ) =>
    (ofDigits (whole ++ fraction) : ℚ) * 10 ^ (exponent - fraction.length)

/-- `str::parse::<f64>`. -/
def parse (s : List Char) : Option F64 :=
  let (negative, rest) := parseSign s
  let word := rest.map Char.toLower
  if word = "inf".toList ∨ word = "infinity".toList then some (.infinite negative)
  else if word = "nan".toList then some .nan
  else (parseNumber rest).map fun q => ofRat (if negative then -q else q)

/-- A decimal fraction is rounded. -/
example : parse "0.1".toList =
    some (.finite ⟨7205759403792794, -56, by decide, by decide, by decide⟩) := by decide +kernel

/-! ## The largest number -/

theorem Finite.value_le (x : Finite) : x.value ≤ Finite.largest.value := by
  have significand : (x.significand : ℚ) ≤ 2 ^ 53 - 1 := by
    have bound := x.significand_lt
    have le : x.significand ≤ 2 ^ 53 - 1 := by omega
    exact_mod_cast le
  have power : (2 : ℚ) ^ x.exponent ≤ 2 ^ (971 : ℤ) :=
    zpow_le_zpow_right₀ one_le_two x.exponent_le
  calc x.value ≤ (2 ^ 53 - 1) * 2 ^ x.exponent :=
        mul_le_mul_of_nonneg_right significand (zpow_nonneg zero_le_two _)
    _ ≤ (2 ^ 53 - 1) * 2 ^ (971 : ℤ) :=
        mul_le_mul_of_nonneg_left power (by norm_num)
    _ = Finite.largest.value := by norm_num [value, largest]

namespace F64

variable {x : F64}

/-- No finite number is larger than the largest. -/
theorem IsFinite.le_max (h : x.IsFinite) : x.le max = true := by
  cases x with
  | nan | infinite => exact h.elim
  | finite x => exact decide_eq_true x.value_le

theorem IsFinite.gt_max (h : x.IsFinite) : x.gt max = false := by
  rw [gt, h.le_max, Bool.not_true, Bool.and_false]

theorem IsFinite.ge_max (h : x.IsFinite) : x.ge max = x.eq max := by
  rw [ge, eq, h.le_max, Bool.true_and]

end F64

end Float64
