import Mathlib.Algebra.Field.Rat
import Mathlib.Algebra.Order.Group.Int
import Mathlib.Data.List.TakeWhile
import Mathlib.Data.Rat.Defs

/-!
# Decimal numerals

A finite decimal keeps its sign, its digits and its exponent, and `str` writes them down:
in plain notation when the exponent is not positive and the number is not too small, in
scientific notation otherwise. Equal numbers may be written in many ways.
-/

namespace PyDecimal

/-- A finite `Decimal`. -/
@[ext]
structure Numeral where
  negative : Bool
  coefficient : ℕ
  exponent : ℤ
  deriving DecidableEq

namespace Numeral

/-- The number a numeral denotes. -/
def value (d : Numeral) : ℚ :=
  (if d.negative then -1 else 1) * d.coefficient * (10 : ℚ) ^ d.exponent

def digits (d : Numeral) : List Char := Nat.toDigits 10 d.coefficient

/-- How many digits stand before the point in plain notation. -/
def leftDigits (d : Numeral) : ℤ := d.exponent + d.digits.length

/-- Where the point is written. -/
def dotPlace (d : Numeral) : ℤ :=
  if d.exponent ≤ 0 ∧ -6 < d.leftDigits then d.leftDigits else 1

def parts (d : Numeral) : List Char × List Char :=
  if d.dotPlace ≤ 0 then (['0'], List.replicate (-d.dotPlace).toNat '0' ++ d.digits)
  else if d.digits.length ≤ d.dotPlace then
    (d.digits ++ List.replicate (d.dotPlace - d.digits.length).toNat '0', [])
  else (d.digits.take d.dotPlace.toNat, d.digits.drop d.dotPlace.toNat)

/-- `"%+d" % n`. -/
def signedDigits (n : ℤ) : List Char :=
  (if n < 0 then '-' else '+') :: Nat.toDigits 10 n.natAbs

/-- `str(d)` without its sign. -/
def body (d : Numeral) : List Char :=
  d.parts.1 ++ (if d.parts.2 = [] then [] else '.' :: d.parts.2) ++
    (if d.leftDigits = d.dotPlace then [] else 'E' :: signedDigits (d.leftDigits - d.dotPlace))

/-- `str(d)`. -/
def str (d : Numeral) : String :=
  String.ofList (if d.negative then '-' :: d.body else d.body)

theorem ofDigitChars_replicate_zero (k : ℕ) (cs : List Char) :
    Nat.ofDigitChars 10 (List.replicate k '0' ++ cs) 0 = Nat.ofDigitChars 10 cs 0 := by
  induction k with
  | zero => rfl
  | succ k ih =>
    rw [List.replicate_succ, List.cons_append, Nat.ofDigitChars_cons]
    exact ih

variable (d : Numeral)

theorem span_append {p : Char → Bool} {l r : List Char} (hl : ∀ c ∈ l, p c = true)
    (hr : ∀ c ∈ r.head?, p c = false) :
    (l ++ r).takeWhile p = l ∧ (l ++ r).dropWhile p = r := by
  rw [List.takeWhile_append_of_pos hl, List.dropWhile_append_of_pos hl]
  cases r with
  | nil => exact ⟨List.append_nil l, rfl⟩
  | cons c r =>
    have hc := hr c rfl
    rw [List.takeWhile_cons_of_neg (by simp [hc]), List.dropWhile_cons_of_neg (by simp [hc]),
      List.append_nil]
    exact ⟨rfl, rfl⟩

end Numeral

example : (⟨false, 150, -2⟩ : Numeral).str = "1.50" := by decide
example : (⟨true, 15, -9⟩ : Numeral).str = "-1.5E-8" := by decide
example : (⟨false, 2, 3⟩ : Numeral).str = "2E+3" := by decide

end PyDecimal
