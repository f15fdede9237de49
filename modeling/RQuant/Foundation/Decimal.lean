import Mathlib

/-!
# Decimal arithmetic

A context rounds the exact result of every operation; `exact` does not round and
`decimal28` keeps 28 significant digits with ties to even.  Results that hold in
both are proved from the four laws carried by `DecimalContext`.
-/

namespace RQuant.Foundation

/-- A finite nonnegative decimal as written: `coefficient * 10 ^ exponent`. -/
structure Decimal where
  coefficient : ℕ
  exponent : ℤ
  deriving DecidableEq

namespace Decimal

def toRat (value : Decimal) : ℚ := value.coefficient * 10 ^ value.exponent

theorem toRat_nonneg (value : Decimal) : 0 ≤ value.toRat := by
  unfold toRat
  positivity

end Decimal

/-- Nearest integer, ties away from zero (`ROUND_HALF_UP`). -/
def roundHalfUp (value : ℚ) : ℤ :=
  if 0 ≤ value then ⌊value + 1 / 2⌋ else -⌊-value + 1 / 2⌋

/-- Nearest integer, ties to the even neighbour (`ROUND_HALF_EVEN`). -/
def roundHalfEven (value : ℚ) : ℤ :=
  if value - ⌊value⌋ < 1 / 2 then ⌊value⌋
  else if 1 / 2 < value - ⌊value⌋ then ⌊value⌋ + 1
  else if ⌊value⌋ % 2 = 0 then ⌊value⌋
  else ⌊value⌋ + 1

@[simp] theorem roundHalfUp_intCast (integer : ℤ) : roundHalfUp (integer : ℚ) = integer := by
  have halfFloor : ⌊(1 / 2 : ℚ)⌋ = 0 := by decide +kernel
  unfold roundHalfUp
  split
  · rw [Int.floor_intCast_add, halfFloor, add_zero]
  · rw [← Int.cast_neg, Int.floor_intCast_add, halfFloor, add_zero, neg_neg]

theorem roundHalfUp_mono : Monotone roundHalfUp := by
  intro left right ordered
  unfold roundHalfUp
  split_ifs with leftSign rightSign rightSign
  · exact Int.floor_mono (by linarith)
  · exact absurd (leftSign.trans ordered) rightSign
  · have leftUnits : 0 ≤ ⌊-left + 1 / 2⌋ := Int.floor_nonneg.mpr (by linarith)
    have rightUnits : 0 ≤ ⌊right + 1 / 2⌋ := Int.floor_nonneg.mpr (by linarith)
    omega
  · exact neg_le_neg (Int.floor_mono (by linarith))

theorem abs_roundHalfUp_sub_le (value : ℚ) : |roundHalfUp value - value| ≤ 1 / 2 := by
  unfold roundHalfUp
  split
  · rw [← round_eq, abs_sub_comm]
    exact abs_sub_round value
  · rw [← round_eq, Int.cast_neg, ← neg_add', abs_neg, add_comm, ← abs_neg, neg_add']
    exact abs_sub_round (-value)

@[simp] theorem roundHalfEven_intCast (integer : ℤ) : roundHalfEven (integer : ℚ) = integer := by
  simp [roundHalfEven]

theorem floor_le_roundHalfEven (value : ℚ) : ⌊value⌋ ≤ roundHalfEven value := by
  unfold roundHalfEven
  split_ifs <;> omega

theorem roundHalfEven_le_floor_add_one (value : ℚ) : roundHalfEven value ≤ ⌊value⌋ + 1 := by
  unfold roundHalfEven
  split_ifs <;> omega

theorem roundHalfEven_mono : Monotone roundHalfEven := by
  intro left right ordered
  rcases (Int.floor_mono ordered).lt_or_eq with separated | sameFloor
  · calc
      roundHalfEven left ≤ ⌊left⌋ + 1 := roundHalfEven_le_floor_add_one left
      _ ≤ ⌊right⌋ := separated
      _ ≤ roundHalfEven right := floor_le_roundHalfEven right
  · unfold roundHalfEven
    rw [sameFloor]
    split_ifs <;> first | omega | (exfalso; linarith)

theorem roundHalfEven_neg (value : ℚ) : roundHalfEven (-value) = -roundHalfEven value := by
  by_cases integral : (⌊value⌋ : ℚ) = value
  · rw [← integral, ← Int.cast_neg, roundHalfEven_intCast, roundHalfEven_intCast]
  · have below : (⌊value⌋ : ℚ) < value := lt_of_le_of_ne (Int.floor_le value) integral
    have above : value < ⌊value⌋ + 1 := Int.lt_floor_add_one value
    have negFloor : ⌊-value⌋ = -⌊value⌋ - 1 := by
      rw [Int.floor_eq_iff]
      push_cast
      constructor <;> linarith
    have negRemainder : -value - ((⌊-value⌋ : ℤ) : ℚ) = 1 - (value - ⌊value⌋) := by
      rw [negFloor]
      push_cast
      ring
    unfold roundHalfEven
    rw [negRemainder, negFloor]
    split_ifs <;> first | omega | (exfalso; linarith)

/-- The exponent of the last of 28 significant digits of a nonzero value. -/
def lastPlace (value : ℚ) : ℤ := Int.log 10 |value| - 27

def round28 (value : ℚ) : ℚ := roundHalfEven (value / 10 ^ lastPlace value) * 10 ^ lastPlace value

@[simp] theorem round28_zero : round28 0 = 0 := by
  simp [round28, roundHalfEven]

theorem round28_neg (value : ℚ) : round28 (-value) = -round28 value := by
  unfold round28 lastPlace
  rw [abs_neg, neg_div, roundHalfEven_neg]
  push_cast
  ring

private theorem tenZpow_pos (exponent : ℤ) : (0 : ℚ) < 10 ^ exponent := by
  positivity

variable {coefficient : ℤ} {value : ℚ}

/-- With fewer than 28 digits left of the exponent, the last place does not
reach above the exponent. -/
private theorem lastPlace_le (exponent : ℤ) (nonzero : coefficient ≠ 0)
    (digits : |coefficient| < 10 ^ 28) :
    lastPlace ((coefficient : ℚ) * 10 ^ exponent) ≤ exponent := by
  have magnitudePos : 0 < |(coefficient : ℚ) * 10 ^ exponent| := by
    have : (coefficient : ℚ) ≠ 0 := by exact_mod_cast nonzero
    positivity
  have digitsRat : |(coefficient : ℚ)| < 10 ^ (28 : ℤ) := by
    exact_mod_cast digits
  have bounded :
      |(coefficient : ℚ) * 10 ^ exponent| < ((10 : ℕ) : ℚ) ^ (28 + exponent) := by
    rw [abs_mul, abs_of_pos (tenZpow_pos exponent), Nat.cast_ofNat, zpow_add₀ (by norm_num)]
    exact mul_lt_mul_of_pos_right digitsRat (tenZpow_pos exponent)
  have logBound := (Int.lt_zpow_iff_log_lt (by norm_num) magnitudePos).mp bounded
  unfold lastPlace
  omega

/-- A value with at most 28 significant digits is kept: `n * 10 ^ k` is a fixed
point of the rounding as soon as `|n| ≤ 10 ^ 28`. -/
theorem round28_fixed (exponent : ℤ) (digits : |coefficient| ≤ 10 ^ 28) :
    round28 (coefficient * 10 ^ exponent) = coefficient * 10 ^ exponent := by
  -- It suffices that the value is an integer multiple of its own last place.
  have multiple : ∃ scaled : ℤ, ((coefficient : ℚ) * 10 ^ exponent) /
        10 ^ lastPlace ((coefficient : ℚ) * 10 ^ exponent) = scaled := by
    by_cases zero : coefficient = 0
    · exact ⟨0, by simp [zero]⟩
    rcases digits.lt_or_eq with fewer | full
    · have place := lastPlace_le exponent zero fewer
      generalize lastPlace ((coefficient : ℚ) * 10 ^ exponent) = last at place
      obtain ⟨shift, rfl⟩ := Int.exists_add_of_le place
      refine ⟨coefficient * 10 ^ shift, ?_⟩
      rw [zpow_add₀ (by norm_num), zpow_natCast]
      have := (tenZpow_pos last).ne'
      push_cast
      field_simp
    · have magnitude :
          |(coefficient : ℚ) * 10 ^ exponent| = ((10 : ℕ) : ℚ) ^ (28 + exponent) := by
        rw [abs_mul, abs_of_pos (tenZpow_pos exponent), Nat.cast_ofNat, zpow_add₀ (by norm_num)]
        congr 1
        exact_mod_cast full
      have place : lastPlace ((coefficient : ℚ) * 10 ^ exponent) = exponent + 1 := by
        rw [lastPlace, magnitude, Int.log_zpow (by norm_num)]
        omega
      refine ⟨coefficient / 10, ?_⟩
      have tenDvd : (10 : ℤ) ∣ coefficient := by
        rw [← dvd_abs, full]
        exact dvd_pow_self 10 (by norm_num)
      rw [place, Int.cast_div tenDvd (by norm_num), zpow_add₀ (by norm_num)]
      have := (tenZpow_pos exponent).ne'
      field_simp
      norm_num
  obtain ⟨scaled, scaledEq⟩ := multiple
  unfold round28
  rw [scaledEq, roundHalfEven_intCast, ← scaledEq]
  exact div_mul_cancel₀ _ (tenZpow_pos _).ne'

private theorem scaled_bounds (positive : 0 < value) :
    (10 : ℚ) ^ 27 ≤ value / 10 ^ lastPlace value ∧ value / 10 ^ lastPlace value < 10 ^ 28 := by
  have lower := Int.zpow_log_le_self (b := 10) (by norm_num) positive
  have upper := Int.lt_zpow_succ_log_self (b := 10) (by norm_num) value
  rw [Nat.cast_ofNat] at lower upper
  unfold lastPlace
  rw [abs_of_pos positive, le_div_iff₀ (tenZpow_pos _),
    div_lt_iff₀ (tenZpow_pos _), ← zpow_natCast, ← zpow_natCast,
    ← zpow_add₀ (by norm_num), ← zpow_add₀ (by norm_num)]
  constructor
  · convert lower using 2
    push_cast
    ring
  · convert upper using 2
    push_cast
    ring

private theorem scaled_round_bounds (positive : 0 < value) :
    10 ^ 27 ≤ roundHalfEven (value / 10 ^ lastPlace value) ∧
      roundHalfEven (value / 10 ^ lastPlace value) ≤ 10 ^ 28 := by
  obtain ⟨lower, upper⟩ := scaled_bounds positive
  constructor
  · have rounded := roundHalfEven_mono (a := ((10 ^ 27 : ℤ) : ℚ)) (by push_cast; exact lower)
    rwa [roundHalfEven_intCast] at rounded
  · have rounded := roundHalfEven_mono (b := ((10 ^ 28 : ℤ) : ℚ)) (by push_cast; exact upper.le)
    rwa [roundHalfEven_intCast] at rounded

theorem round28_pos (positive : 0 < value) : 0 < round28 value := by
  have lower := (scaled_round_bounds positive).1
  have coefficientPos : (0 : ℚ) < roundHalfEven (value / 10 ^ lastPlace value) := by
    exact_mod_cast lt_of_lt_of_le (by norm_num : (0 : ℤ) < 10 ^ 27) lower
  exact mul_pos coefficientPos (tenZpow_pos _)

private theorem round28_round28_of_pos (positive : 0 < value) :
    round28 (round28 value) = round28 value := by
  obtain ⟨_, upper⟩ := scaled_round_bounds positive
  exact round28_fixed (lastPlace value)
    (abs_le.mpr ⟨by linarith [pow_pos (by norm_num : (0 : ℤ) < 10) 27], upper⟩)

theorem round28_round28 (value : ℚ) : round28 (round28 value) = round28 value := by
  rcases lt_trichotomy value 0 with negative | rfl | positive
  · have mirrored := round28_round28_of_pos (neg_pos.mpr negative)
    rw [round28_neg, round28_neg] at mirrored
    exact neg_injective mirrored
  · simp
  · exact round28_round28_of_pos positive

private theorem round28_mono_of_pos
    {left right : ℚ} (positive : 0 < left) (ordered : left ≤ right) :
    round28 left ≤ round28 right := by
  have rightPositive := lt_of_lt_of_le positive ordered
  have places : lastPlace left ≤ lastPlace right := by
    unfold lastPlace
    rw [abs_of_pos positive, abs_of_pos rightPositive]
    have := Int.log_mono_right (b := 10) positive ordered
    omega
  rcases places.lt_or_eq with _ | samePlace
  · -- Different decades are separated by the power of ten between them.
    have leftUpper := (scaled_round_bounds positive).2
    have rightLower := (scaled_round_bounds rightPositive).1
    calc
      round28 left ≤ (10 ^ 28 : ℤ) * 10 ^ lastPlace left :=
        mul_le_mul_of_nonneg_right (by exact_mod_cast leftUpper) (tenZpow_pos _).le
      _ = 10 ^ (28 + lastPlace left) := by
        rw [zpow_add₀ (by norm_num)]
        norm_num
      _ ≤ 10 ^ (27 + lastPlace right) := zpow_le_zpow_right₀ (by norm_num) (by omega)
      _ = (10 ^ 27 : ℤ) * 10 ^ lastPlace right := by
        rw [zpow_add₀ (by norm_num)]
        norm_num
      _ ≤ round28 right :=
        mul_le_mul_of_nonneg_right (by exact_mod_cast rightLower) (tenZpow_pos _).le
  · unfold round28
    rw [samePlace]
    have scaledOrdered : left / 10 ^ lastPlace right ≤ right / 10 ^ lastPlace right :=
      div_le_div_of_nonneg_right ordered (tenZpow_pos _).le
    exact mul_le_mul_of_nonneg_right
      (by exact_mod_cast roundHalfEven_mono scaledOrdered) (tenZpow_pos _).le

theorem round28_mono : Monotone round28 := by
  intro left right ordered
  rcases lt_trichotomy left 0 with leftNegative | rfl | leftPositive
  · rcases lt_or_ge right 0 with rightNegative | rightNonneg
    · have mirrored := round28_mono_of_pos (neg_pos.mpr rightNegative) (neg_le_neg ordered)
      rw [round28_neg, round28_neg] at mirrored
      exact neg_le_neg_iff.mp mirrored
    · have leftRounded := round28_pos (neg_pos.mpr leftNegative)
      rw [round28_neg] at leftRounded
      have rightRounded : 0 ≤ round28 right := by
        rcases rightNonneg.lt_or_eq with positive | rfl
        · exact (round28_pos positive).le
        · simp
      linarith
  · rcases ordered.lt_or_eq with positive | rfl
    · simpa using (round28_pos positive).le
    · exact le_rfl
  · exact round28_mono_of_pos leftPositive ordered

/-- How the results of arithmetic are rounded, and which coefficients
`quantize` accepts.  The laws are the ones every monotone correctly rounded
arithmetic without underflow has. -/
structure DecimalContext where
  round : ℚ → ℚ
  fits : ℤ → Bool
  round_mono : Monotone round
  round_zero : round 0 = 0
  round_neg : ∀ value : ℚ, round (-value) = -round value
  round_pos : ∀ {value : ℚ}, 0 < value → 0 < round value
  round_round : ∀ value : ℚ, round (round value) = round value

namespace DecimalContext

def exact : DecimalContext where
  round value := value
  fits _ := true
  round_mono := monotone_id
  round_zero := rfl
  round_neg _ := rfl
  round_pos positive := positive
  round_round _ := rfl

/-- The default decimal context: 28 significant digits, ties to even. -/
def decimal28 : DecimalContext where
  round := round28
  fits coefficient := decide (|coefficient| < 10 ^ 28)
  round_mono := round28_mono
  round_zero := round28_zero
  round_neg := round28_neg
  round_pos := round28_pos
  round_round := round28_round28

variable (context : DecimalContext)

def add (left right : ℚ) : ℚ := context.round (left + right)

def sub (left right : ℚ) : ℚ := context.round (left - right)

def mul (left right : ℚ) : ℚ := context.round (left * right)

def div (left right : ℚ) : ℚ := context.round (left / right)

/-- A running sum from zero, rounded after every addition. -/
def sum (values : List ℚ) : ℚ := values.foldl context.add 0

/-- Rescale to the exponent of `quantum`, ties away from zero; `none` when the
rescaled coefficient has too many digits. -/
def quantize (value : ℚ) (quantum : Decimal) : Option ℚ :=
  let coefficient := roundHalfUp (value / 10 ^ quantum.exponent)
  if context.fits coefficient then
    some (coefficient * 10 ^ quantum.exponent)
  else none

/-! ### Exact arithmetic computes the rational operations -/

@[simp] theorem exact_add (left right : ℚ) : exact.add left right = left + right := rfl

@[simp] theorem exact_sub (left right : ℚ) : exact.sub left right = left - right := rfl

@[simp] theorem exact_mul (left right : ℚ) : exact.mul left right = left * right := rfl

@[simp] theorem exact_div (left right : ℚ) : exact.div left right = left / right := rfl

@[simp] theorem exact_sum (values : List ℚ) : exact.sum values = values.sum :=
  List.sum_eq_foldl.symm

variable {value left right start result : ℚ} {values : List ℚ} {quantum : Decimal}

theorem round_nonneg (nonneg : 0 ≤ value) : 0 ≤ context.round value := by
  simpa [context.round_zero] using context.round_mono nonneg

theorem nonneg_add (leftNonneg : 0 ≤ left) (rightNonneg : 0 ≤ right) : 0 ≤ context.add left right :=
  context.round_nonneg (add_nonneg leftNonneg rightNonneg)

theorem add_pos_of_pos (leftPos : 0 < left)
    (rightNonneg : 0 ≤ right) : 0 < context.add left right :=
  context.round_pos (add_pos_of_pos_of_nonneg leftPos rightNonneg)

theorem mul_pos_of_pos (leftPos : 0 < left) (rightPos : 0 < right) : 0 < context.mul left right :=
  context.round_pos (mul_pos leftPos rightPos)

private theorem foldl_add_nonneg (nonneg : ∀ value ∈ values, 0 ≤ value) (startNonneg : 0 ≤ start) :
    0 ≤ values.foldl context.add start := by
  induction values generalizing start with
  | nil => exact startNonneg
  | cons head tail ih =>
    exact ih (fun value mem => nonneg value (List.mem_cons_of_mem _ mem))
      (context.nonneg_add startNonneg (nonneg head (by simp)))

theorem sum_nonneg (nonneg : ∀ value ∈ values, 0 ≤ value) : 0 ≤ context.sum values :=
  context.foldl_add_nonneg nonneg le_rfl

theorem quantize_eq_some (quantized : context.quantize value quantum = some result) :
    ∃ coefficient : ℤ,
      context.fits coefficient = true ∧ coefficient = roundHalfUp (value / 10 ^ quantum.exponent) ∧
        result = coefficient * 10 ^ quantum.exponent := by
  unfold quantize at quantized
  simp only [Option.ite_none_right_eq_some, Option.some.injEq] at quantized
  exact ⟨_, quantized.1, rfl, quantized.2.symm⟩

theorem quantize_quantized (quantized : context.quantize value quantum = some result) :
    context.quantize result quantum = some result := by
  obtain ⟨_, fits, -, rfl⟩ := context.quantize_eq_some quantized
  unfold quantize
  rw [mul_div_cancel_right₀ _ (tenZpow_pos _).ne', roundHalfUp_intCast]
  simp [fits]

end DecimalContext

end RQuant.Foundation
