import RQuant.Foundation.Decimal
import RQuant.Foundation.Table

/-!
# Industry exposure

`calculate_industry_exposure` reports the deviation of every weight from its
benchmark.  The weights are compared as fractions; a deviation goes back to a
decimal with a precision taken from the lengths of the two terms of the
fraction.
-/

namespace RQuant.Portfolio

open Foundation List

structure Weights where
  (portfolioWeight benchmarkWeight : Decimal)

def Weights.difference (weights : Weights) : ℚ :=
  weights.portfolioWeight.toRat - weights.benchmarkWeight.toRat

structure IndustryWeight extends Weights where
  industryL1 : Option String

/-- An input that `validate_weights` accepts; no weight is above 1, since the
totals are 1. -/
structure ExposureInput where
  industries : List IndustryWeight
  (portfolioCashWeight benchmarkCashWeight : Decimal)
  unique : (industries.map IndustryWeight.industryL1).Nodup
  nonzero : ∀ item ∈ industries, ¬ (item.portfolioWeight.toRat = 0 ∧ item.benchmarkWeight.toRat = 0)
  portfolioTotal : portfolioCashWeight.toRat + (industries.map (·.portfolioWeight.toRat)).sum = 1
  benchmarkTotal : benchmarkCashWeight.toRat + (industries.map (·.benchmarkWeight.toRat)).sum = 1

def ExposureInput.cash (spec : ExposureInput) : Weights :=
  ⟨spec.portfolioCashWeight, spec.benchmarkCashWeight⟩

inductive SliceKind
  | industry
  | unknown
  | cash
  deriving DecidableEq

structure ExposureSlice extends Weights where
  kind : SliceKind
  industryL1 : Option String
  deviation : ℚ

inductive ExposureError
  | value (message : String)

def digitCount (integer : ℕ) : ℕ := Nat.log 10 integer + 1

/-- The length of the text of a positive integer; a longer text is refused. -/
def strLength (integer : ℕ) : Except ExposureError ℕ := do
  require (digitCount integer ≤ 4300)
    (.value "Exceeds the limit (4300 digits) for integer string conversion")
  pure (digitCount integer)

/-- The exponent of the last of so many significant digits. -/
def placeOf (precision : ℕ) (value : ℚ) : ℤ := Int.log 10 |value| + 1 - precision

/-- A division in a context of the precision. -/
def roundTo (precision : ℕ) (value : ℚ) : ℚ :=
  roundHalfEven (value / 10 ^ placeOf precision value) * 10 ^ placeOf precision value

def exactDecimal (value : ℚ) : Except ExposureError ℚ :=
  if value = 0 then pure 0
  else do
    let numerator ← strLength value.num.natAbs
    let denominator ← strLength value.den
    pure (roundTo (numerator + denominator + 10) value)

def exposureSlice (kind : SliceKind) (industryL1 : Option String) (weights : Weights) :
    Except ExposureError ExposureSlice := do
  let deviation ← exactDecimal weights.difference
  pure { toWeights := weights, kind, industryL1, deviation }

def ExposureInput.orderedIndustries (spec : ExposureInput) : List IndustryWeight :=
  sortOn (fun item => toLex (item.industryL1.isNone, item.industryL1.getD "")) spec.industries

def calculateIndustryExposure (spec : ExposureInput) :
    Except ExposureError (List ExposureSlice) := do
  let rows ← spec.orderedIndustries.mapM fun item =>
    exposureSlice (if item.industryL1.isNone then .unknown else .industry) item.industryL1
      item.toWeights
  let cash ← exposureSlice .cash none spec.cash
  pure (rows ++ [cash])

/-- Every row has its exact deviation, so that the deviations add up to nothing. -/
def ExactExposure (spec : ExposureInput) : Prop :=
  ∃ rows, calculateIndustryExposure spec = .ok rows ∧
    (∀ row ∈ rows, row.deviation = row.difference) ∧
    (rows.map ExposureSlice.deviation).sum = 0

/-- The texts of the terms are not refused, and the digits that their lengths
leave reach the last place of the value. -/
def Expands (value : ℚ) : Prop :=
  value ≠ 0 → digitCount value.num.natAbs ≤ 4300 ∧ digitCount value.den ≤ 4300 ∧
    (value / 10 ^ placeOf (digitCount value.num.natAbs + digitCount value.den + 10) value).den = 1
  deriving Decidable

variable {value : ℚ} {kind : SliceKind} {industryL1 : Option String}

theorem roundTo_eq_self_iff {precision : ℕ} :
    roundTo precision value = value ↔ (value / 10 ^ placeOf precision value).den = 1 := by
  have scale : (10 : ℚ) ^ placeOf precision value ≠ 0 := by positivity
  rw [roundTo, ← eq_div_iff scale]
  constructor
  · intro same
    rw [← same]
    rfl
  · intro whole
    rw [← Rat.coe_int_num_of_den_eq_one whole, roundHalfEven_intCast]

theorem exactDecimal_eq_ok_iff : exactDecimal value = .ok value ↔ Expands value := by
  unfold exactDecimal Expands strLength
  by_cases zero : value = 0
  · simp [zero]
  · simp only [if_neg zero, run_eq_ok]
    simp [zero, roundTo_eq_self_iff]

theorem exposureSlice_eq_ok {weights : Weights} (expands : Expands weights.difference) :
    exposureSlice kind industryL1 weights =
      .ok ⟨weights, kind, industryL1, weights.difference⟩ := by
  rw [exposureSlice, exactDecimal_eq_ok_iff.mpr expands]
  rfl

theorem expands_of_exposureSlice {weights : Weights}
    (sliced : exposureSlice kind industryL1 weights = .ok row)
    (exact : row.deviation = row.difference) : Expands weights.difference := by
  simp only [exposureSlice, run_eq_ok] at sliced
  obtain ⟨deviation, divided, rfl⟩ := sliced
  have same : deviation = weights.difference := exact
  exact exactDecimal_eq_ok_iff.mp (same ▸ divided)

theorem ExactExposure.expands (reported : ExactExposure spec) :
    (∀ item ∈ spec.industries, Expands item.difference) ∧ Expands spec.cash.difference := by
  obtain ⟨rows, calculated, exact, -⟩ := reported
  simp only [calculateIndustryExposure, run_eq_ok] at calculated
  obtain ⟨listed, mapped, cash, cashSlice, rfl⟩ := calculated
  constructor
  · intro item mem
    obtain ⟨row, rowMem, sliced⟩ := exists_of_mapM_eq_ok mapped (mem_sortOn.mpr mem)
    exact expands_of_exposureSlice sliced (exact row (mem_append_left _ rowMem))
  · exact expands_of_exposureSlice cashSlice (exact cash (by simp))

/-- Both totals are 1. -/
theorem ExposureInput.sum_difference (spec : ExposureInput) :
    (spec.industries.map (·.difference)).sum + spec.cash.difference = 0 := by
  have portfolio := spec.portfolioTotal
  have benchmark := spec.benchmarkTotal
  have industries : (spec.industries.map (·.difference)).sum +
      (spec.industries.map (·.benchmarkWeight.toRat)).sum =
        (spec.industries.map (·.portfolioWeight.toRat)).sum := by
    rw [← sum_map_add]
    simp [Weights.difference]
  rw [cash, Weights.difference]
  linarith

/-- The deviations are exact, and add up to nothing, when the precision of every
row reaches its last place, and only then. -/
theorem exactExposure_iff (spec : ExposureInput) : ExactExposure spec ↔
    (∀ item ∈ spec.industries, Expands item.difference) ∧ Expands spec.cash.difference := by
  refine ⟨ExactExposure.expands, ?_⟩
  rintro ⟨industries, cash⟩
  refine ⟨_, bind_eq_ok.mpr ⟨_, mapM_eq_ok fun item mem =>
    exposureSlice_eq_ok (industries item (mem_sortOn.mp mem)),
    bind_eq_ok.mpr ⟨_, exposureSlice_eq_ok cash, rfl⟩⟩, ?_, ?_⟩
  · rw [forall_mem_concat, forall_mem_map]
    exact ⟨fun _ _ => rfl, rfl⟩
  · rw [map_append, map_map, sum_append, map_singleton, sum_singleton]
    refine (congrArg (· + _) ((perm_sortOn spec.industries).map _).sum_eq).trans ?_
    exact spec.sum_difference

def singleIndustry (weights cash : Weights)
    (portfolioTotal : cash.portfolioWeight.toRat + weights.portfolioWeight.toRat = 1)
    (benchmarkTotal : cash.benchmarkWeight.toRat + weights.benchmarkWeight.toRat = 1)
    (positive : 0 < weights.portfolioWeight.toRat) : ExposureInput where
  industries := [⟨weights, some "银行"⟩]
  portfolioCashWeight := cash.portfolioWeight
  benchmarkCashWeight := cash.benchmarkWeight
  unique := nodup_singleton _
  nonzero := by simp [positive.ne']
  portfolioTotal := by simpa using portfolioTotal
  benchmarkTotal := by simpa using benchmarkTotal

/-- Weights of one decimal place. -/
theorem exactExposure_coarse : ExactExposure (singleIndustry ⟨⟨6, -1⟩, ⟨5, -1⟩⟩ ⟨⟨4, -1⟩, ⟨5, -1⟩⟩
    (by norm_num [Decimal.toRat]) (by norm_num [Decimal.toRat]) (by norm_num [Decimal.toRat])) :=
  (exactExposure_iff _).mpr (by decide +kernel)

/-- A weight of 2⁻⁴⁰ has 28 digits; the lengths of its terms leave 24. -/
theorem not_exactExposure_fine :
    ¬ ExactExposure (singleIndustry ⟨⟨9094947017729282379150390625, -40⟩, ⟨0, 0⟩⟩
      ⟨⟨9999999999990905052982270717620849609375, -40⟩, ⟨1, 0⟩⟩
      (by norm_num [Decimal.toRat]) (by norm_num [Decimal.toRat]) (by norm_num [Decimal.toRat])) :=
  fun reported => absurd (reported.expands.1 _ (mem_singleton_self _)) (by decide +kernel)

end RQuant.Portfolio
