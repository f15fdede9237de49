import RQuant.Paper.OrderCosts

/-!
# The identity of a cost contract

`canonical_json` keeps the numbers of a contract and not how they are written.
The cost engine rounds to the exponents of `price_tick` and `quantum`: contracts
with one identity price alike when these two are written alike.
-/

namespace RQuant.Paper

open Foundation List

/-- The digits before and after the point, lowest first. -/
def positional (digits : List ℕ) (exponent : ℤ) : List ℕ × List ℕ :=
  let places := (-exponent).toNat
  if 0 ≤ exponent then (replicate exponent.toNat 0 ++ digits, [])
  else if places < digits.length then (digits.drop places, digits.take places)
  else ([0], digits ++ replicate (places - digits.length) 0)

/-- `_canonical_decimal`; its limits were checked when the decimal was parsed. -/
def canonicalDecimal (value : Decimal) : List ℕ × List ℕ :=
  let digits := Nat.digits 10 value.coefficient
  if value.coefficient = 0 then ([0], [])
  else
    positional (digits.dropWhile (· = 0)) (value.exponent + (digits.takeWhile (· = 0)).length)

def writtenValue (text : List ℕ × List ℕ) : ℚ :=
  (Nat.ofDigits 10 text.1 : ℕ) + (Nat.ofDigits 10 text.2 : ℕ) / 10 ^ text.2.length

theorem writtenValue_positional (digits : List ℕ) (exponent : ℤ) :
    writtenValue (positional digits exponent) = (Nat.ofDigits 10 digits : ℕ) * 10 ^ exponent := by
  by_cases whole : 0 ≤ exponent
  · obtain ⟨places, rfl⟩ := Int.eq_ofNat_of_zero_le whole
    simp [writtenValue, positional, Nat.ofDigits_append, mul_comm]
  · obtain ⟨places, rfl⟩ : ∃ places : ℕ, exponent = -places := ⟨(-exponent).toNat, by omega⟩
    by_cases inner : places < digits.length
    · have length := length_take_of_le inner.le
      rw [← take_append_drop places digits, Nat.ofDigits_append, length, take_append_drop]
      simp only [writtenValue, positional, whole, inner, neg_neg, Int.toNat_natCast, if_false,
        if_true, length, zpow_neg, zpow_natCast]
      push_cast
      field_simp
      ring
    · have length : (digits ++ replicate (places - digits.length) 0).length = places := by
        simp
        omega
      simp only [writtenValue, positional, whole, inner, neg_neg, Int.toNat_natCast, if_false,
        length, Nat.ofDigits_append_replicate_zero, zpow_neg, zpow_natCast]
      simp [div_eq_mul_inv]

theorem ofDigits_dropWhile (digits : List ℕ) : Nat.ofDigits 10 digits =
    10 ^ (digits.takeWhile (· = 0)).length * Nat.ofDigits 10 (digits.dropWhile (· = 0)) := by
  induction digits with
  | nil => rfl
  | cons digit rest ih =>
    by_cases zero : digit = 0
    · simp only [Nat.ofDigits_cons, ih, zero, decide_true, takeWhile_cons_of_pos,
        dropWhile_cons_of_pos, length_cons]
      ring
    · simp [zero]

theorem writtenValue_canonicalDecimal (value : Decimal) :
    writtenValue (canonicalDecimal value) = value.toRat := by
  have stripped := ofDigits_dropWhile (Nat.digits 10 value.coefficient)
  rw [Nat.ofDigits_digits] at stripped
  unfold canonicalDecimal
  split
  · rename_i zero
    simp [zero, writtenValue, Decimal.toRat]
  · rw [writtenValue_positional, Decimal.toRat, zpow_add₀ (by norm_num), zpow_natCast]
    nth_rewrite 3 [stripped]
    push_cast
    ring

section

variable {left right : Decimal} (same : canonicalDecimal left = canonicalDecimal right)

include same

theorem toRat_eq_of_canonicalDecimal : left.toRat = right.toRat := by
  rw [← writtenValue_canonicalDecimal, same, writtenValue_canonicalDecimal]

theorem eq_of_canonicalDecimal (exponent : left.exponent = right.exponent) : left = right := by
  have number := toRat_eq_of_canonicalDecimal same
  unfold Decimal.toRat at number
  rw [exponent] at number
  have coefficient := mul_right_cancel₀ (by positivity) number
  cases left
  cases right
  simp_all

end

def ExecutionCostFeeRule.canonicalValue (rule : ExecutionCostFeeRule) :=
  (rule.ruleId, rule.selectorId, canonicalDecimal rule.rateBps,
    canonicalDecimal rule.minimumAmount, rule.appliesTo)

/-- What `canonical_json` writes, without the fields that have one value only;
different values are written differently. -/
def ExecutionCostSpec.canonicalValue (spec : ExecutionCostSpec) :=
  (spec.costEngineVersion, spec.instrumentSelectors, spec.commissionRules.map (·.canonicalValue),
    spec.transferFeeRules.map (·.canonicalValue), spec.stampDutyRules.map (·.canonicalValue),
    canonicalDecimal spec.slippage.buyBps, canonicalDecimal spec.slippage.sellBps,
    canonicalDecimal spec.slippage.priceTick, canonicalDecimal spec.money.quantum)

def ExecutionCostCalculation.amounts (calculation : ExecutionCostCalculation) : List ℚ :=
  [calculation.executedPrice, calculation.referenceNotional, calculation.executedNotional,
    calculation.commission, calculation.transferFee, calculation.stampDuty,
    calculation.slippageAmount, calculation.totalFees]

theorem ruleFor_congr {left right : List ExecutionCostFeeRule}
    (same : left.map (·.canonicalValue) = right.map (·.canonicalValue)) :
    (ruleFor left selectorId component).map (·.canonicalValue) =
      (ruleFor right selectorId component).map (·.canonicalValue) := by
  have filtered := congrArg (filter fun value => value.2.1 = selectorId) same
  rw [filter_map, filter_map] at filtered
  unfold ruleFor
  change (left.filter fun rule => rule.selectorId = selectorId).map _ =
    (right.filter fun rule => rule.selectorId = selectorId).map _ at filtered
  generalize left.filter _ = ours at *
  generalize right.filter _ = theirs at *
  rcases ours with _ | ⟨_, _ | _⟩ <;> rcases theirs with _ | ⟨_, _ | _⟩ <;>
    first | rfl | exact congrArg Except.ok (cons.inj filtered).1 | simp at filtered

section

variable {left right : ExecutionCostFeeRule} (same : left.canonicalValue = right.canonicalValue)

include same

theorem ruleId_congr : left.ruleId = right.ruleId := congrArg Prod.fst same

theorem v3FeeAmount_congr : v3FeeAmount arithmetic left = v3FeeAmount arithmetic right := by
  simp only [ExecutionCostFeeRule.canonicalValue, Prod.mk.injEq] at same
  obtain ⟨-, -, rate, minimum, appliesTo⟩ := same
  funext side notional quantum
  simp only [v3FeeAmount, ExecutionCostFeeRule.appliesToSide, appliesTo,
    toRat_eq_of_canonicalDecimal rate, toRat_eq_of_canonicalDecimal minimum]
  rfl

end

/-- Contracts with the same identity, and with `price_tick` and `quantum` written
with the same exponents, price every order alike. -/
theorem cost_identity_determines_amounts (arithmetic : DecimalContext) (digests : CostDigests)
    (left right : ExecutionCostSpec) (same : left.canonicalValue = right.canonicalValue)
    (tick : left.slippage.priceTick.exponent = right.slippage.priceTick.exponent)
    (quantum : left.money.quantum.exponent = right.money.quantum.exponent)
    (order : ExecutionCostOrderInput) (context : InstrumentContext) :
    (calculateExecutionCosts arithmetic digests left order context).map (·.amounts) =
      (calculateExecutionCosts arithmetic digests right order context).map (·.amounts) := by
  simp only [ExecutionCostSpec.canonicalValue, Prod.mk.injEq] at same
  obtain ⟨-, selectors, commissions, transfers, stamps, buy, sell, sameTick, sameQuantum⟩ := same
  unfold calculateExecutionCosts
  rw [selectors, eq_of_canonicalDecimal sameTick tick, eq_of_canonicalDecimal sameQuantum quantum,
    toRat_eq_of_canonicalDecimal buy, toRat_eq_of_canonicalDecimal sell]
  refine map_bind_same fun _ => map_bind_same fun selector => ?_
  refine map_bind_congr (ruleFor_congr commissions) fun _ _ commission => ?_
  refine map_bind_congr (ruleFor_congr transfers) fun _ _ transfer => ?_
  refine map_bind_congr (ruleFor_congr stamps) fun _ _ stamp => ?_
  rw [v3FeeAmount_congr commission, v3FeeAmount_congr transfer, v3FeeAmount_congr stamp,
    ruleId_congr commission, ruleId_congr transfer, ruleId_congr stamp]
  -- what is left differs in the two digests of the result only
  refine map_bind_same fun _ => map_bind_same fun _ => map_bind_same fun _ => ?_
  refine map_bind_same fun _ => map_bind_same fun _ => map_bind_same fun _ => ?_
  exact map_bind_same fun _ => rfl

namespace Sample

def pricedBy (spec : ExecutionCostSpec) : Except BrokerError (List ℚ) :=
  (calculateExecutionCosts .decimal28 digests.toCostDigests spec ⟨.buy, ⟨1005, -2⟩, 100⟩
    instrument).map (·.amounts)

end Sample

/-- A minimum written as 5 and as 5.0. -/
theorem cost_identity_determines_amounts_sample :
    Sample.costSpec ⟨5, 0⟩ ≠ Sample.costSpec ⟨50, -1⟩ ∧
      Sample.pricedBy (Sample.costSpec ⟨5, 0⟩) = Sample.pricedBy (Sample.costSpec ⟨50, -1⟩) :=
  ⟨by decide,
    cost_identity_determines_amounts _ _ (Sample.costSpec ⟨5, 0⟩) (Sample.costSpec ⟨50, -1⟩) rfl rfl
      rfl _ _⟩

/-- With the tick written as 0.1 the price 10.05 is executed at 10.1, with 0.10
at 10.05. -/
theorem equal_identity_prices_differently :
    (Sample.tickSpec ⟨1, -1⟩).validateVersionedContract = .ok () ∧
      (Sample.tickSpec ⟨10, -2⟩).validateVersionedContract = .ok () ∧
      (Sample.tickSpec ⟨1, -1⟩).canonicalValue = (Sample.tickSpec ⟨10, -2⟩).canonicalValue ∧
      (Sample.pricedBy (Sample.tickSpec ⟨1, -1⟩)).toOption.bind head? = some (101 / 10) ∧
      (Sample.pricedBy (Sample.tickSpec ⟨10, -2⟩)).toOption.bind head? = some (201 / 20) :=
  ⟨by decide +kernel, by decide +kernel, rfl, by decide +kernel, by decide +kernel⟩

end RQuant.Paper
