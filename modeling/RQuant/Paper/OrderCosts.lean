import RQuant.Paper.Conservation

/-!
# Prices of single orders

`_quantize` rounds to the last decimal place of its quantum.  A price is
therefore a multiple of a tick only when the tick is a power of ten, and it may
be rounded to zero: the v3 engine checks its price after rounding,
`calculate_slipped_price` before.
-/

namespace RQuant.Paper

open Foundation

section

variable (arithmetic : DecimalContext)

/-- `reference_price * (1 + direction * slippage_bps / BPS_SCALE)`. -/
def slippedPrice (side : Side) (referencePrice slippageBps : ℚ) : ℚ :=
  let direction : ℚ := match side with
    | .buy => 1
    | .sell => -1
  arithmetic.mul referencePrice
    (arithmetic.add 1 (arithmetic.div (arithmetic.mul direction slippageBps) bpsScale))

end

variable {arithmetic : DecimalContext} {fee price result value : ℚ} {side : Side}

theorem quantizeMoney_eq_ok {quantum : Decimal} :
    quantizeMoney arithmetic value quantum = .ok result ↔
      0 < quantum.coefficient ∧ arithmetic.quantize value quantum = some result := by
  simp only [run_eq_ok, quantizeMoney, orRaise_eq_ok]

/-- A price an order can be executed at, with fees that add up. -/
def Executable (arithmetic : DecimalContext)
    (executedPrice commission transferFee stampDuty fees : ℚ) : Prop :=
  0 < executedPrice ∧ 0 ≤ commission ∧ 0 ≤ transferFee ∧ 0 ≤ stampDuty ∧
    fees = arithmetic.add (arithmetic.add commission transferFee) stampDuty

def ExecutionCostSlippage.bps (slippage : ExecutionCostSlippage) : Side → Decimal
  | .buy => slippage.buyBps
  | .sell => slippage.sellBps

/-- A whole number of units. -/
def MultipleOf (unit : Decimal) (value : ℚ) : Prop := ∃ count : ℤ, value = count * unit.toRat

/-- A price on the tick nearest to the slipped price, never better than a
reference price that is on the tick, and fees in whole units of the quantum. -/
structure TickLaw (spec : ExecutionCostSpec) (order : ExecutionCostOrderInput)
    (calculation : ExecutionCostCalculation) : Prop where
  price : MultipleOf spec.slippage.priceTick calculation.executedPrice
  nearest :
    |calculation.executedPrice -
        slippedPrice .exact order.side order.referencePrice.toRat
          (spec.slippage.bps order.side).toRat| ≤
      spec.slippage.priceTick.toRat / 2
  fees : ∀ fee ∈ [calculation.commission, calculation.transferFee, calculation.stampDuty],
    MultipleOf spec.money.quantum fee
  direction : MultipleOf spec.slippage.priceTick order.referencePrice.toRat →
      match order.side with
      | .buy => order.referencePrice.toRat ≤ calculation.executedPrice
      | .sell => calculation.executedPrice ≤ order.referencePrice.toRat

theorem quantizeMoney_unit {quantum : Decimal} (isUnit : quantum.coefficient = 1)
    (rounded : quantizeMoney arithmetic value quantum = .ok result) :
    result = roundHalfUp (value / quantum.toRat) * quantum.toRat := by
  obtain ⟨_, -, rfl, rfl⟩ := arithmetic.quantize_eq_some (quantizeMoney_eq_ok.mp rounded).2
  rw [Decimal.toRat, isUnit, Nat.cast_one, one_mul]

theorem v3FeeAmount_multiple (isUnit : quantum.coefficient = 1)
    (charged : v3FeeAmount arithmetic rule side notional quantum = .ok fee) :
    MultipleOf quantum fee := by
  unfold v3FeeAmount at charged
  split at charged <;> exact ⟨_, quantizeMoney_unit isUnit charged⟩

/-- The ticks are powers of ten and the slipped price needs no rounding. -/
structure ExactTicks (arithmetic : DecimalContext) (spec : ExecutionCostSpec)
    (order : ExecutionCostOrderInput) : Prop where
  priceTick : spec.slippage.priceTick.coefficient = 1
  quantum : spec.money.quantum.coefficient = 1
  slipped : slippedPrice arithmetic order.side order.referencePrice.toRat
      (spec.slippage.bps order.side).toRat =
    slippedPrice .exact order.side order.referencePrice.toRat (spec.slippage.bps order.side).toRat

/-- With a unit tick, a unit quantum and an exact slipped price the execution
keeps the law of ticks. -/
theorem execution_tick_law {spec : ExecutionCostSpec} {order : ExecutionCostOrderInput}
    {digests : CostDigests} {context : InstrumentContext} {calculation : ExecutionCostCalculation}
    (ticks : ExactTicks arithmetic spec order)
    (calculated : calculateExecutionCosts arithmetic digests spec order context = .ok calculation) :
    TickLaw spec order calculation := by
  simp only [run_eq_ok, calculateExecutionCosts] at calculated
  obtain ⟨-, _, -, _, -, _, -, _, -, price, rounded, -, commission, commissionEq, transferFee,
    transferEq, stampDuty, stampEq, _, -, -, rfl⟩ := calculated
  set exactPrice := slippedPrice .exact order.side order.referencePrice.toRat
    (spec.slippage.bps order.side).toRat with exactPriceEq
  have slipped : quantizeMoney arithmetic exactPrice spec.slippage.priceTick = .ok price := by
    rw [exactPriceEq, ← ticks.slipped, ← rounded]
    cases side : order.side <;> simp only [slippedPrice, ExecutionCostSlippage.bps]
  have tick : 0 < spec.slippage.priceTick.toRat := by
    rw [Decimal.toRat, ticks.priceTick]
    positivity
  have priceEq := quantizeMoney_unit ticks.priceTick slipped
  constructor
  · exact ⟨_, priceEq⟩
  · have near := abs_roundHalfUp_sub_le (exactPrice / spec.slippage.priceTick.toRat)
    calc
      |price - exactPrice| =
          |roundHalfUp (exactPrice / spec.slippage.priceTick.toRat) -
            exactPrice / spec.slippage.priceTick.toRat| * spec.slippage.priceTick.toRat := by
        rw [priceEq, ← abs_of_pos tick, ← abs_mul, abs_of_pos tick, sub_mul,
          div_mul_cancel₀ _ tick.ne']
      _ ≤ 1 / 2 * spec.slippage.priceTick.toRat := mul_le_mul_of_nonneg_right near tick.le
      _ = spec.slippage.priceTick.toRat / 2 := by ring
  · intro fee mem
    simp only [List.mem_cons, List.not_mem_nil, or_false] at mem
    rcases mem with rfl | rfl | rfl
    · exact v3FeeAmount_multiple ticks.quantum commissionEq
    · exact v3FeeAmount_multiple ticks.quantum transferEq
    · exact v3FeeAmount_multiple ticks.quantum stampEq
  · rintro ⟨count, multiple⟩
    have reference := order.referencePrice.toRat_nonneg
    have bps := (spec.slippage.bps order.side).toRat_nonneg
    dsimp only
    cases side : order.side with
    | buy =>
      have slips : order.referencePrice.toRat ≤ exactPrice := by
        simp only [exactPrice, slippedPrice, side, DecimalContext.exact_mul,
          DecimalContext.exact_add, DecimalContext.exact_div, bpsScale]
        rw [side] at bps
        nlinarith
      rw [multiple] at slips ⊢
      rw [priceEq]
      have rounded := roundHalfUp_mono ((le_div_iff₀ tick).mpr slips)
      rw [roundHalfUp_intCast] at rounded
      exact mul_le_mul_of_nonneg_right (by exact_mod_cast rounded) tick.le
    | sell =>
      have slips : exactPrice ≤ order.referencePrice.toRat := by
        simp only [exactPrice, slippedPrice, side, DecimalContext.exact_mul,
          DecimalContext.exact_add, DecimalContext.exact_div, bpsScale]
        rw [side] at bps
        nlinarith
      rw [multiple] at slips ⊢
      rw [priceEq]
      have rounded := roundHalfUp_mono ((div_le_iff₀ tick).mpr slips)
      rw [roundHalfUp_intCast] at rounded
      exact mul_le_mul_of_nonneg_right (by exact_mod_cast rounded) tick.le

namespace Sample

def tickSpec (priceTick : Decimal) : ExecutionCostSpec :=
  { costSpec ⟨5, 0⟩ with slippage := { (costSpec ⟨5, 0⟩).slippage with priceTick } }

/-- A buy of one lot at 10.01. -/
def tickOrder : ExecutionCostOrderInput := ⟨.buy, ⟨1001, -2⟩, 100⟩

/-- 3 basis points of slippage and 2.5 of commission. -/
def slippingSpec : ExecutionCostSpec :=
  { costSpec ⟨0, 0⟩ with
    commissionRules := [{ feeRule "commission" ⟨0, 0⟩ with rateBps := ⟨25, -1⟩ }]
    slippage := { buyBps := ⟨3, 0⟩, sellBps := ⟨3, 0⟩, priceTick := ⟨1, -2⟩ } }

def calculation (priceTick : Decimal) : Except BrokerError ExecutionCostCalculation :=
  calculateExecutionCosts .decimal28 digests.toCostDigests (tickSpec priceTick) tickOrder instrument

end Sample

/-- The price slips to 10.013003 and is rounded to 10.01, and the commission of
0.25025 to 0.25. -/
theorem execution_tick_law_cent : ∃ calculated,
    calculateExecutionCosts .decimal28 Sample.digests.toCostDigests Sample.slippingSpec
      Sample.tickOrder Sample.instrument = .ok calculated ∧
    (calculated.executedPrice, calculated.commission) = (1001 / 100, 1 / 4) ∧
    TickLaw Sample.slippingSpec Sample.tickOrder calculated := by
  have priced : (calculateExecutionCosts .decimal28 Sample.digests.toCostDigests
      Sample.slippingSpec Sample.tickOrder Sample.instrument).toOption.map
        (fun result => (result.executedPrice, result.commission)) = some (1001 / 100, 1 / 4) := by
    decide +kernel
  obtain ⟨calculated, returned, amounts⟩ := exists_of_map_toOption priced
  exact ⟨calculated, returned, amounts,
    execution_tick_law ⟨rfl, rfl, by decide +kernel⟩ returned⟩

/-- With a tick of 0.05 the price 10.01 is kept. -/
theorem execution_price_off_tick : (Sample.tickSpec ⟨5, -2⟩).validateVersionedContract = .ok () ∧
    ∃ calculated, Sample.calculation ⟨5, -2⟩ = .ok calculated ∧
      ¬ MultipleOf ⟨5, -2⟩ calculated.executedPrice := by
  have priced :
      (Sample.calculation ⟨5, -2⟩).toOption.map (·.executedPrice) = some (1001 / 100) := by
    decide +kernel
  obtain ⟨calculated, returned, price⟩ := exists_of_map_toOption priced
  refine ⟨by decide +kernel, calculated, returned, ?_⟩
  rintro ⟨count, multiple⟩
  rw [price, Decimal.toRat] at multiple
  norm_num at multiple
  have units : (1001 : ℚ) = (count * 5 : ℤ) := by
    push_cast
    linarith
  have : (1001 : ℤ) = count * 5 := by exact_mod_cast units
  omega

end RQuant.Paper
