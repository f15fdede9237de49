import RQuant.Foundation.Checked
import RQuant.Foundation.Decimal
import RQuant.Runtime

/-!
# Execution costs

The v3 cost contract and the shared cost engine that prices one fill:
slippage, price rounding, commission, transfer fee and stamp duty.  All
amounts are computed in the decimal context of the store.
-/

namespace RQuant.Paper

open Foundation

/-- What the paper broker and its cost engine raise. -/
inductive BrokerError
  | valueError (message : String)
  | keyError (message : String)
  | assertionError
  | invalidOperation
  | overflow
  | dateOverflow (message : String)
  | operationalError (message : String)
  | integrityError (constraint : String)
  | duplicateIntentConflict (message : String)
  | duplicateExecutionConflict (message : String)
  | reconciliation (message : String)
  deriving DecidableEq

/-- The side of an order; `PaperSide` and `ExecutionCostSide` have the same two
values. -/
inductive Side
  | buy
  | sell
  deriving DecidableEq

inductive ExecutionCostApplicability
  | buy
  | sell
  | both
  deriving DecidableEq

structure InstrumentSelector where
  (selectorId market exchange instrumentClass securityClass : String)
  deriving DecidableEq

def InstrumentSelector.scopeKey (selector : InstrumentSelector) :
    String × String × String × String :=
  (selector.market, selector.exchange, selector.instrumentClass, selector.securityClass)

inductive ReferenceDataset
  | securityListingStatus
  deriving DecidableEq

structure InstrumentClassificationProvenance where
  referenceDataset : ReferenceDataset
  (referenceRecordId referenceGenerationId : Digest)
  deriving DecidableEq

structure InstrumentContext where
  (tsCode market exchange instrumentClass securityClass : String)
  classificationProvenance : Option InstrumentClassificationProvenance
  deriving DecidableEq

def InstrumentContext.scopeKey (context : InstrumentContext) : String × String × String × String :=
  (context.market, context.exchange, context.instrumentClass, context.securityClass)

structure ExecutionCostFeeRule where
  (ruleId selectorId : String)
  (rateBps minimumAmount : Decimal)
  appliesTo : ExecutionCostApplicability
  deriving DecidableEq

def ExecutionCostFeeRule.appliesToSide (rule : ExecutionCostFeeRule) (side : Side) : Bool :=
  match rule.appliesTo, side with
  | .both, _ => true
  | .buy, .buy => true
  | .sell, .sell => true
  | _, _ => false

structure ExecutionCostSlippage where
  (buyBps sellBps priceTick : Decimal)
  deriving DecidableEq

structure ExecutionCostMoney where
  quantum : Decimal
  deriving DecidableEq

/-- The fields of a v3 cost contract. -/
structure ExecutionCostSpec where
  costEngineVersion : String
  instrumentSelectors : List InstrumentSelector
  (commissionRules transferFeeRules stampDutyRules : List ExecutionCostFeeRule)
  slippage : ExecutionCostSlippage
  money : ExecutionCostMoney
  deriving DecidableEq

def ExecutionCostFeeRule.InRange (rule : ExecutionCostFeeRule) : Prop :=
  rule.ruleId ≠ "" ∧ rule.selectorId ≠ "" ∧ rule.rateBps.toRat < 10000
deriving Decidable

/-- One rule for every selector, and rule ids used nowhere else.  Returns the
rule ids seen so far. -/
def validateV3RuleSet (rules : List ExecutionCostFeeRule) (selectors : List InstrumentSelector)
    (component : String)
    (seenRuleIds : List String) :
    Except BrokerError (List String) := do
  require (rules.length = selectors.length)
    (.valueError ("v3 " ++ component ++ " rules must contain one rule per selector"))
  require
    ((∀ selector ∈ selectors, selector.selectorId ∈ rules.map (·.selectorId)) ∧
      (∀ rule ∈ rules, rule.selectorId ∈ selectors.map (·.selectorId)) ∧
      (rules.map (·.selectorId)).Nodup)
    (.valueError ("v3 " ++ component ++ " rules must map one-to-one to selectors"))
  require ((rules.map (·.ruleId) ++ seenRuleIds).Nodup)
    (.valueError "v3 execution cost rule_id values must be globally unique")
  pure (rules.map (·.ruleId) ++ seenRuleIds)

/-- `validate_versioned_contract` for schema version 3. -/
def ExecutionCostSpec.validateVersionedContract
    (spec : ExecutionCostSpec) : Except BrokerError Unit := do
  require
    ((∀ rule ∈ spec.commissionRules, rule.InRange) ∧
      (∀ rule ∈ spec.transferFeeRules, rule.InRange) ∧
      (∀ rule ∈ spec.stampDutyRules, rule.InRange))
    (.valueError "execution cost rule")
  require
    (spec.slippage.buyBps.toRat < 10000 ∧ spec.slippage.sellBps.toRat < 10000 ∧
      0 < spec.slippage.priceTick.coefficient)
    (.valueError "execution cost slippage")
  require (0 < spec.money.quantum.coefficient) (.valueError "execution cost money")
  require (spec.costEngineVersion ≠ "")
    (.valueError "v3 execution costs require complete shared cost configuration")
  require (spec.instrumentSelectors ≠ [])
    (.valueError "v3 execution costs require at least one instrument selector")
  require ((spec.instrumentSelectors.map (·.selectorId)).Nodup)
    (.valueError "v3 instrument selector_id values must be unique")
  require ((spec.instrumentSelectors.map (·.scopeKey)).Nodup)
    (.valueError "v3 instrument selectors must be non-overlapping")
  let seen ← validateV3RuleSet spec.commissionRules spec.instrumentSelectors "commission" []
  let seen ← validateV3RuleSet spec.transferFeeRules spec.instrumentSelectors "transfer fee" seen
  let _ ← validateV3RuleSet spec.stampDutyRules spec.instrumentSelectors "stamp duty" seen
  pure ()

/-- A validated v3 cost contract (`BrokerCostPolicy`). -/
structure BrokerCostPolicy where
  executionCostSpec : ExecutionCostSpec
  valid : executionCostSpec.validateVersionedContract = .ok ()

structure ExecutionCostOrderInput where
  side : Side
  referencePrice : Decimal
  quantity : ℕ
  deriving DecidableEq

structure SelectedRuleIds where
  (selector commission transferFee stampDuty : String)
  deriving DecidableEq

/-- What the cost context fingerprint is the digest of. -/
structure CostContext where
  costSpecId : Digest
  costEngineVersion : String
  side : Side
  instrumentContext : InstrumentContext
  selectedRuleIds : SelectedRuleIds
  slippage : ExecutionCostSlippage
  money : ExecutionCostMoney
  deriving DecidableEq

structure ExecutionCostCalculation where
  costSpecId : Digest
  costEngineVersion : String
  orderInput : ExecutionCostOrderInput
  instrumentContext : InstrumentContext
  (executedPrice referenceNotional executedNotional commission transferFee stampDuty : ℚ)
  (slippageAmount totalFees : ℚ)
  selectedRuleIds : SelectedRuleIds
  costContextFingerprint : Digest
  deriving DecidableEq

/-- `canonical_sha256` of the payloads of the cost engine. -/
structure CostDigests where
  costSpecId : ExecutionCostSpec → Digest
  costContextFingerprint : CostContext → Digest
  resolvedCalculationFingerprint : ExecutionCostCalculation → Digest

section

variable (arithmetic : DecimalContext)

/-- The field constraints and `validate_component_sum`. -/
def ExecutionCostCalculation.validateComponentSum (calculation : ExecutionCostCalculation) :
    Except BrokerError Unit := do
  require
    (0 < calculation.executedPrice ∧ 0 < calculation.referenceNotional ∧
      0 < calculation.executedNotional ∧ 0 ≤ calculation.commission ∧
      0 ≤ calculation.transferFee ∧ 0 ≤ calculation.stampDuty ∧
      0 ≤ calculation.slippageAmount ∧ 0 ≤ calculation.totalFees)
    (.valueError "execution cost calculation field out of range")
  require
    (calculation.totalFees =
      arithmetic.add (arithmetic.add calculation.commission calculation.transferFee)
        calculation.stampDuty)
    (.valueError "execution total_fees must equal the rounded fee components")
  require
    (calculation.selectedRuleIds.selector ≠ "" ∧ calculation.selectedRuleIds.commission ≠ "" ∧
      calculation.selectedRuleIds.transferFee ≠ "" ∧
      calculation.selectedRuleIds.stampDuty ≠ "")
    (.valueError "execution cost calculation requires complete selected rule evidence")

def bpsScale : ℚ := 10000

/-- `_quantize` for a present quantum. -/
def quantizeMoney (value : ℚ) (quantum : Decimal) :
    Except BrokerError ℚ := do
  require (0 < quantum.coefficient) (.valueError "rounding quantum must be finite and positive")
  orRaise .invalidOperation (arithmetic.quantize value quantum)

def v3FeeAmount (rule : ExecutionCostFeeRule) (side : Side)
    (executedNotional : ℚ) (moneyQuantum : Decimal) :
    Except BrokerError ℚ :=
  if rule.appliesToSide side then
    quantizeMoney arithmetic
      (max (arithmetic.div (arithmetic.mul executedNotional rule.rateBps.toRat) bpsScale)
        rule.minimumAmount.toRat)
      moneyQuantum
  else quantizeMoney arithmetic 0 moneyQuantum

def ruleFor (rules : List ExecutionCostFeeRule) (selectorId component : String) :
    Except BrokerError ExecutionCostFeeRule :=
  match rules.filter fun rule => rule.selectorId = selectorId with
  | [rule] => .ok rule
  | _ =>
    .error (.valueError ("v3 execution costs have ambiguous " ++ component ++ " rule selection"))

/-- The one selector whose scope is the instrument's. -/
def selectInstrument (selectors : List InstrumentSelector) (context : InstrumentContext) :
    Except BrokerError InstrumentSelector :=
  match selectors.filter fun selector => selector.scopeKey = context.scopeKey with
  | [] => .error (.valueError "v3 execution costs have no matching instrument selector")
  | [selector] => .ok selector
  | _ => .error (.valueError "v3 execution costs have ambiguous instrument selectors")

def calculateExecutionCosts (digests : CostDigests)
    (spec : ExecutionCostSpec) (order : ExecutionCostOrderInput)
    (context : InstrumentContext) :
    Except BrokerError ExecutionCostCalculation := do
  require (0 < order.referencePrice.coefficient ∧ 0 < order.quantity)
    (.valueError "execution cost reference_price")
  let selector ← selectInstrument spec.instrumentSelectors context
  let commissionRule ← ruleFor spec.commissionRules selector.selectorId "commission"
  let transferRule ← ruleFor spec.transferFeeRules selector.selectorId "transfer fee"
  let stampRule ← ruleFor spec.stampDutyRules selector.selectorId "stamp duty"
  let slippageBps := match order.side with
    | .buy => spec.slippage.buyBps.toRat
    | .sell => spec.slippage.sellBps.toRat
  let direction : ℚ := match order.side with
    | .buy => 1
    | .sell => -1
  let executedPrice ←
    quantizeMoney arithmetic
      (arithmetic.mul order.referencePrice.toRat
        (arithmetic.add 1 (arithmetic.div (arithmetic.mul direction slippageBps) bpsScale)))
      spec.slippage.priceTick
  require (0 < executedPrice) (.valueError "slippage-adjusted execution price must be positive")
  let referenceNotional := arithmetic.mul order.referencePrice.toRat order.quantity
  let executedNotional := arithmetic.mul executedPrice order.quantity
  let commission ←
    v3FeeAmount arithmetic commissionRule order.side executedNotional spec.money.quantum
  let transferFee ←
    v3FeeAmount arithmetic transferRule order.side executedNotional spec.money.quantum
  let stampDuty ← v3FeeAmount arithmetic stampRule order.side executedNotional spec.money.quantum
  let selectedRuleIds : SelectedRuleIds :=
    { selector := selector.selectorId, commission := commissionRule.ruleId,
      transferFee := transferRule.ruleId, stampDuty := stampRule.ruleId }
  let slippageAmount ←
    quantizeMoney arithmetic (arithmetic.round |arithmetic.sub executedNotional referenceNotional|)
      spec.money.quantum
  let calculation : ExecutionCostCalculation :=
    { costSpecId := digests.costSpecId spec
      costEngineVersion := spec.costEngineVersion
      orderInput := order
      instrumentContext := context
      executedPrice := executedPrice
      referenceNotional := referenceNotional
      executedNotional := executedNotional
      commission := commission
      transferFee := transferFee
      stampDuty := stampDuty
      slippageAmount := slippageAmount
      totalFees := arithmetic.add (arithmetic.add commission transferFee) stampDuty
      selectedRuleIds := selectedRuleIds
      costContextFingerprint := digests.costContextFingerprint
        { costSpecId := digests.costSpecId spec
          costEngineVersion := spec.costEngineVersion
          side := order.side
          instrumentContext := context
          selectedRuleIds := selectedRuleIds
          slippage := spec.slippage
          money := spec.money } }
  calculation.validateComponentSum arithmetic
  pure calculation

/-! ## What a successful calculation guarantees -/

/-- The facts about a priced fill that the ledger relies on. -/
structure Priced (spec : ExecutionCostSpec)
    (order : ExecutionCostOrderInput) (context : InstrumentContext)
    (calculation : ExecutionCostCalculation) : Prop where
  orderInput : calculation.orderInput = order
  instrumentContext : calculation.instrumentContext = context
  executedPrice_pos : 0 < calculation.executedPrice
  executedPrice_tick : arithmetic.quantize calculation.executedPrice spec.slippage.priceTick =
    some calculation.executedPrice
  executedNotional :
    calculation.executedNotional = arithmetic.mul calculation.executedPrice order.quantity
  commission_nonneg : 0 ≤ calculation.commission
  transferFee_nonneg : 0 ≤ calculation.transferFee
  stampDuty_nonneg : 0 ≤ calculation.stampDuty
  totalFees_nonneg : 0 ≤ calculation.totalFees
  totalFees : calculation.totalFees =
    arithmetic.add (arithmetic.add calculation.commission calculation.transferFee)
      calculation.stampDuty
  valid : calculation.validateComponentSum arithmetic = .ok ()

end

theorem calculateExecutionCosts_priced
    (calculated : calculateExecutionCosts arithmetic digests spec order context = .ok calculation) :
    Priced arithmetic spec order context calculation := by
  simp only [run_eq_ok, calculateExecutionCosts] at calculated
  obtain ⟨-, _, -, _, -, _, -, _, -, _, quantized, -, _, -, _, -, _, -,
    _, -, valid, rfl⟩ := calculated
  have inRange := valid
  simp only [run_eq_ok, ExecutionCostCalculation.validateComponentSum] at inRange
  obtain ⟨⟨pricePos, -, -, commissionNonneg, transferNonneg, stampNonneg, -,
    feesNonneg⟩, -⟩ := inRange
  simp only [run_eq_ok, quantizeMoney, orRaise_eq_ok] at quantized
  obtain ⟨-, quantized⟩ := quantized
  exact
    { orderInput := rfl, instrumentContext := rfl, executedPrice_pos := pricePos,
      executedPrice_tick := arithmetic.quantize_quantized quantized, executedNotional := rfl,
      commission_nonneg := commissionNonneg, transferFee_nonneg := transferNonneg,
      stampDuty_nonneg := stampNonneg, totalFees_nonneg := feesNonneg, totalFees := rfl, valid }

end RQuant.Paper
