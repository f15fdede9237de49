import RQuant.Foundation.Table
import RQuant.Paper.Costs

/-!
# Paper-broker contracts

The immutable contracts of the paper ledger with the checks their validators
make: the sell-quantity authority, order intents, orders, fills and execution
receipts, the executable quote, and the account snapshot.
-/

namespace RQuant.Paper

open Foundation

inductive PaperOrderType
  | market
  | limit
  deriving DecidableEq

inductive PaperOrderStatus
  | pending
  | accepted
  | partiallyFilled
  | filled
  | rejected
  | cancelled
  | expired
  deriving DecidableEq

def PaperOrderStatus.value : PaperOrderStatus → String
  | .pending => "PENDING"
  | .accepted => "ACCEPTED"
  | .partiallyFilled => "PARTIALLY_FILLED"
  | .filled => "FILLED"
  | .rejected => "REJECTED"
  | .cancelled => "CANCELLED"
  | .expired => "EXPIRED"

inductive PaperRejectReason
  | tPlusOne
  | suspended
  | limitLocked
  | insufficientCash
  | insufficientPosition
  | invalidLot
  | expired
  | riskRejected
  deriving DecidableEq

/-- `NonNegativeLot`: a whole number of 100-share lots. -/
def IsLot (quantity : ℕ) : Prop := quantity % 100 = 0
deriving Decidable

def IsPositiveLot (quantity : ℕ) : Prop := 0 < quantity ∧ IsLot quantity
deriving Decidable

inductive SellAction
  | reduce
  | sIntent
  deriving DecidableEq

structure PaperSellQuantityAuthority where
  (exitSignalId entrySignalId : Digest)
  (accountId tsCode : String)
  action : SellAction
  decisionCutoff : Time
  (remainingQuantity availableQuantity : ℕ)
  trancheFraction : Decimal
  requestedQuantity : ℕ
  sourceLotFingerprint : Digest
  deriving DecidableEq

/-- Whole lots in the given fraction of a position, as decimals compute it. -/
def trancheLots (remaining : ℕ) (fraction : Decimal) : ℕ :=
  (⌊DecimalContext.decimal28.mul remaining fraction.toRat⌋).toNat / 100 * 100

/-- The field constraints and `validate_quantity_semantics`. -/
def PaperSellQuantityAuthority.validateQuantitySemantics
    (authority : PaperSellQuantityAuthority) : Except BrokerError Unit := do
  require (authority.accountId ≠ "") (.valueError "account_id")
  require (authority.tsCode ≠ "") (.valueError "ts_code")
  require (IsPositiveLot authority.remainingQuantity) (.valueError "remaining_quantity")
  require (IsLot authority.availableQuantity) (.valueError "available_quantity")
  require (0 < authority.trancheFraction.toRat ∧ authority.trancheFraction.toRat ≤ 1)
    (.valueError "tranche_fraction")
  require (IsPositiveLot authority.requestedQuantity) (.valueError "requested_quantity")
  require (authority.availableQuantity ≤ authority.remainingQuantity)
    (.valueError "available_quantity cannot exceed remaining_quantity")
  let expected ← match authority.action with
    | .sIntent => do
      require (authority.trancheFraction.toRat = 1)
        (.valueError "S_INTENT tranche_fraction must equal one")
      pure authority.remainingQuantity
    | .reduce => do
      require (authority.trancheFraction.toRat < 1)
        (.valueError "REDUCE tranche_fraction must be below one")
      let expected := trancheLots authority.remainingQuantity authority.trancheFraction
      require (0 < expected ∧ expected < authority.remainingQuantity)
        (.valueError "REDUCE has no legal partial 100-share lot")
      pure expected
  require (authority.requestedQuantity = expected)
    (.valueError "requested_quantity does not match tranche semantics")

structure IntentFields where
  signalId : Digest
  entrySignalId : Option Digest
  sellQuantityAuthority : Option PaperSellQuantityAuthority
  (accountId tsCode : String)
  side : Side
  orderType : PaperOrderType
  quantity : ℕ
  limitPrice : Option Decimal
  (eventTime availableAt expiresAt earliestExecutionAt : Time)
  priceSnapshotId : Digest
  producerCommit : String
  deriving DecidableEq

def PaperSellQuantityAuthority.Matches
    (authority : PaperSellQuantityAuthority) (intent : IntentFields) : Prop :=
  authority.exitSignalId = intent.signalId ∧ some authority.entrySignalId = intent.entrySignalId ∧
    authority.accountId = intent.accountId ∧
    authority.tsCode = intent.tsCode ∧
    authority.requestedQuantity = intent.quantity

instance (authority : PaperSellQuantityAuthority) (intent : IntentFields) :
    Decidable (authority.Matches intent) :=
  inferInstanceAs (Decidable (_ ∧ _))

/-- The field constraints and `validate_intent`. -/
def IntentFields.validateIntent (intent : IntentFields) : Except BrokerError Unit := do
  require (intent.accountId ≠ "") (.valueError "account_id")
  require (intent.tsCode ≠ "") (.valueError "ts_code")
  require (IsPositiveLot intent.quantity) (.valueError "quantity")
  require (∀ price ∈ intent.limitPrice, 0 < price.coefficient) (.valueError "limit_price")
  require (intent.side = .buy → intent.entrySignalId = none)
    (.valueError "BUY intent entry_signal_id must be absent")
  require (intent.side = .buy → intent.sellQuantityAuthority = none)
    (.valueError "BUY intent sell_quantity_authority must be absent")
  require (intent.side = .sell → intent.entrySignalId ≠ none)
    (.valueError "SELL intent entry_signal_id is required")
  require (intent.side = .sell → intent.sellQuantityAuthority ≠ none)
    (.valueError "SELL intent sell_quantity_authority is required")
  match intent.sellQuantityAuthority with
    | none => pure ()
    | some authority => do
      authority.validateQuantitySemantics
      require (authority.Matches intent)
        (.valueError "SELL intent does not match sell quantity authority")
  require (intent.orderType = .limit → intent.limitPrice ≠ none)
    (.valueError "limit_price is required for LIMIT orders")
  require (intent.orderType = .market → intent.limitPrice = none)
    (.valueError "limit_price is only valid for LIMIT orders")
  require (intent.eventTime ≤ intent.availableAt)
    (.valueError "event_time must be before or equal to available_at")
  require (intent.availableAt < intent.expiresAt)
    (.valueError "expires_at must be later than available_at")
  require (intent.availableAt ≤ intent.earliestExecutionAt)
    (.valueError "earliest_execution_at must be after or equal to available_at")
  require (intent.earliestExecutionAt < intent.expiresAt)
    (.valueError "earliest_execution_at must be earlier than expires_at")

/-- An accepted intent; its `intent_id` is the digest of its fields. -/
structure PaperOrderIntent extends IntentFields where
  valid : toIntentFields.validateIntent = .ok ()

instance : DecidableEq PaperOrderIntent := fun left right =>
  decidable_of_iff (left.toIntentFields = right.toIntentFields) <| by
    cases left
    cases right
    simp

structure PaperOrder where
  (orderId intentId : Digest)
  (accountId tsCode : String)
  side : Side
  orderType : PaperOrderType
  (quantity filledQuantity : ℕ)
  averageFillPrice : Option ℚ
  status : PaperOrderStatus
  rejectReason : Option PaperRejectReason
  (createdAt updatedAt : Time)
  deriving DecidableEq

def PaperOrder.validateStatus (order : PaperOrder) : Except BrokerError Unit :=
  match order.status with
  | .pending | .accepted =>
    require (order.filledQuantity = 0)
      (.valueError (order.status.value ++ " order cannot have fills"))
  | .partiallyFilled =>
    require (0 < order.filledQuantity ∧ order.filledQuantity < order.quantity)
      (.valueError ("PARTIALLY_FILLED requires filled_quantity between zero and " ++ "quantity"))
  | .filled =>
    require (order.filledQuantity = order.quantity)
      (.valueError "FILLED requires filled_quantity equal to quantity")
  | .rejected => do
    require (order.filledQuantity = 0) (.valueError "REJECTED order cannot have fills")
    require (order.rejectReason ≠ none)
      (.valueError "reject_reason is required for REJECTED orders")
  | .cancelled | .expired =>
    require (order.filledQuantity < order.quantity)
      (.valueError (order.status.value ++ " requires unfilled quantity to remain"))

/-- The field constraints and `validate_order`; `expectedId` is the digest of
the account and intent ids. -/
def PaperOrder.validateOrder
    (order : PaperOrder) (expectedId : Digest) : Except BrokerError Unit := do
  require (order.accountId ≠ "" ∧ order.tsCode ≠ "") (.valueError "account_id")
  require (IsPositiveLot order.quantity) (.valueError "quantity")
  require (IsLot order.filledQuantity) (.valueError "filled_quantity")
  require (∀ price ∈ order.averageFillPrice, 0 < price) (.valueError "average_fill_price")
  require (order.filledQuantity ≤ order.quantity)
    (.valueError "filled_quantity cannot exceed quantity")
  require (order.createdAt ≤ order.updatedAt)
    (.valueError "updated_at cannot be earlier than created_at")
  require (0 < order.filledQuantity ↔ order.averageFillPrice ≠ none)
    (.valueError "average_fill_price must be present iff fills exist")
  order.validateStatus
  require (order.status ≠ .rejected → order.rejectReason = none)
    (.valueError "reject_reason is only valid for REJECTED orders")
  require (order.orderId = expectedId)
    (.valueError "order_id does not match intent_id and account_id")

/-- A fill with known v3 cost provenance; no other fill can be written. -/
structure PaperFill where
  (fillId executionId orderId : Digest)
  (sequence quantity : ℕ)
  (price commission transferFee tax totalFees : ℚ)
  (costSpecId costContextFingerprint : Digest)
  executedAt : Time
  priceSnapshotId : Digest
  deriving DecidableEq

def PaperFill.notional (arithmetic : DecimalContext) (fill : PaperFill) : ℚ :=
  arithmetic.mul fill.price fill.quantity

/-- The field constraints, `validate_fill_id` and `validate_cost_provenance`;
`expectedId` is the digest of the order and execution ids. -/
def PaperFill.validateFill (arithmetic : DecimalContext) (fill : PaperFill) (expectedId : Digest) :
    Except BrokerError Unit := do
  require (1 ≤ fill.sequence) (.valueError "sequence")
  require (IsPositiveLot fill.quantity) (.valueError "quantity")
  require (0 < fill.price) (.valueError "price")
  require (0 ≤ fill.commission ∧ 0 ≤ fill.transferFee ∧ 0 ≤ fill.tax ∧ 0 ≤ fill.totalFees)
    (.valueError "commission")
  require (fill.fillId = expectedId)
    (.valueError "fill_id does not match order_id and execution_id")
  require
    (fill.totalFees = arithmetic.add (arithmetic.add fill.commission fill.transferFee) fill.tax)
    (.valueError "paper fill total_fees must equal its fee components")

structure PaperExecutionReceipt where
  (executionId requestFingerprint intentId : Digest)
  order : PaperOrder
  fill : Option PaperFill
  (costSpecId costContextFingerprint : Digest)
  costCalculation : ExecutionCostCalculation
  persistedAt : Time
  deriving DecidableEq

/-- Whether the fill of a receipt carries the receipt's cost calculation. -/
def PaperFill.PricedBy (fill : PaperFill) (receipt : PaperExecutionReceipt) : Prop :=
  fill.costSpecId = receipt.costSpecId ∧
    fill.costContextFingerprint = receipt.costContextFingerprint ∧
    fill.price = receipt.costCalculation.executedPrice ∧
    fill.commission = receipt.costCalculation.commission ∧
    fill.transferFee = receipt.costCalculation.transferFee ∧
    fill.tax = receipt.costCalculation.stampDuty ∧
    fill.totalFees = receipt.costCalculation.totalFees
deriving Decidable

/-- `validate_execution` for known v3 cost provenance. -/
def PaperExecutionReceipt.validateExecution
    (receipt : PaperExecutionReceipt) : Except BrokerError Unit := do
  require (receipt.order.intentId = receipt.intentId)
    (.valueError "execution receipt does not bind its intent and order")
  require
    (∀ fill ∈ receipt.fill,
      fill.executionId = receipt.executionId ∧ fill.orderId = receipt.order.orderId)
    (.valueError "execution receipt does not bind its order and fill")
  require (∀ fill ∈ receipt.fill, fill.PricedBy receipt)
    (.valueError "known v3 execution receipt does not match its fill")
  require
    (receipt.costCalculation.costSpecId = receipt.costSpecId ∧
      receipt.costCalculation.costContextFingerprint = receipt.costContextFingerprint)
    (.valueError "known v3 execution receipt does not match cost calculation")

/-! ## The executable quote -/

/-- The frozen executable quote with its market and risk constraints. -/
structure BrokerExecutionContext where
  executablePrice : Decimal
  instrumentContext : InstrumentContext
  executableQuantity : Option ℕ
  acquisitionAvailableDate : Option Date
  (suspended limitLocked riskRejected : Bool)
  executablePrice_pos : 0 < executablePrice.coefficient
  executableQuantity_lot : ∀ quantity ∈ executableQuantity, IsLot quantity
  deriving DecidableEq

section

variable (arithmetic : DecimalContext) (holdings : List PaperHolding)

end

end RQuant.Paper
