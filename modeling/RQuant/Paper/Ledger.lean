import RQuant.Paper.Contracts

/-!
# The paper ledger

The tables of the ledger, the store that owns them, and the reads that rebuild
contracts from rows.  Tables are lists in insertion order; a join on a primary
key is a lookup by that key.
-/

namespace RQuant.Paper

open Foundation

/-- What an execution request records about its cost calculation. -/
structure CostEvidence where
  costSpecId : Digest
  costEngineVersion : String
  (costContextFingerprint resolvedCalculationFingerprint : Digest)
  calculation : ExecutionCostCalculation
  deriving DecidableEq

structure InitialExecution where
  (executionId intentId : Digest)
  (decisionTime persistedAt : Time)
  tradeDate : Date
  quote : BrokerExecutionContext
  costEvidence : CostEvidence
  deriving DecidableEq

structure IncrementalExecution where
  (executionId orderId : Digest)
  (executedAt persistedAt : Time)
  tradeDate : Date
  quantity : ℕ
  quote : BrokerExecutionContext
  priceSnapshotId : Digest
  costEvidence : CostEvidence
  deriving DecidableEq

inductive ExecutionRequest
  | initial (request : InitialExecution)
  | incremental (request : IncrementalExecution)
  deriving DecidableEq

namespace ExecutionRequest

def executionId : ExecutionRequest → Digest
  | .initial request => request.executionId
  | .incremental request => request.executionId

def persistedAt : ExecutionRequest → Time
  | .initial request => request.persistedAt
  | .incremental request => request.persistedAt

def tradeDate : ExecutionRequest → Date
  | .initial request => request.tradeDate
  | .incremental request => request.tradeDate

def quote : ExecutionRequest → BrokerExecutionContext
  | .initial request => request.quote
  | .incremental request => request.quote

def costEvidence : ExecutionRequest → CostEvidence
  | .initial request => request.costEvidence
  | .incremental request => request.costEvidence

end ExecutionRequest

structure IntentRow where
  intentId : Digest
  accountId : String
  signalId : Digest
  entrySignalId : Option Digest
  tsCode : String
  side : Side
  (initialExecutionId initialExecutionRequestFingerprint : Digest)
  payload : PaperOrderIntent
  persistedAt : Time

structure OrderRow extends PaperOrder where
  entrySignalId : Option Digest
  deriving DecidableEq

/-- The part of an order that no call changes; joins read no other column. -/
structure OrderIdentity where
  (orderId intentId : Digest)
  (accountId tsCode : String)
  side : Side
  orderType : PaperOrderType
  quantity : ℕ
  createdAt : Time
  entrySignalId : Option Digest
  deriving DecidableEq

def OrderRow.identity (row : OrderRow) : OrderIdentity :=
  { orderId := row.orderId, intentId := row.intentId, accountId := row.accountId,
    tsCode := row.tsCode, side := row.side, orderType := row.orderType, quantity := row.quantity,
    createdAt := row.createdAt, entrySignalId := row.entrySignalId }

structure FillRow extends PaperFill where
  persistedAt : Time
  deriving DecidableEq

structure LotRow where
  lotId : Digest
  (accountId tsCode : String)
  entrySignalId : Digest
  (acquisitionTradeDate availableDate : Date)
  (originalQuantity remainingQuantity : ℕ)
  unitCost : ℚ
  (persistedAt buyExecutedAt buyPersistedAt : Time)
  buyFillSequence : ℕ
  deriving DecidableEq

structure ConsumptionRow where
  (fillId lotId : Digest)
  quantity : ℕ
  unitCost : ℚ
  persistedAt : Time
  deriving DecidableEq

structure ReceiptRow where
  executionId : Digest
  accountId : String
  (intentId orderId requestFingerprint : Digest)
  request : ExecutionRequest
  receipt : PaperExecutionReceipt
  (transferFee totalFees : ℚ)
  (costSpecId costContextFingerprint : Digest)
  persistedAt : Time

structure AccountRow where
  accountId : String
  (initialCash cash realizedPnl : ℚ)
  costSpecId : Digest
  deriving DecidableEq

structure Ledger where
  account : AccountRow
  intents : List IntentRow
  orders : List OrderRow
  fills : List FillRow
  lots : List LotRow
  consumptions : List ConsumptionRow
  receipts : List ReceiptRow

structure InitialExecutionKey where
  intentId : Digest
  (decisionTime persistedAt : Time)
  priceSnapshotId : Digest
  deriving DecidableEq

structure ConsumptionEvidence where
  fillId : Digest
  quantity : ℕ
  persistedAt : Time
  deriving DecidableEq

structure LotEvidence where
  lotId : Digest
  originalQuantity : ℕ
  fillPersistedAt : Time
  availableDate : Date
  consumptions : List ConsumptionEvidence
  deriving DecidableEq

/-- What the source-lot fingerprint of a position is the digest of. -/
structure SourceLots where
  accountId : String
  entrySignalId : Digest
  tsCode : String
  decisionCutoff : Time
  lots : List LotEvidence
  deriving DecidableEq

/-- `canonical_sha256` of each kind of payload of the ledger.  No property of
the digest function is assumed here. -/
structure LedgerDigests extends CostDigests where
  intentId : IntentFields → Digest
  orderId : String → Digest → Digest
  fillId : Digest → Digest → Digest
  initialExecutionId : InitialExecutionKey → Digest
  requestFingerprint : ExecutionRequest → Digest
  sourceLotFingerprint : SourceLots → Digest

/-- The configuration of a `PaperBrokerStore`, with the parts of the runtime it
calls: decimal arithmetic, digests, the civil calendar, and the normalisation
`strip().upper()` of instrument codes. -/
structure PaperBrokerStore where
  accountId : String
  initialCash : Decimal
  costPolicy : BrokerCostPolicy
  arithmetic : DecimalContext
  digests : LedgerDigests
  calendar : Calendar
  normalizeCode : String → String
  accountId_ne : accountId ≠ ""
  initialCash_pos : 0 < initialCash.coefficient

namespace PaperBrokerStore

variable (store : PaperBrokerStore)

def spec : ExecutionCostSpec := store.costPolicy.executionCostSpec

def executionPriceTick : Decimal := store.spec.slippage.priceTick

def openLedger : Ledger :=
  { account :=
      { accountId := store.accountId, initialCash := store.initialCash.toRat,
        cash := store.initialCash.toRat, realizedPnl := 0,
        costSpecId := store.digests.costSpecId store.spec }
    intents := []
    orders := []
    fills := []
    lots := []
    consumptions := []
    receipts := [] }

def expectedOrderId (order : PaperOrder) : Digest :=
  store.digests.orderId order.accountId order.intentId

def expectedFillId (fill : PaperFill) : Digest := store.digests.fillId fill.orderId fill.executionId

def orderFromRow (row : OrderRow) : Except BrokerError PaperOrder := do
  row.toPaperOrder.validateOrder (store.expectedOrderId row.toPaperOrder)
  pure row.toPaperOrder

def fillFromRow (row : FillRow) : Except BrokerError PaperFill := do
  row.toPaperFill.validateFill store.arithmetic (store.expectedFillId row.toPaperFill)
  pure row.toPaperFill

def costEvidence (calculation : ExecutionCostCalculation) : CostEvidence :=
  { costSpecId := calculation.costSpecId, costEngineVersion := calculation.costEngineVersion,
    costContextFingerprint := calculation.costContextFingerprint,
    resolvedCalculationFingerprint := store.digests.resolvedCalculationFingerprint calculation,
    calculation }

def validateReceipt (receipt : PaperExecutionReceipt) : Except BrokerError Unit := do
  receipt.order.validateOrder (store.expectedOrderId receipt.order)
  match receipt.fill with
    | none => pure ()
    | some fill => fill.validateFill store.arithmetic (store.expectedFillId fill)
  receipt.costCalculation.validateComponentSum store.arithmetic
  receipt.validateExecution

/-- Whether request evidence describes the receipt it is stored with. -/
def RequestMatches (request : ExecutionRequest) (receipt : PaperExecutionReceipt) : Prop :=
  match request with
  | .initial request =>
    request.intentId = receipt.intentId ∧ request.decisionTime = receipt.order.createdAt ∧
      ∀ fill ∈ receipt.fill, fill.executedAt = receipt.order.createdAt
  | .incremental request =>
    receipt.fill ≠ none ∧
      ∀ fill ∈ receipt.fill,
        request.orderId = receipt.order.orderId ∧ request.executedAt = fill.executedAt ∧
          request.quantity = fill.quantity ∧
          request.priceSnapshotId = fill.priceSnapshotId

instance (request : ExecutionRequest) (receipt : PaperExecutionReceipt) :
    Decidable (RequestMatches request receipt) :=
  match request with
  | .initial _ => inferInstanceAs (Decidable (_ ∧ _))
  | .incremental _ => inferInstanceAs (Decidable (_ ∧ _))

def requestMismatch : ExecutionRequest → BrokerError
  | .initial _ => .reconciliation "initial execution request does not match immutable receipt"
  | .incremental _ =>
    .reconciliation "incremental execution request does not match immutable receipt"

/-- The checks `_execution_receipt` makes on a stored receipt row. -/
def receiptFromRow (row : ReceiptRow) (executionId : Digest) :
    Except BrokerError PaperExecutionReceipt := do
  match store.validateReceipt row.receipt with
    | .error _ => throw (.reconciliation "persisted execution receipt evidence is invalid")
    | .ok _ => pure ()
  require
    (store.digests.requestFingerprint row.request = row.requestFingerprint ∧
      row.receipt.executionId = executionId ∧
      row.receipt.requestFingerprint = row.requestFingerprint ∧
      row.receipt.intentId = row.intentId ∧
      row.receipt.order.orderId = row.orderId ∧
      row.receipt.order.accountId = store.accountId ∧
      row.receipt.persistedAt = row.persistedAt)
    (.reconciliation "persisted execution receipt columns do not match immutable evidence")
  require
    (row.receipt.costSpecId = row.costSpecId ∧
      row.receipt.costContextFingerprint = row.costContextFingerprint ∧
      row.receipt.costCalculation.transferFee = row.transferFee ∧
      row.receipt.costCalculation.totalFees = row.totalFees ∧
      row.request.costEvidence = store.costEvidence row.receipt.costCalculation)
    (.reconciliation "persisted execution receipt v3 cost evidence does not reconcile")
  require
    (row.request.executionId = row.receipt.executionId ∧
      row.request.persistedAt = row.receipt.persistedAt)
    (.reconciliation "execution request identity does not match immutable receipt")
  require (RequestMatches row.request row.receipt) (requestMismatch row.request)
  pure row.receipt

def receiptRow (ledger : Ledger) (executionId : Digest) : Option ReceiptRow :=
  findKey (fun row : ReceiptRow => (row.accountId, row.executionId))
    (store.accountId, executionId) ledger.receipts

def executionReceipt (ledger : Ledger) (executionId : Digest) :
    Except BrokerError (Option PaperExecutionReceipt) :=
  match store.receiptRow ledger executionId with
  | none => .ok none
  | some row => do
    let receipt ← store.receiptFromRow row executionId
    pure (some receipt)

def orderRow (ledger : Ledger) (orderId : Digest) : Option OrderRow :=
  findKey (fun row : OrderRow => (row.accountId, row.orderId))
    (store.accountId, orderId) ledger.orders

end PaperBrokerStore

def Ledger.intentRow (ledger : Ledger) (intentId : Digest) : Option IntentRow :=
  findKey IntentRow.intentId intentId ledger.intents

def Ledger.orderFills (ledger : Ledger) (orderId : Digest) : List FillRow :=
  ledger.fills.filter fun fill => fill.orderId = orderId

def Ledger.fillSide (ledger : Ledger) (fill : FillRow) : Option Side :=
  (findKey (fun row : OrderRow => row.orderId) fill.orderId ledger.orders).map (·.side)

def consumedFrom (consumptions : List ConsumptionRow) (lotId : Digest) : ℕ :=
  ((consumptions.filter fun row => row.lotId = lotId).map ConsumptionRow.quantity).sum

def consumedBy (consumptions : List ConsumptionRow) (fillId : Digest) : ℕ :=
  ((consumptions.filter fun row => row.fillId = fillId).map ConsumptionRow.quantity).sum

theorem consumedFrom_append (left right : List ConsumptionRow) (lotId : Digest) :
    consumedFrom (left ++ right) lotId = consumedFrom left lotId + consumedFrom right lotId := by
  simp [consumedFrom]

theorem consumedBy_append (left right : List ConsumptionRow) (fillId : Digest) :
    consumedBy (left ++ right) fillId = consumedBy left fillId + consumedBy right fillId := by
  simp [consumedBy]

theorem consumedBy_eq_zero (absent : ∀ row ∈ consumptions, row.fillId ≠ fillId) :
    consumedBy consumptions fillId = 0 := by
  rw [consumedBy, filter_of_none absent, List.map_nil, List.sum_nil]

end RQuant.Paper
