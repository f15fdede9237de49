import RQuant.Paper.Broker
import RQuant.Paper.Position

/-!
# The calls of the paper broker

`submit_intent`, `apply_execution` and `close_open_order` as the source runs
them: argument checks, the transaction, and the read after the commit.
-/

namespace RQuant.Paper

open Foundation

namespace PaperBrokerStore

variable (store : PaperBrokerStore)

def requireMatchingInstrumentContext (tsCode : String) (context : InstrumentContext) :
    Except BrokerError Unit := do
  require (context.tsCode = store.normalizeCode tsCode)
    (.valueError "execution instrument_context ts_code does not match intent ts_code")
  require
    (∃ provenance ∈ context.classificationProvenance,
      provenance.referenceDataset = .securityListingStatus)
    (.valueError "execution instrument_context requires trusted listing classification")
  require
    (context.market = "CN" ∧ context.instrumentClass = "EQUITY" ∧ context.securityClass = "A_SHARE")
    (.valueError "execution instrument_context must be an attested CN A_SHARE")

def executionCosts (side : Side) (executablePrice : Decimal) (quantity : ℕ)
    (context : InstrumentContext) :
    Except BrokerError ExecutionCostCalculation :=
  calculateExecutionCosts store.arithmetic store.digests.toCostDigests store.spec
    { side := side, referencePrice := executablePrice, quantity := quantity }
    context

/-- Commit the ledger of a successful transaction, keep the old one when it
raises. -/
def atomically {α : Type} (ledger : Ledger) (body : Except BrokerError (α × Ledger)) :
    Except BrokerError α × Ledger :=
  match body with
  | .ok (result, committed) => (.ok result, committed)
  | .error raised => (.error raised, ledger)

section

variable (request : SubmitIntent)

def checkSubmission : Except BrokerError Unit := do
  require (request.intent.accountId = store.accountId)
    (.valueError "intent account_id does not match broker account")
  require (request.intent.availableAt ≤ request.decisionTime)
    (.valueError "decision_time cannot precede intent available_at")
  require
    (request.decisionTime ≤ request.persistenceTime ∧
      request.intent.availableAt ≤ request.persistenceTime)
    (.valueError "persisted_at cannot precede decision or intent availability")
  require (request.tradeDate = store.calendar.shanghaiDate request.decisionTime)
    (.valueError "trade_date must match decision_time in Asia/Shanghai")

def submittedIntentId : Digest :=
  store.digests.intentId request.intent.toIntentFields

def resolvedExecutionId : Digest :=
  request.executionId.getD <|
    store.digests.initialExecutionId
      { intentId := store.submittedIntentId request, decisionTime := request.decisionTime,
        persistedAt := request.persistenceTime, priceSnapshotId := request.intent.priceSnapshotId }

def initialExecution (costs : ExecutionCostCalculation) : InitialExecution :=
  { executionId := store.resolvedExecutionId request, intentId := store.submittedIntentId request,
    decisionTime := request.decisionTime, persistedAt := request.persistenceTime,
    tradeDate := request.tradeDate, quote := request.quote,
    costEvidence := store.costEvidence costs }

def initialRequest (costs : ExecutionCostCalculation) : ExecutionRequest :=
  .initial (store.initialExecution request costs)

/-- Everything `submit_intent` computes before it opens the transaction. -/
def prepareSubmission : Except BrokerError ExecutionCostCalculation := do
  store.checkSubmission request
  store.requireMatchingInstrumentContext request.intent.tsCode request.quote.instrumentContext
  store.executionCosts request.intent.side request.quote.executablePrice
    request.calculationQuantity request.quote.instrumentContext

end

/-- A known intent: the request must be the one that opened it. -/
def replayIntent (ledger : Ledger) (request : SubmitIntent) (existing : IntentRow)
    (fingerprint : Digest) : Except BrokerError PaperOrder := do
  require (existing.payload = request.intent)
    (.duplicateIntentConflict
      ("intent_id " ++ hex (store.submittedIntentId request) ++ " already has different content"))
  require (existing.initialExecutionId = store.resolvedExecutionId request)
    (.duplicateExecutionConflict "intent is already bound to a different initial execution_id")
  require (existing.initialExecutionRequestFingerprint = fingerprint)
    (.duplicateExecutionConflict
      "initial execution_id is already bound to different immutable content")
  let receipt ← store.executionReceipt ledger (store.resolvedExecutionId request)
  match receipt with
    | none => throw (.reconciliation "persisted initial execution is missing its immutable receipt")
    | some receipt => pure receipt.order

def submittedIntentRow (request : SubmitIntent) (fingerprint : Digest) : IntentRow :=
  { intentId := store.submittedIntentId request, accountId := store.accountId,
    signalId := request.intent.signalId, entrySignalId := request.intent.entrySignalId,
    tsCode := request.intent.tsCode, side := request.intent.side,
    initialExecutionId := store.resolvedExecutionId request,
    initialExecutionRequestFingerprint := fingerprint, payload := request.intent,
    persistedAt := request.persistenceTime }

/-- With a fill, the order is updated when the fill becomes available. -/
def settleOrder (order : PaperOrder) (fill : Option PaperFill) (persistedAt : Time) : PaperOrder :=
  if fill ≠ none ∧ order.updatedAt < persistedAt then
    { order with updatedAt := persistedAt }
  else order

def applyOptionalFill (ledger : Ledger) (intent : PaperOrderIntent) (fill : Option PaperFill)
    (tradeDate : Date) (availableDate : Option Date) (persistedAt : Time) :
    Except BrokerError Ledger :=
  match fill with
  | none => .ok ledger
  | some fill => store.applyFill ledger intent fill tradeDate availableDate persistedAt

section

variable (ledger : Ledger) (request : SubmitIntent)

def requireSellAuthority : Except BrokerError Unit :=
  match request.intent.side with
  | .buy => .ok ()
  | .sell =>
    store.validateSellQuantityAuthority ledger request.intent request.decisionTime request.tradeDate

/-- A new intent: its row, its order, an optional fill and its receipt. -/
def openIntent (costs : ExecutionCostCalculation) : Except BrokerError (PaperOrder × Ledger) := do
  let evidence := store.initialRequest request costs
  let fingerprint := store.digests.requestFingerprint evidence
  let existing ← store.executionReceipt ledger (store.resolvedExecutionId request)
  require (existing = none)
    (.duplicateExecutionConflict "initial execution_id is already bound to a different intent")
  store.requireSellAuthority ledger request
  let ledger ← insertIntent ledger (store.submittedIntentRow request fingerprint)
  let (order, fill) ←
    store.evaluateIntent ledger request.intent
      (store.resolvedExecutionId request) request.decisionTime
      request.tradeDate request.quote costs
  let order := settleOrder order fill request.persistenceTime
  let ledger ← insertOrder ledger order request.intent
  let ledger ←
    store.applyOptionalFill ledger request.intent fill request.tradeDate
      request.quote.acquisitionAvailableDate request.persistenceTime
  let receipt ←
    executionReceiptWithCost (store.resolvedExecutionId request) fingerprint
      (store.submittedIntentId request) order fill costs
      request.persistenceTime
  let ledger ← store.insertExecutionReceipt ledger evidence receipt
  pure (order, ledger)

/-- The transaction of `submit_intent`; a replay leaves the ledger alone. -/
def submitTransaction (costs : ExecutionCostCalculation) :
    Except BrokerError (PaperOrder × Ledger) :=
  match ledger.intentRow (store.submittedIntentId request) with
  | some existing => do
    let order ←
      store.replayIntent ledger request existing
        (store.digests.requestFingerprint (store.initialRequest request costs))
    pure (order, ledger)
  | none => store.openIntent ledger request costs

def submitIntent : Except BrokerError PaperOrder × Ledger :=
  atomically ledger <| do
    let costs ← store.prepareSubmission request
    store.submitTransaction ledger request costs

end

def checkExecution (request : ApplyExecution) : Except BrokerError Unit := do
  require (request.executedAt ≤ request.persistenceTime)
    (.valueError "persisted_at cannot precede execution")
  require (request.tradeDate = store.calendar.shanghaiDate request.executedAt)
    (.valueError "trade_date must match executed_at in Asia/Shanghai")
  require (IsPositiveLot request.quantity)
    (.valueError "execution quantity must be a positive 100-share lot")
  require (∀ quantity ∈ request.quote.executableQuantity, quantity = request.quantity)
    (.valueError "quote executable_quantity does not match execution quantity")

/-- The intent of an order of this account, for the cost calculation. -/
def preflightIntent (ledger : Ledger) (orderId : Digest) : Except BrokerError PaperOrderIntent :=
  orRaise (.keyError ("unknown paper order: " ++ hex orderId)) <| do
    let order ← store.orderRow ledger orderId
    let intent ← ledger.intentRow order.intentId
    pure intent.payload

section

variable (request : ApplyExecution) (costs : ExecutionCostCalculation)

def incrementalExecution : IncrementalExecution :=
  { executionId := request.executionId, orderId := request.orderId,
    executedAt := request.executedAt, persistedAt := request.persistenceTime,
    tradeDate := request.tradeDate, quantity := request.quantity, quote := request.quote,
    priceSnapshotId := request.priceSnapshotId, costEvidence := store.costEvidence costs }

def incrementalRequest : ExecutionRequest :=
  .incremental (store.incrementalExecution request costs)

end

section

variable (ledger : Ledger)

/-- Everything `apply_execution` computes before it opens the transaction. -/
def prepareExecution (request : ApplyExecution) :
    Except BrokerError (PaperOrderIntent × ExecutionCostCalculation) := do
  store.checkExecution request
  let intent ← store.preflightIntent ledger request.orderId
  store.requireMatchingInstrumentContext intent.tsCode request.quote.instrumentContext
  let costs ←
    store.executionCosts intent.side request.quote.executablePrice
      request.quantity request.quote.instrumentContext
  pure (intent, costs)

def timelineFills (orderId : Digest) : List FillRow :=
  sortOn (fun row : FillRow => toLex (row.sequence, row.fillId)) <| ledger.orderFills orderId

/-- The loop of `_incremental_fill_timeline` over the remaining fills. -/
def walkTimeline (order : PaperOrder) :
    Option Time → Option Time → List FillRow → Except BrokerError (Option Time × Option Time)
  | previousExecutedAt, previousPersistedAt, [] => .ok (previousExecutedAt, previousPersistedAt)
  | previousExecutedAt, previousPersistedAt, row :: rest => do
    require (row.executedAt ≤ row.persistedAt)
      (.reconciliation ("order " ++ hex order.orderId ++ " fill availability precedes execution"))
    require (∀ previous ∈ previousExecutedAt, previous ≤ row.executedAt)
      (.reconciliation
        ("order " ++ hex order.orderId ++ " fill execution sequence is nonmonotonic"))
    require (∀ previous ∈ previousPersistedAt, previous ≤ row.persistedAt)
      (.reconciliation
        ("order " ++ hex order.orderId ++ " fill availability sequence is nonmonotonic"))
    require (row.executedAt ≤ order.updatedAt ∧ row.persistedAt ≤ order.updatedAt)
      (.reconciliation ("order " ++ hex order.orderId ++ " updated_at precedes a fill timestamp"))
    walkTimeline order (some row.executedAt) (some row.persistedAt) rest

/-- `_incremental_fill_timeline`: the next sequence number and the times of the
latest fill. -/
def incrementalFillTimeline (order : PaperOrder) :
    Except BrokerError (ℕ × Option Time × Option Time) := do
  let rows := timelineFills ledger order.orderId
  require (rows.map (fun row => row.sequence) = List.range' 1 rows.length)
    (.reconciliation ("order " ++ hex order.orderId ++ " has a non-contiguous fill sequence"))
  require ((rows.map fun row => row.quantity).sum = order.filledQuantity)
    (.reconciliation ("order " ++ hex order.orderId ++ " fill quantity does not match the ledger"))
  let latest ← walkTimeline order none none rows
  pure (rows.length + 1, latest)

def orderFor (orderId : Digest) : Except BrokerError PaperOrder := do
  let row ←
    orRaise (.keyError ("unknown paper order: " ++ hex orderId)) (store.orderRow ledger orderId)
  store.orderFromRow row

def requireOpen (order : PaperOrder) (action : String) : Except BrokerError Unit :=
  require (order.status = .accepted ∨ order.status = .partiallyFilled)
    (.valueError ("order is not open for " ++ action ++ ": " ++ order.status.value))

/-- The guards on cash and positions of an incremental execution. -/
def requireFunds (intent : PaperOrderIntent) (request : ApplyExecution)
    (costs : ExecutionCostCalculation) : Except BrokerError Unit :=
  match intent.side with
  | .buy => do
    requireAcquisitionDate request.quote request.tradeDate
    require (store.CashCovers ledger costs)
      (.valueError "insufficient cash for incremental execution")
  | .sell => do
    let entrySignalId ←
      orRaise (.reconciliation "SELL order lacks entry_signal_id provenance") intent.entrySignalId
    let position := store.positionQuantities ledger intent.tsCode entrySignalId request.tradeDate
    require (request.quantity ≤ position.1 ∧ request.quantity ≤ position.2)
      (.valueError "insufficient authoritative position for incremental SELL")

/-- The average price of an order after a fill, as the source computes it: the
new fill is summed with the others, subtracted and added again. -/
def averageFillPrice (orderId : Digest) (fillPrice : ℚ)
    (quantity newFilled : ℕ) : Except BrokerError ℚ :=
  let total :=
    store.arithmetic.sum <| (ledger.orderFills orderId).map fun row =>
      store.arithmetic.mul row.price row.quantity
  let notional := store.arithmetic.mul fillPrice quantity
  let previousNotional := store.arithmetic.sub total notional
  orRaise .invalidOperation <|
    store.arithmetic.quantize
      (store.arithmetic.div (store.arithmetic.add previousNotional notional) newFilled)
      store.executionPriceTick

def fillOrder (order : PaperOrder) (newFilled : ℕ) (averagePrice : ℚ)
    (persistedAt : Time) : PaperOrder :=
  { order with
    filledQuantity := newFilled
    averageFillPrice := some averagePrice
    status := if newFilled = order.quantity then .filled else .partiallyFilled
    rejectReason := none
    updatedAt := max order.updatedAt persistedAt }

/-- The guards of an incremental execution on its order, its intent and the
quote.  Returns the sequence number of the new fill. -/
def requireExecutable (order : PaperOrder) (intent : PaperOrderIntent)
    (request : ApplyExecution) (costs : ExecutionCostCalculation) :
    Except BrokerError ℕ := do
  let (sequence, previousExecutedAt, previousPersistedAt) ← incrementalFillTimeline ledger order
  require (order.createdAt ≤ request.executedAt)
    (.valueError "executed_at cannot precede order creation")
  require (∀ previous ∈ previousExecutedAt, previous ≤ request.executedAt)
    (.valueError "executed_at cannot precede the previous fill execution")
  require (∀ previous ∈ previousPersistedAt, previous ≤ request.persistenceTime)
    (.valueError "persisted_at cannot precede previous fill availability")
  require (request.executedAt < intent.expiresAt) (.valueError "order expired before execution")
  require (request.quantity ≤ order.quantity - order.filledQuantity)
    (.valueError "execution quantity exceeds unfilled order remainder")
  require (¬ (request.quote.suspended ∨ request.quote.limitLocked ∨ request.quote.riskRejected))
    (.valueError "execution quote is not executable")
  require (¬ MissesLimit intent.toIntentFields costs.executedPrice)
    (.valueError "execution quote misses immutable limit price")
  store.requireFunds ledger intent request costs
  pure sequence

/-- A new incremental execution: the fill, the order update and the receipt. -/
def executeIncrement (request : ApplyExecution) (preflight : PaperOrderIntent)
    (costs : ExecutionCostCalculation) : Except BrokerError Ledger := do
  let evidence := store.incrementalRequest request costs
  require (findKey (fun row : FillRow => row.executionId) request.executionId ledger.fills = none)
    (.reconciliation "execution fill is missing its immutable receipt")
  let order ← store.orderFor ledger request.orderId
  let intentRow ←
    orRaise (.reconciliation "paper order is missing its intent") (ledger.intentRow order.intentId)
  let intent := intentRow.payload
  require (intent.side = preflight.side)
    (.reconciliation "paper order changed while preparing v3 cost evidence")
  requireOpen order "execution"
  let sequence ← store.requireExecutable ledger order intent request costs
  let fill ←
    store.paperFill request.orderId request.executionId sequence
      request.quantity costs request.executedAt request.priceSnapshotId
  let ledger ←
    store.applyFill ledger intent fill request.tradeDate
      request.quote.acquisitionAvailableDate request.persistenceTime
  let newFilled := order.filledQuantity + request.quantity
  let averagePrice ←
    store.averageFillPrice ledger request.orderId costs.executedPrice request.quantity newFilled
  let updated := fillOrder order newFilled averagePrice request.persistenceTime
  let ledger : Ledger :=
    { ledger with
      orders := updateKey (fun row : OrderRow => row.orderId) request.orderId
        (fun row => { row with toPaperOrder := updated }) ledger.orders }
  let receipt ←
    executionReceiptWithCost request.executionId (store.digests.requestFingerprint evidence)
      (store.digests.intentId intent.toIntentFields) updated (some fill) costs
      request.persistenceTime
  store.insertExecutionReceipt ledger evidence receipt

end

/-- The transaction of `apply_execution`: a known execution returns its receipt,
a new one the ledger to commit. -/
def applyTransaction (ledger : Ledger) (request : ApplyExecution) :
    Except BrokerError (PaperExecutionReceipt ⊕ Ledger) := do
  let (preflight, costs) ← store.prepareExecution ledger request
  let existing ← store.executionReceipt ledger request.executionId
  match existing with
    | some receipt => do
      require
        (receipt.order.orderId = request.orderId ∧
          receipt.requestFingerprint =
            store.digests.requestFingerprint (store.incrementalRequest request costs))
        (.duplicateExecutionConflict "execution_id is already bound to different immutable content")
      pure (.inl receipt)
    | none => do
      let committed ← store.executeIncrement ledger request preflight costs
      pure (.inr committed)

section

variable (ledger : Ledger)

/-- `execution`, for a receipt that must exist. -/
def readExecution (executionId : Digest) :
    Except BrokerError PaperExecutionReceipt := do
  let receipt ← store.executionReceipt ledger executionId
  orRaise .assertionError receipt

def applyExecution (request : ApplyExecution) : Except BrokerError PaperExecutionReceipt × Ledger :=
  match store.applyTransaction ledger request with
  | .error raised => (.error raised, ledger)
  | .ok (.inl receipt) => (.ok receipt, ledger)
  | .ok (.inr committed) => (store.readExecution committed request.executionId, committed)

/-! ## `close_open_order` -/

def closeTransaction (request : CloseOpenOrder) : Except BrokerError Ledger := do
  require (request.status = .cancelled ∨ request.status = .expired)
    (.valueError "close status must be CANCELLED or EXPIRED")
  require (request.decidedAt ≤ request.persistenceTime)
    (.valueError "persisted_at cannot precede close decision")
  let order ← store.orderFor ledger request.orderId
  requireOpen order "close"
  let (_, previousExecutedAt, previousPersistedAt) ← incrementalFillTimeline ledger order
  require (∀ previous ∈ previousExecutedAt, previous ≤ request.decidedAt)
    (.valueError "close decision cannot precede the latest fill execution")
  require (∀ previous ∈ previousPersistedAt, previous ≤ request.persistenceTime)
    (.valueError "close persistence cannot precede latest fill availability")
  let intentRow ←
    orRaise (.reconciliation "paper order is missing its intent") (ledger.intentRow order.intentId)
  require (request.status = .expired → intentRow.payload.expiresAt ≤ request.decidedAt)
    (.valueError "order cannot expire before intent expires_at")
  pure
    { ledger with
      orders := updateKey (fun row : OrderRow => row.orderId) request.orderId
        (fun row =>
          { row with
            status := request.status, updatedAt := max order.updatedAt request.persistenceTime })
        ledger.orders }

/-- `order`, for a row that must exist. -/
def readOrder (orderId : Digest) : Except BrokerError PaperOrder := do
  let row ← orRaise .assertionError (store.orderRow ledger orderId)
  store.orderFromRow row

def closeOpenOrder (request : CloseOpenOrder) : Except BrokerError PaperOrder × Ledger :=
  match store.closeTransaction ledger request with
  | .error raised => (.error raised, ledger)
  | .ok committed => (store.readOrder committed request.orderId, committed)

end

end PaperBrokerStore

end RQuant.Paper
