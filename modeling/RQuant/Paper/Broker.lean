import RQuant.Foundation.Fifo
import RQuant.Paper.Ledger

/-!
# The paper broker

`submit_intent`, `apply_execution` and `close_open_order`.  A transaction body
returns the ledger it commits; a raise inside it rolls back.  The last two read
their result back after the commit, so a call returns its outcome together with
the ledger it leaves.
-/

namespace RQuant.Paper

open Foundation

structure SubmitIntent where
  intent : PaperOrderIntent
  executionId : Option Digest
  decisionTime : Time
  persistedAt : Option Time
  tradeDate : Date
  quote : BrokerExecutionContext

/-- `persisted_at` defaults to the decision time. -/
def SubmitIntent.persistenceTime (request : SubmitIntent) : Time :=
  request.persistedAt.getD request.decisionTime

def SubmitIntent.calculationQuantity (request : SubmitIntent) : ℕ :=
  match request.quote.executableQuantity with
  | none => request.intent.quantity
  | some 0 => request.intent.quantity
  | some quantity => quantity

structure ApplyExecution where
  (orderId executionId : Digest)
  executedAt : Time
  tradeDate : Date
  quantity : ℕ
  quote : BrokerExecutionContext
  priceSnapshotId : Digest
  persistedAt : Option Time

/-- `persisted_at` defaults to the execution time. -/
def ApplyExecution.persistenceTime (request : ApplyExecution) : Time :=
  request.persistedAt.getD request.executedAt

structure CloseOpenOrder where
  orderId : Digest
  status : PaperOrderStatus
  decidedAt : Time
  persistedAt : Option Time

/-- `persisted_at` defaults to the decision time. -/
def CloseOpenOrder.persistenceTime (request : CloseOpenOrder) : Time :=
  request.persistedAt.getD request.decidedAt

def Ledger.BuyProvenance (ledger : Ledger) (lot : LotRow) : Prop :=
  ∃ fill ∈ ledger.fills, fill.fillId = lot.lotId ∧
    ∃ order ∈ ledger.orders, order.orderId = fill.orderId ∧ order.side = .buy ∧
      ∃ intent ∈ ledger.intents, intent.intentId = order.intentId ∧
        intent.signalId = lot.entrySignalId ∧
        intent.accountId = lot.accountId ∧
        intent.tsCode = lot.tsCode ∧
        intent.side = .buy
deriving Decidable

def lotFifoKey (lot : LotRow) : Date ×ₗ Date ×ₗ Time ×ₗ Time ×ₗ ℕ ×ₗ Digest :=
  toLex (lot.availableDate, toLex (lot.acquisitionTradeDate,
    toLex (lot.buyExecutedAt, toLex (lot.buyPersistedAt, toLex (lot.buyFillSequence, lot.lotId)))))

def lotQuantity (lots : List LotRow) : ℕ := (lots.map LotRow.remainingQuantity).sum

namespace PaperBrokerStore

variable (store : PaperBrokerStore)

section

variable (ledger : Ledger) (tsCode : String)

def positionLots (entrySignalId : Option Digest) : List LotRow :=
  ledger.lots.filter fun lot =>
    lot.accountId = store.accountId ∧ lot.tsCode = tsCode ∧
      some lot.entrySignalId = entrySignalId ∧ ledger.BuyProvenance lot

/-- `_position_quantities`: the total and the available quantity. -/
def positionQuantities (entrySignalId : Digest) (tradeDate : Date) : ℕ × ℕ :=
  let lots := store.positionLots ledger tsCode (some entrySignalId)
  (lotQuantity lots, lotQuantity (lots.filter fun lot => lot.availableDate ≤ tradeDate))

def eligibleLots (entrySignalId : Option Digest) (tradeDate : Date) : List LotRow :=
  sortOn lotFifoKey <|
    (store.positionLots ledger tsCode entrySignalId).filter fun lot =>
      0 < lot.remainingQuantity ∧ lot.availableDate ≤ tradeDate

end

/-- `INSERT INTO paper_fill`, with the unique keys of the table. -/
def insertFill (ledger : Ledger) (fill : PaperFill) (persistedAt : Time) :
    Except BrokerError Ledger := do
  require (fill.fillId ∉ ledger.fills.map (·.fillId)) (.integrityError "paper_fill.fill_id")
  require (fill.executionId ∉ ledger.fills.map (·.executionId))
    (.integrityError "paper_fill.execution_id")
  require ((fill.orderId, fill.sequence) ∉ ledger.fills.map fun row => (row.orderId, row.sequence))
    (.integrityError "paper_fill.order_id, paper_fill.sequence")
  pure
    { ledger with
      fills := ledger.fills ++ [{ toPaperFill := fill, persistedAt := persistedAt }] }

def buyCost (fill : PaperFill) : ℚ :=
  store.arithmetic.add (fill.notional store.arithmetic) fill.totalFees

def netProceeds (fill : PaperFill) : ℚ :=
  store.arithmetic.sub (fill.notional store.arithmetic) fill.totalFees

def acquiredLot (intent : PaperOrderIntent) (fill : PaperFill)
    (tradeDate availableDate : Date) (persistedAt : Time) : LotRow :=
  { lotId := fill.fillId, accountId := store.accountId, tsCode := intent.tsCode,
    entrySignalId := intent.signalId, acquisitionTradeDate := tradeDate, availableDate,
    originalQuantity := fill.quantity, remainingQuantity := fill.quantity,
    unitCost := store.arithmetic.div (store.buyCost fill) fill.quantity, persistedAt,
    buyExecutedAt := fill.executedAt, buyPersistedAt := persistedAt,
    buyFillSequence := fill.sequence }

/-- The lots a SELL fill takes from, with the quantity taken from each, and the
quantity left unmet. -/
def sellAllocation (ledger : Ledger) (intent : PaperOrderIntent) (quantity : ℕ)
    (tradeDate : Date) : List (LotRow × ℕ) × ℕ :=
  allocate quantity <|
    (store.eligibleLots ledger intent.tsCode intent.entrySignalId
      tradeDate).map fun lot => (lot, lot.remainingQuantity)

/-- `remaining_quantity = remaining_quantity - ?` for every taken lot. -/
def consumeLots (allocations : List (LotRow × ℕ)) (lots : List LotRow) : List LotRow :=
  allocations.foldl
    (fun lots allocation =>
      updateKey LotRow.lotId allocation.1.lotId
        (fun lot =>
          { lot with
            remainingQuantity := lot.remainingQuantity - allocation.2 })
        lots)
    lots

def consumptionRows (fill : PaperFill) (persistedAt : Time)
    (allocations : List (LotRow × ℕ)) : List ConsumptionRow :=
  allocations.map fun allocation =>
    { fillId := fill.fillId, lotId := allocation.1.lotId, quantity := allocation.2,
      unitCost := allocation.1.unitCost, persistedAt }

def costBasis (allocations : List (LotRow × ℕ)) : ℚ :=
  store.arithmetic.sum <| allocations.map fun allocation =>
    store.arithmetic.mul allocation.1.unitCost allocation.2

def applyFill (ledger : Ledger) (intent : PaperOrderIntent) (fill : PaperFill)
    (tradeDate : Date) (availableDate : Option Date) (persistedAt : Time) :
    Except BrokerError Ledger := do
  let ledger ← insertFill ledger fill persistedAt
  match intent.side with
    | .buy => do
      let availableDate ← orRaise .assertionError availableDate
      let lot := store.acquiredLot intent fill tradeDate availableDate persistedAt
      let lots ← insertUnique LotRow.lotId (.integrityError "paper_lot.lot_id") ledger.lots lot
      pure
        { ledger with
          account :=
            { ledger.account with
              cash := store.arithmetic.sub ledger.account.cash (store.buyCost fill) }
          lots := lots }
    | .sell => do
      let allocation := store.sellAllocation ledger intent fill.quantity tradeDate
      require (allocation.2 = 0) (.reconciliation "available lot allocation became incomplete")
      pure
        { ledger with
          account :=
            { ledger.account with
              cash := store.arithmetic.add ledger.account.cash (store.netProceeds fill)
              realizedPnl := store.arithmetic.sub
                (store.arithmetic.add ledger.account.realizedPnl (store.netProceeds fill))
                (store.costBasis allocation.1) }
          lots := consumeLots allocation.1 ledger.lots
          consumptions :=
            ledger.consumptions ++ consumptionRows fill persistedAt allocation.1 }

def draftOrder (intent : PaperOrderIntent) (decisionTime : Time)
    (status : PaperOrderStatus) (rejectReason : Option PaperRejectReason)
    (filledQuantity : ℕ) (fillPrice : Option ℚ) : PaperOrder :=
  let intentId := store.digests.intentId intent.toIntentFields
  { orderId := store.digests.orderId store.accountId intentId
    intentId := intentId
    accountId := store.accountId
    tsCode := intent.tsCode
    side := intent.side
    orderType := intent.orderType
    quantity := intent.quantity
    filledQuantity := filledQuantity
    averageFillPrice := fillPrice
    status := if rejectReason.isSome then .rejected else status
    rejectReason := rejectReason
    createdAt := decisionTime
    updatedAt := decisionTime }

def newOrder (intent : PaperOrderIntent) (decisionTime : Time)
    (status : PaperOrderStatus) (rejectReason : Option PaperRejectReason)
    (filledQuantity : ℕ) (fillPrice : Option ℚ) :
    Except BrokerError PaperOrder := do
  let order := store.draftOrder intent decisionTime status rejectReason filledQuantity fillPrice
  order.validateOrder (store.expectedOrderId order)
  pure order

section

variable (orderId executionId : Digest) (sequence quantity : ℕ)
  (calculation : ExecutionCostCalculation) (executedAt : Time) (priceSnapshotId : Digest)

def draftFill : PaperFill :=
  { fillId := store.digests.fillId orderId executionId, executionId, orderId, sequence, quantity,
    price := calculation.executedPrice, commission := calculation.commission,
    transferFee := calculation.transferFee, tax := calculation.stampDuty,
    totalFees := calculation.totalFees, costSpecId := calculation.costSpecId,
    costContextFingerprint := calculation.costContextFingerprint, executedAt, priceSnapshotId }

def paperFill : Except BrokerError PaperFill := do
  let fill :=
    store.draftFill orderId executionId sequence quantity calculation executedAt priceSnapshotId
  fill.validateFill store.arithmetic (store.expectedFillId fill)
  pure fill

end

section

variable (executionId requestFingerprint intentId : Digest) (order : PaperOrder)
  (fill : Option PaperFill) (calculation : ExecutionCostCalculation) (persistedAt : Time)

def draftReceipt : PaperExecutionReceipt :=
  { executionId, requestFingerprint, intentId, order, fill, costSpecId := calculation.costSpecId,
    costContextFingerprint := calculation.costContextFingerprint, costCalculation := calculation,
    persistedAt }

def executionReceiptWithCost : Except BrokerError PaperExecutionReceipt := do
  let receipt :=
    draftReceipt executionId requestFingerprint intentId order fill calculation persistedAt
  receipt.validateExecution
  pure receipt

end

def storedReceipt (request : ExecutionRequest) (receipt : PaperExecutionReceipt) : ReceiptRow :=
  { executionId := receipt.executionId, accountId := store.accountId, intentId := receipt.intentId,
    orderId := receipt.order.orderId, requestFingerprint := receipt.requestFingerprint, request,
    receipt, transferFee := receipt.costCalculation.transferFee,
    totalFees := receipt.costCalculation.totalFees, costSpecId := receipt.costSpecId,
    costContextFingerprint := receipt.costContextFingerprint, persistedAt := receipt.persistedAt }

def insertExecutionReceipt (ledger : Ledger) (request : ExecutionRequest)
    (receipt : PaperExecutionReceipt) : Except BrokerError Ledger := do
  require (store.digests.requestFingerprint request = receipt.requestFingerprint)
    (.reconciliation "execution request evidence does not match its fingerprint")
  let receipts ←
    insertUnique ReceiptRow.executionId (.integrityError "paper_execution_receipt.execution_id")
      ledger.receipts (store.storedReceipt request receipt)
  pure { ledger with receipts := receipts }

/-- `INSERT INTO paper_intent`, with the unique keys of the table. -/
def insertIntent (ledger : Ledger) (row : IntentRow) : Except BrokerError Ledger := do
  require (row.intentId ∉ ledger.intents.map (·.intentId))
    (.integrityError "paper_intent.intent_id")
  require (row.initialExecutionId ∉ ledger.intents.map (·.initialExecutionId))
    (.integrityError "paper_intent.initial_execution_id")
  require
    ((row.accountId, row.signalId) ∉
      ledger.intents.map fun other => (other.accountId, other.signalId))
    (.integrityError "paper_intent.account_id, paper_intent.signal_id")
  pure { ledger with intents := ledger.intents ++ [row] }

/-- `_insert_order`, with the unique keys of the table. -/
def insertOrder (ledger : Ledger) (order : PaperOrder) (intent : PaperOrderIntent) :
    Except BrokerError Ledger := do
  require (order.orderId ∉ ledger.orders.map (·.orderId)) (.integrityError "paper_order.order_id")
  require (order.intentId ∉ ledger.orders.map (·.intentId))
    (.integrityError "paper_order.intent_id")
  pure
    { ledger with
      orders :=
        ledger.orders ++ [{ toPaperOrder := order, entrySignalId := intent.entrySignalId }] }

def quoteRejection (intent : PaperOrderIntent) (decisionTime : Time)
    (quote : BrokerExecutionContext) : Option PaperRejectReason :=
  if quote.suspended then some .suspended
  else if quote.limitLocked then some .limitLocked
  else if quote.riskRejected then some .riskRejected
  else if intent.expiresAt ≤ decisionTime then some .expired
  else none

def MissesLimit (intent : IntentFields) (fillPrice : ℚ) : Prop :=
  intent.orderType = .limit ∧
    ∃ limit ∈ intent.limitPrice, (intent.side = .buy ∧ limit.toRat < fillPrice) ∨
      (intent.side = .sell ∧ fillPrice < limit.toRat)
deriving Decidable

/-- The guards an acquisition date passes on both BUY paths. -/
def requireAcquisitionDate (quote : BrokerExecutionContext)
    (tradeDate : Date) : Except BrokerError Unit := do
  let availableDate ←
    orRaise (.valueError "BUY execution requires acquisition_available_date")
      quote.acquisitionAvailableDate
  require (tradeDate < availableDate)
    (.valueError "BUY available date must be after acquisition trade date")

def CashCovers (ledger : Ledger) (costs : ExecutionCostCalculation) : Prop :=
  store.arithmetic.add costs.executedNotional costs.totalFees ≤ ledger.account.cash

instance (ledger : Ledger) (costs : ExecutionCostCalculation) :
    Decidable (store.CashCovers ledger costs) :=
  inferInstanceAs (Decidable (_ ≤ _))

def fundsRejection (ledger : Ledger) (intent : PaperOrderIntent) (tradeDate : Date)
    (quote : BrokerExecutionContext) (costs : ExecutionCostCalculation)
    (executionQuantity : ℕ) :
    Except BrokerError (Option PaperRejectReason) :=
  match intent.side with
  | .buy => do
    requireAcquisitionDate quote tradeDate
    pure (if store.CashCovers ledger costs then none
      else some .insufficientCash)
  | .sell => do
    let entrySignalId ←
      orRaise (.reconciliation "SELL intent is missing entry_signal_id provenance")
        intent.entrySignalId
    let position := store.positionQuantities ledger intent.tsCode entrySignalId tradeDate
    pure (if position.1 < intent.quantity then some .insufficientPosition
      else if position.2 < executionQuantity then some .tPlusOne
      else none)

def unfilled (intent : PaperOrderIntent) (decisionTime : Time)
    (rejectReason : Option PaperRejectReason) :
    Except BrokerError (PaperOrder × Option PaperFill) := do
  let order ← store.newOrder intent decisionTime .accepted rejectReason 0 none
  pure (order, none)

def filledAtOnce (intent : PaperOrderIntent) (executionId : Digest) (decisionTime : Time)
    (costs : ExecutionCostCalculation) (executionQuantity : ℕ) :
    Except BrokerError (PaperOrder × Option PaperFill) := do
  let order ←
    store.newOrder intent decisionTime
      (if executionQuantity = intent.quantity then .filled
        else .partiallyFilled)
      none executionQuantity (some costs.executedPrice)
  let fill ←
    store.paperFill order.orderId executionId 1 executionQuantity costs
      decisionTime intent.priceSnapshotId
  pure (order, some fill)

def evaluateIntent (ledger : Ledger) (intent : PaperOrderIntent) (executionId : Digest)
    (decisionTime : Time) (tradeDate : Date) (quote : BrokerExecutionContext)
    (costs : ExecutionCostCalculation) :
    Except BrokerError (PaperOrder × Option PaperFill) :=
  match quoteRejection intent decisionTime quote with
  | some reason => store.unfilled intent decisionTime (some reason)
  | none =>
    if decisionTime < intent.earliestExecutionAt then
      store.unfilled intent decisionTime none
    else if MissesLimit intent.toIntentFields costs.executedPrice then
      -- A missed limit stays ACCEPTED with no cash reserved.
      store.unfilled intent decisionTime none
    else do
      let executionQuantity := quote.executableQuantity.getD intent.quantity
      require (executionQuantity ≤ intent.quantity)
        (.valueError "executable_quantity cannot exceed intent quantity")
      if executionQuantity = 0 then
        store.unfilled intent decisionTime none
      else do
        require (costs.orderInput.quantity = executionQuantity)
          (.reconciliation
            ("initial execution cost evidence quantity does not match " ++ "the resolved fill"))
        let rejection ← store.fundsRejection ledger intent tradeDate quote costs executionQuantity
        match rejection with
          | some reason => store.unfilled intent decisionTime (some reason)
          | none => store.filledAtOnce intent executionId decisionTime costs executionQuantity

end PaperBrokerStore

end RQuant.Paper
