import RQuant.Paper.Calls

/-!
# The audit of the ledger

`reconcile` reads all tables again and collects every inconsistency it finds in
receipts, orders, fills, lots and balances.  An empty list of errors gives a
reconciliation record, whose cash must not be negative.
-/

namespace RQuant.Paper

open Foundation

structure PaperBrokerReconciliation where
  accountId : String
  (orderCount fillCount openLotQuantity : ℕ)
  (cash realizedPnl : ℚ)
  deriving DecidableEq

/-- An order joined with its intent. -/
structure AuditOrder where
  row : OrderRow
  intent : IntentRow

/-- A fill joined with its order and intent. -/
structure AuditFill where
  row : FillRow
  order : OrderRow
  intent : IntentRow

/-- What the loop over all fills has collected. -/
structure FillAudit where
  errors : List String
  (cash realizedPnl : ℚ)

namespace PaperBrokerStore

variable (store : PaperBrokerStore)

section

variable (ledger : Ledger)

def auditOrders : List AuditOrder :=
  sortOn (fun item : AuditOrder => item.row.orderId) <|
    (ledger.orders.filter fun row =>
      row.accountId = store.accountId).filterMap fun row => do
        let intent ← ledger.intentRow row.intentId
        pure { row := row, intent := intent }

/-- The fills of the account in the order of their ids. -/
def auditFills : List AuditFill :=
  sortOn (fun item : AuditFill => item.row.fillId) <|
    ledger.fills.filterMap fun row => do
      let order ← store.orderRow ledger row.orderId
      let intent ← ledger.intentRow order.intentId
      pure { row := row, order := order, intent := intent }

def receiptIds : List Digest :=
  (ledger.receipts.filter fun row => row.accountId = store.accountId).map fun row => row.executionId

def expectedReceiptIds : List Digest :=
  ((store.auditOrders ledger).map fun item => item.intent.initialExecutionId) ++
    (store.auditFills ledger).map fun item => item.row.executionId

def readableReceipt (executionId : Digest) : Option PaperExecutionReceipt :=
  match store.executionReceipt ledger executionId with
  | .ok receipt => receipt
  | .error _ => none

def auditReceiptIds : List String :=
  reportUnless
    (store.expectedReceiptIds ledger ⊆ store.receiptIds ledger ∧
      store.receiptIds ledger ⊆ store.expectedReceiptIds ledger)
    "paper execution receipt identity set mismatch"

/-- Reading one receipt; only reconciliation errors are collected. -/
def auditReceipt (executionId : Digest) : Except BrokerError (List String) :=
  match store.executionReceipt ledger executionId with
  | .ok _ => .ok []
  | .error (.reconciliation message) => .ok [message]
  | .error raised => .error raised

end

def auditOrderIntent (order : PaperOrder) (intent : IntentRow) : List String :=
  reportUnless
    (store.digests.intentId intent.payload.toIntentFields = order.intentId ∧
      intent.payload.accountId = order.accountId ∧
      intent.payload.tsCode = order.tsCode ∧
      intent.payload.side = order.side ∧
      intent.payload.orderType = order.orderType ∧
      intent.payload.quantity = order.quantity ∧
      intent.signalId = intent.payload.signalId ∧
      intent.entrySignalId = intent.payload.entrySignalId ∧
      intent.tsCode = intent.payload.tsCode ∧
      intent.side = intent.payload.side)
    ("order " ++ hex order.orderId ++ " intent/order mismatch")

def auditInitialReceipt (ledger : Ledger) (order : PaperOrder) (intent : IntentRow) : List String :=
  match store.readableReceipt ledger intent.initialExecutionId with
  | none => ["order " ++ hex order.orderId ++ " initial execution receipt is missing"]
  | some receipt =>
    reportUnless
      (receipt.intentId = store.digests.intentId intent.payload.toIntentFields ∧
        receipt.order.orderId = order.orderId ∧
        receipt.requestFingerprint = intent.initialExecutionRequestFingerprint)
      ("order " ++ hex order.orderId ++ " initial execution receipt mismatch")

def expectedEntrySignalId (intent : PaperOrderIntent) : Option Digest :=
  match intent.side with
  | .buy => none
  | .sell => intent.entrySignalId

def auditEntrySignal (orderId : Digest) (entrySignalId : Option Digest)
    (intent : PaperOrderIntent) : List String :=
  reportUnless (entrySignalId = expectedEntrySignalId intent)
    ("order " ++ hex orderId ++ " entry_signal_id provenance mismatch")

/-- Whether the entry of a SELL is a BUY of its account and code, with a
fill. -/
def EntryReconciles (ledger : Ledger) (intent : PaperOrderIntent) (entry : IntentRow)
    (order : OrderIdentity) : Prop :=
  entry.payload.side = .buy ∧ some entry.payload.signalId = intent.entrySignalId ∧
    entry.payload.accountId = intent.accountId ∧
    entry.payload.tsCode = intent.tsCode ∧
    order.accountId = intent.accountId ∧
    order.tsCode = intent.tsCode ∧
    order.side = .buy ∧
    order.entrySignalId = none ∧
    ∃ fill ∈ ledger.fills, fill.orderId = order.orderId

instance (ledger : Ledger) (intent : PaperOrderIntent) (entry : IntentRow) (order : OrderIdentity) :
    Decidable (EntryReconciles ledger intent entry order) :=
  inferInstanceAs (Decidable (_ ∧ _))

section

variable (ledger : Ledger) (intent : PaperOrderIntent) (order : PaperOrder)

def reconcileSellEntryProvenance : List String :=
  match intent.sellQuantityAuthority, intent.entrySignalId with
  | some authority, some entrySignalId =>
    if authority.Matches intent.toIntentFields then
      match store.entryRows ledger entrySignalId intent.tsCode with
      | [(entry, entryOrder)] =>
        reportUnless (EntryReconciles ledger intent entry entryOrder)
          ("order " ++ hex order.orderId ++ " entry_signal_id provenance mismatch")
      | _ => ["order " ++ hex order.orderId ++ " entry_signal_id does not resolve to one BUY entry"]
    else
      ["order " ++ hex order.orderId ++ " SELL authority provenance mismatch"]
  | _, _ => ["order " ++ hex order.orderId ++ " SELL authority provenance mismatch"]

def auditSellEntry : List String :=
  match intent.side with
  | .buy => []
  | .sell => store.reconcileSellEntryProvenance ledger intent order

end

def auditTimeline (order : PaperOrder) : Option Time → Option Time → List FillRow → List String
  | _, _, [] => []
  | previousExecutedAt, previousPersistedAt, row :: rest =>
    reportUnless (row.executedAt ≤ row.persistedAt)
        ("order " ++ hex order.orderId ++ " fill " ++
          toString row.sequence ++ " availability precedes execution") ++
      reportUnless (∀ previous ∈ previousExecutedAt, previous ≤ row.executedAt)
        ("order " ++ hex order.orderId ++ " fill execution sequence is nonmonotonic") ++
      reportUnless (∀ previous ∈ previousPersistedAt, previous ≤ row.persistedAt)
        ("order " ++ hex order.orderId ++ " fill availability sequence is nonmonotonic") ++
      reportUnless (row.executedAt ≤ order.updatedAt)
        ("order " ++ hex order.orderId ++ " updated_at precedes fill execution") ++
      reportUnless (row.persistedAt ≤ order.updatedAt)
        ("order " ++ hex order.orderId ++ " updated_at precedes fill availability") ++
      auditTimeline order (some row.executedAt) (some row.persistedAt) rest

/-- The volume-weighted price of fills, before it is put on the tick. -/
def weightedPrice (fills : List FillRow) : ℚ :=
  store.arithmetic.div
    (store.arithmetic.sum <| fills.map fun row => store.arithmetic.mul row.price row.quantity)
    ((fills.map fun row => row.quantity).sum : ℕ)

def auditAverage (order : PaperOrder) (fills : List FillRow) : Except BrokerError (List String) :=
  match fills with
  | [] =>
    pure
      (reportUnless (order.averageFillPrice = none)
        ("order " ++ hex order.orderId ++ " has average price without fills"))
  | _ :: _ => do
    let price ←
      orRaise .invalidOperation <|
        store.arithmetic.quantize (store.weightedPrice fills) store.executionPriceTick
    pure
      (reportUnless (order.averageFillPrice = some price)
        ("order " ++ hex order.orderId ++ " average fill price mismatch"))

def auditStatus (order : PaperOrder) (fillQuantity : ℕ) : List String :=
  match order.status with
  | .pending | .accepted | .rejected =>
    reportUnless (fillQuantity = 0) ("unfilled order " ++ hex order.orderId ++ " has fills")
  | .partiallyFilled =>
    reportUnless (0 < fillQuantity ∧ fillQuantity < order.quantity)
      ("partially filled order " ++ hex order.orderId ++ " has invalid fill quantity")
  | .filled =>
    reportUnless (fillQuantity = order.quantity)
      ("filled order " ++ hex order.orderId ++ " is not fully consumed")
  | .cancelled | .expired =>
    reportUnless (fillQuantity < order.quantity)
      ("closed order " ++ hex order.orderId ++ " has no unfilled remainder")

section

variable (ledger : Ledger)

def auditOrderFills (orderId : Digest) : List FillRow :=
  sortOn (fun row : FillRow => toLex (row.sequence, row.fillId)) <|
    ((store.auditFills ledger).map AuditFill.row).filter fun row => row.orderId = orderId

def auditOrder (item : AuditOrder) : Except BrokerError (List String) := do
  let order ← store.orderFromRow item.row
  let fills := store.auditOrderFills ledger order.orderId
  let fillQuantity := (fills.map fun row => row.quantity).sum
  let average ← store.auditAverage order fills
  pure
    (store.auditOrderIntent order item.intent ++
      store.auditInitialReceipt ledger order item.intent ++
      auditEntrySignal order.orderId item.row.entrySignalId item.intent.payload ++
      store.auditSellEntry ledger item.intent.payload order ++
      reportUnless (fillQuantity = order.filledQuantity)
        ("order " ++ hex order.orderId ++ " fill quantity mismatch") ++
      reportUnless (fills.map (fun row => row.sequence) = List.range' 1 fills.length)
        ("order " ++ hex order.orderId ++ " fill sequence mismatch") ++
      auditTimeline order none none fills ++
      average ++
      auditStatus order fillQuantity)

def CostsDescribe (calculation : ExecutionCostCalculation) (side : Side)
    (fill : PaperFill) : Prop :=
  calculation.orderInput.side = side ∧ calculation.orderInput.quantity = fill.quantity ∧
    calculation.costSpecId = fill.costSpecId ∧
    calculation.costContextFingerprint = fill.costContextFingerprint
deriving Decidable

def auditCosts (side : Side) (fill : PaperFill) : Except BrokerError (List String) :=
  match store.readableReceipt ledger fill.executionId with
  | none => .ok ["fill " ++ hex fill.fillId ++ " v3 cost provenance mismatch"]
  | some receipt =>
    let calculation := receipt.costCalculation
    if CostsDescribe calculation side fill then
      match
        calculateExecutionCosts store.arithmetic store.digests.toCostDigests
          store.spec calculation.orderInput
          calculation.instrumentContext with
      | .ok recomputed =>
        .ok <|
          reportUnless
            (recomputed = calculation ∧ fill.price = calculation.executedPrice ∧
              fill.commission = calculation.commission ∧
              fill.transferFee = calculation.transferFee ∧
              fill.tax = calculation.stampDuty ∧
              fill.totalFees = calculation.totalFees)
            ("fill " ++ hex fill.fillId ++ " v3 cost calculation mismatch")
      | .error (.valueError message) =>
        .ok ["fill " ++ hex fill.fillId ++ " v3 cost context is invalid: " ++ message]
      | .error raised => .error raised
    else .ok ["fill " ++ hex fill.fillId ++ " v3 cost provenance mismatch"]

def auditFillReceipt (fill : PaperFill) : List String :=
  reportUnless (∃ receipt ∈ store.readableReceipt ledger fill.executionId, receipt.fill = some fill)
    ("fill " ++ hex fill.fillId ++ " immutable execution receipt mismatch")

section

variable (item : AuditFill)

def auditAvailability : List String :=
  reportUnless (item.row.executedAt ≤ item.row.persistedAt)
      ("fill " ++ hex item.row.fillId ++ " availability precedes execution") ++
    reportUnless (item.intent.persistedAt ≤ item.row.persistedAt)
      ("fill " ++ hex item.row.fillId ++ " availability precedes its intent")

def auditLot : List String :=
  match findKey LotRow.lotId item.row.fillId ledger.lots with
  | none => ["buy fill " ++ hex item.row.fillId ++ " lot mismatch"]
  | some lot =>
    (if lot.originalQuantity = item.row.quantity then
      reportUnless
        (lot.entrySignalId = item.intent.payload.signalId ∧
          lot.accountId = item.intent.payload.accountId ∧
          lot.tsCode = item.intent.payload.tsCode)
        ("buy fill " ++ hex item.row.fillId ++ " lot entry_signal_id provenance mismatch")
    else ["buy fill " ++ hex item.row.fillId ++ " lot mismatch"]) ++
      reportUnless (lot.persistedAt = item.row.persistedAt)
        ("buy fill " ++ hex item.row.fillId ++ " lot availability mismatch") ++
      reportUnless
        (lot.buyExecutedAt = item.row.executedAt ∧ lot.buyPersistedAt = item.row.persistedAt ∧
          lot.buyFillSequence = item.row.sequence)
        ("buy fill " ++ hex item.row.fillId ++ " lot timeline mismatch")

/-- The consumptions of a SELL fill joined with their lots. -/
def fillAllocations (fillId : Digest) : List (ConsumptionRow × LotRow) :=
  (ledger.consumptions.filter fun row => row.fillId = fillId).filterMap
    fun row => do
      let lot ← findKey LotRow.lotId row.lotId ledger.lots
      pure (row, lot)

def auditAllocation (allocation : ConsumptionRow × LotRow) : List String :=
  reportUnless (allocation.1.persistedAt = item.row.persistedAt)
      ("sell fill " ++ hex item.row.fillId ++ " consumption availability mismatch") ++
    reportUnless
      (some allocation.2.entrySignalId = item.intent.payload.entrySignalId ∧
        allocation.2.accountId = item.intent.payload.accountId ∧
        allocation.2.tsCode = item.intent.payload.tsCode)
      ("sell fill " ++ hex item.row.fillId ++ " lot entry_signal_id provenance mismatch")

def auditAllocations : List String :=
  let allocations := fillAllocations ledger item.row.fillId
  reportUnless ((allocations.map fun allocation => allocation.1.quantity).sum = item.row.quantity)
      ("sell fill " ++ hex item.row.fillId ++ " allocation mismatch") ++
    allocations.flatMap (auditAllocation item)

def consumedCost (fillId : Digest) : ℚ :=
  store.arithmetic.sum <|
    (fillAllocations ledger fillId).map fun allocation =>
      store.arithmetic.mul allocation.1.unitCost allocation.1.quantity

def auditCash (cash : ℚ) (side : Side) (fill : PaperFill) : ℚ :=
  match side with
  | .buy => store.arithmetic.sub cash (store.buyCost fill)
  | .sell => store.arithmetic.add cash (store.netProceeds fill)

def auditRealized (realizedPnl : ℚ) (side : Side) (fill : PaperFill) : ℚ :=
  match side with
  | .buy => realizedPnl
  | .sell =>
    store.arithmetic.add realizedPnl
      (store.arithmetic.sub (store.netProceeds fill) (store.consumedCost ledger fill.fillId))

def auditHolding : List String :=
  match item.order.side with
  | .buy => auditLot ledger item
  | .sell => auditAllocations ledger item

end

def auditFill (audit : FillAudit) (item : AuditFill) : Except BrokerError FillAudit :=
  match store.fillFromRow item.row with
  | .error (.valueError message) =>
    .ok
      { audit with
        errors := audit.errors ++
          ["paper fill " ++ hex item.row.fillId ++ " v3 cost evidence is invalid: " ++ message] }
  | .error raised => .error raised
  | .ok fill => do
    let costs ← store.auditCosts ledger item.order.side fill
    pure
      { errors :=
          audit.errors ++
            (store.auditFillReceipt ledger fill ++ costs ++ auditAvailability item ++
              auditEntrySignal fill.orderId item.order.entrySignalId item.intent.payload ++
              auditHolding ledger item)
        cash := store.auditCash audit.cash item.order.side fill
        realizedPnl := store.auditRealized ledger audit.realizedPnl item.order.side fill }

def auditAllFills : Except BrokerError FillAudit :=
  (store.auditFills ledger).foldlM (store.auditFill ledger)
    { errors := [], cash := ledger.account.initialCash, realizedPnl := 0 }

/-! ## Lots and balances -/

def accountLots : List LotRow :=
  ledger.lots.filter fun lot => lot.accountId = store.accountId

def auditLotQuantity (lot : LotRow) : List String :=
  reportUnless
    (lot.remainingQuantity + consumedFrom ledger.consumptions lot.lotId = lot.originalQuantity)
    ("lot " ++ hex lot.lotId ++ " quantity mismatch")

def reconcile : Except BrokerError PaperBrokerReconciliation := do
  require (ledger.account.accountId = store.accountId) (.reconciliation "broker account is missing")
  require (ledger.account.costSpecId = store.digests.costSpecId store.spec)
    (.reconciliation "paper account v3 cost authority does not reconcile")
  let receiptErrors ←
    (sortOn (fun executionId : Digest => executionId)
      (store.receiptIds ledger).dedup).mapM (store.auditReceipt ledger)
  let orderErrors ← (store.auditOrders ledger).mapM (store.auditOrder ledger)
  let audit ← store.auditAllFills ledger
  let errors :=
    store.auditReceiptIds ledger ++ receiptErrors.flatten ++ orderErrors.flatten ++ audit.errors ++
      (store.accountLots ledger).flatMap (auditLotQuantity ledger) ++
      reportUnless (ledger.account.cash = audit.cash) "cash does not reconcile from fills" ++
      reportUnless (ledger.account.realizedPnl = audit.realizedPnl)
        "realized_pnl does not reconcile from fills and lots"
  require (errors = []) (.reconciliation ("; ".intercalate errors))
  require (store.accountId ≠ "") (.valueError "account_id")
  require (0 ≤ ledger.account.cash) (.valueError "cash")
  pure
    { accountId := store.accountId, orderCount := (store.auditOrders ledger).length,
      fillCount := (store.auditFills ledger).length,
      openLotQuantity := lotQuantity (store.accountLots ledger), cash := ledger.account.cash,
      realizedPnl := ledger.account.realizedPnl }

end

end PaperBrokerStore

end RQuant.Paper
