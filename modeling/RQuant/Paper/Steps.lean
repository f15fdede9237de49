import RQuant.Foundation.Runs
import RQuant.Paper.Calls

/-!
# What one call does

The broker as a transition system, and one inversion lemma for each call: what
a successful call established and what it wrote.  Every invariant of the ledger
is derived from these lemmas; none of them unfolds a call again.
-/

namespace RQuant.Paper

open Foundation

/-- A call that changes the ledger. -/
inductive Call
  | submit (request : SubmitIntent)
  | apply (request : ApplyExecution)
  | close (request : CloseOpenOrder)

/-- What a successful call returns. -/
inductive Answer
  | order (order : PaperOrder)
  | receipt (receipt : PaperExecutionReceipt)
  deriving DecidableEq

variable {orderId : Digest}

namespace PaperBrokerStore

variable (store : PaperBrokerStore)

/-- Make a call: its outcome and the ledger it leaves. -/
def perform (ledger : Ledger) : Call → Except BrokerError Answer × Ledger
  | .submit request =>
    let outcome := store.submitIntent ledger request
    (outcome.1.map .order, outcome.2)
  | .apply request =>
    let outcome := store.applyExecution ledger request
    (outcome.1.map .receipt, outcome.2)
  | .close request =>
    let outcome := store.closeOpenOrder ledger request
    (outcome.1.map .order, outcome.2)

def Succeeds (ledger : Ledger) (call : Call) (result : Ledger) : Prop :=
  ∃ answer, store.perform ledger call = (.ok answer, result)

/-- An answer wraps what the function behind the call returned. -/
theorem returned_of_answer {α : Type} {outcome : Except BrokerError α × Ledger} {wrap : α → Answer}
    (performed : (outcome.1.map wrap, outcome.2) = (.ok answer, result)) :
    ∃ value, outcome = (.ok value, result) ∧ answer = wrap value := by
  obtain ⟨returned, _⟩ := outcome
  cases returned with
  | error raised => cases performed
  | ok value =>
    cases performed
    exact ⟨value, rfl, rfl⟩

/-- The ledgers reached from a fresh account by successful calls that meet a
condition. -/
def ReachableBy (allowed : Ledger → Call → Prop) (ledger : Ledger) : Prop :=
  Reaches store.Succeeds allowed store.openLedger ledger

/-- The ledgers reached from a fresh account by successful calls. -/
def Reachable (ledger : Ledger) : Prop := store.ReachableBy (fun _ _ => True) ledger

def execute (allowed : Ledger → Call → Prop) [∀ ledger call, Decidable (allowed ledger call)]
    (ledger : Ledger) (call : Call) : Option Ledger :=
  if allowed ledger call then
    match store.perform ledger call with
    | (.ok _, result) => some result
    | (.error _, _) => none
  else none

variable {ledger result : Ledger} {call : Call} {fill : PaperFill} {persistedAt decisionTime : Time}
  {intent : PaperOrderIntent} {tradeDate : Date} {order : PaperOrder}
  {quote : BrokerExecutionContext} {costs : ExecutionCostCalculation} {request : SubmitIntent}

theorem execute_sound {store : PaperBrokerStore} [∀ ledger call, Decidable (allowed ledger call)]
    (executed : store.execute allowed ledger call = some result) :
    allowed ledger call ∧ store.Succeeds ledger call result := by
  unfold execute at executed
  split at executed
  · rename_i allowedCall
    split at executed
    · rename_i answer committed performed
      cases executed
      exact ⟨allowedCall, answer, performed⟩
    · cases executed
  · cases executed

def ledgerAfter (allowed : Ledger → Call → Prop) [∀ ledger call, Decidable (allowed ledger call)]
    (calls : List Call) : Ledger :=
  finalState (store.execute allowed) store.openLedger calls

theorem reachableBy_ledgerAfter (allowed : Ledger → Call → Prop)
    [∀ ledger call, Decidable (allowed ledger call)] (calls : List Call) :
    store.ReachableBy allowed (store.ledgerAfter allowed calls) :=
  reaches_finalState execute_sound _ calls

def ledgerOf (calls : List Call) : Ledger := store.ledgerAfter (fun _ _ => True) calls

theorem reachable_ledgerOf (calls : List Call) : store.Reachable (store.ledgerOf calls) :=
  store.reachableBy_ledgerAfter _ calls

variable {store}

def withFill (ledger : Ledger) (fill : PaperFill) (persistedAt : Time) : Ledger :=
  { ledger with
    fills := ledger.fills ++ [{ toPaperFill := fill, persistedAt := persistedAt }] }

/-- The keys of a new fill are not taken. -/
structure FreshFill (ledger : Ledger) (fill : PaperFill) : Prop where
  fillId : fill.fillId ∉ ledger.fills.map (·.fillId)
  executionId : fill.executionId ∉ ledger.fills.map (·.executionId)

section

variable (store : PaperBrokerStore) (ledger : Ledger) (intent : PaperOrderIntent) (fill : PaperFill)

/-- What a BUY fill writes. -/
structure Bought (tradeDate availableDate : Date) (persistedAt : Time)
    (result : Ledger) : Prop where
  side : intent.side = .buy
  fresh : FreshFill ledger fill
  newLot : fill.fillId ∉ ledger.lots.map LotRow.lotId
  result_eq : result =
    { withFill ledger fill persistedAt with
      account :=
        { ledger.account with
          cash := store.arithmetic.sub ledger.account.cash (store.buyCost fill) }
      lots :=
        ledger.lots ++ [store.acquiredLot intent fill tradeDate availableDate persistedAt] }

/-- What a SELL fill writes. -/
structure Sold (tradeDate : Date) (persistedAt : Time)
    (allocations : List (LotRow × ℕ)) (result : Ledger) : Prop where
  side : intent.side = .sell
  fresh : FreshFill ledger fill
  allocated : store.sellAllocation (withFill ledger fill persistedAt) intent
    fill.quantity tradeDate = (allocations, 0)
  result_eq : result =
    { withFill ledger fill persistedAt with
      account :=
        { ledger.account with
          cash := store.arithmetic.add ledger.account.cash (store.netProceeds fill)
          realizedPnl := store.arithmetic.sub
            (store.arithmetic.add ledger.account.realizedPnl (store.netProceeds fill))
            (store.costBasis allocations) }
      lots := consumeLots allocations ledger.lots
      consumptions :=
        ledger.consumptions ++ consumptionRows fill persistedAt allocations }

end

theorem applyFill_cases
    (applied :
      store.applyFill ledger intent fill tradeDate availableDate persistedAt = .ok result) :
    (∃ date, availableDate = some date ∧
      Bought store ledger intent fill tradeDate date persistedAt result) ∨
    (∃ allocations, Sold store ledger intent fill tradeDate persistedAt allocations result) := by
  simp only [applyFill, bind_eq_ok] at applied
  obtain ⟨_, insertedEq, applied⟩ := applied
  simp only [run_eq_ok, insertFill] at insertedEq
  obtain ⟨newFill, newExecution, -, rfl⟩ := insertedEq
  have fresh : FreshFill ledger fill := ⟨newFill, newExecution⟩
  cases side : intent.side with
  | buy =>
    simp only [run_eq_ok, side, orRaise_eq_ok, insertUnique_eq_ok] at applied
    obtain ⟨date, dateEq, _, ⟨newLot, rfl⟩, rfl⟩ := applied
    exact .inl ⟨date, dateEq, side, fresh, newLot, rfl⟩
  | sell =>
    simp only [run_eq_ok, side] at applied
    obtain ⟨complete, rfl⟩ := applied
    refine .inr ⟨_, side, fresh, ?_, rfl⟩
    exact Prod.ext rfl complete

/-- The new order of an intent that does not execute at once. -/
structure LeftUnfilled (store : PaperBrokerStore) (intent : PaperOrderIntent)
    (decisionTime : Time) (order : PaperOrder) : Prop where
  order_eq : ∃ reason, order = store.draftOrder intent decisionTime .accepted reason 0 none
  valid : order.validateOrder (store.expectedOrderId order) = .ok ()

structure FilledAtOnce (store : PaperBrokerStore) (ledger : Ledger) (intent : PaperOrderIntent)
    (executionId : Digest) (decisionTime : Time) (tradeDate : Date)
    (quote : BrokerExecutionContext) (costs : ExecutionCostCalculation)
    (order : PaperOrder) (fill : PaperFill) : Prop where
  beforeExpiry : decisionTime < intent.expiresAt
  afterEarliest : intent.earliestExecutionAt ≤ decisionTime
  withinLimit : ¬ MissesLimit intent.toIntentFields costs.executedPrice
  quantity_le : fill.quantity ≤ intent.quantity
  quantity_pos : 0 < fill.quantity
  quantity_eq : fill.quantity = quote.executableQuantity.getD intent.quantity
  priced : costs.orderInput.quantity = fill.quantity
  funded : store.fundsRejection ledger intent tradeDate quote costs fill.quantity = .ok none
  order_eq : order =
    store.draftOrder intent decisionTime
      (if fill.quantity = intent.quantity then .filled else .partiallyFilled)
      none fill.quantity (some costs.executedPrice)
  orderValid : order.validateOrder (store.expectedOrderId order) = .ok ()
  fill_eq : fill =
    store.draftFill order.orderId executionId 1 fill.quantity costs
      decisionTime intent.priceSnapshotId
  fillValid : fill.validateFill store.arithmetic (store.expectedFillId fill) = .ok ()

private theorem unfilled_eq_ok {reason : Option PaperRejectReason} {fill : Option PaperFill}
    (opened : store.unfilled intent decisionTime reason = .ok (order, fill)) :
    fill = none ∧ LeftUnfilled store intent decisionTime order := by
  simp only [run_eq_ok, unfilled, newOrder, Prod.mk.injEq] at opened
  obtain ⟨_, ⟨valid, rfl⟩, rfl, rfl⟩ := opened
  exact ⟨rfl, ⟨reason, rfl⟩, valid⟩

theorem evaluateIntent_cases {executionId : Digest} {fill : Option PaperFill}
    (evaluated : store.evaluateIntent ledger intent executionId decisionTime tradeDate
      quote costs = .ok (order, fill)) :
    (fill = none ∧ LeftUnfilled store intent decisionTime order) ∨
    (∃ executed, fill = some executed ∧
      FilledAtOnce store ledger intent executionId decisionTime tradeDate
        quote costs order executed) := by
  unfold evaluateIntent at evaluated
  split at evaluated
  · exact .inl (unfilled_eq_ok evaluated)
  rename_i executable
  split at evaluated
  · exact .inl (unfilled_eq_ok evaluated)
  rename_i notEarly
  split at evaluated
  · exact .inl (unfilled_eq_ok evaluated)
  rename_i withinLimit
  simp only [run_eq_ok] at evaluated
  obtain ⟨quantityLe, evaluated⟩ := evaluated
  split at evaluated
  · exact .inl (unfilled_eq_ok evaluated)
  rename_i quantityNe
  simp only [run_eq_ok] at evaluated
  obtain ⟨priced, rejection, funded, evaluated⟩ := evaluated
  cases rejection with
  | some reason => exact .inl (unfilled_eq_ok evaluated)
  | none =>
    simp only [run_eq_ok, filledAtOnce, newOrder, paperFill, Prod.mk.injEq] at evaluated
    obtain ⟨_, ⟨orderValid, rfl⟩, executed, ⟨fillValid, rfl⟩, rfl, rfl⟩ := evaluated
    unfold quoteRejection at executable
    split_ifs at executable with _ _ _ notExpired
    exact .inr ⟨_, rfl,
      { beforeExpiry := not_le.mp notExpired, afterEarliest := not_lt.mp notEarly,
        withinLimit, quantity_le := quantityLe, quantity_pos := Nat.pos_of_ne_zero quantityNe,
        quantity_eq := rfl, priced, funded, order_eq := rfl, orderValid, fill_eq := rfl,
        fillValid }⟩

section

variable (store : PaperBrokerStore) (request : SubmitIntent) (costs : ExecutionCostCalculation)

def initialFingerprint : Digest :=
  store.digests.requestFingerprint (store.initialRequest request costs)

def openedIntent : IntentRow :=
  store.submittedIntentRow request (initialFingerprint store request costs)

end

section

variable (store : PaperBrokerStore)

def withIntent (ledger : Ledger) (request : SubmitIntent)
    (costs : ExecutionCostCalculation) : Ledger :=
  { ledger with
    intents := ledger.intents ++ [openedIntent store request costs] }

def openedOrder (request : SubmitIntent) (order : PaperOrder) : OrderRow :=
  { toPaperOrder := order, entrySignalId := request.intent.entrySignalId }

def withOrder (ledger : Ledger) (request : SubmitIntent)
    (costs : ExecutionCostCalculation) (order : PaperOrder) : Ledger :=
  { withIntent store ledger request costs with
    orders := ledger.orders ++ [openedOrder request order] }

def openedReceipt (request : SubmitIntent)
    (costs : ExecutionCostCalculation) (order : PaperOrder)
    (fill : Option PaperFill) : PaperExecutionReceipt :=
  draftReceipt (store.resolvedExecutionId request) (initialFingerprint store request costs)
    (store.submittedIntentId request) order fill costs request.persistenceTime

/-- What `submit_intent` established and wrote for a new intent. -/
structure Opened (ledger : Ledger) (request : SubmitIntent)
    (costs : ExecutionCostCalculation) (evaluatedOrder : PaperOrder)
    (fill : Option PaperFill) (filled result : Ledger) : Prop where
  prepared : store.prepareSubmission request = .ok costs
  unknownExecution : store.executionReceipt ledger (store.resolvedExecutionId request) = .ok none
  authorised : request.intent.side = .sell →
    store.validateSellQuantityAuthority ledger request.intent
      request.decisionTime request.tradeDate = .ok ()
  newIntentId : store.submittedIntentId request ∉ ledger.intents.map (·.intentId)
  newInitialExecution :
    store.resolvedExecutionId request ∉ ledger.intents.map (·.initialExecutionId)
  newSignal : (store.accountId, request.intent.signalId) ∉
    ledger.intents.map fun row => (row.accountId, row.signalId)
  evaluated : store.evaluateIntent (withIntent store ledger request costs)
    request.intent (store.resolvedExecutionId request) request.decisionTime
    request.tradeDate request.quote costs = .ok (evaluatedOrder, fill)
  newOrderId : evaluatedOrder.orderId ∉ ledger.orders.map (·.orderId)
  newOrderIntent : evaluatedOrder.intentId ∉ ledger.orders.map (·.intentId)
  applied : store.applyOptionalFill
    (withOrder store ledger request costs (settleOrder evaluatedOrder fill request.persistenceTime))
    request.intent fill request.tradeDate
    request.quote.acquisitionAvailableDate request.persistenceTime = .ok filled
  receiptValid :
    (openedReceipt store request costs (settleOrder evaluatedOrder fill request.persistenceTime)
      fill).validateExecution = .ok ()
  newReceipt : store.resolvedExecutionId request ∉ filled.receipts.map (·.executionId)
  result_eq : result =
    { filled with
      receipts := filled.receipts ++
        [store.storedReceipt (store.initialRequest request costs)
          (openedReceipt store request costs
            (settleOrder evaluatedOrder fill request.persistenceTime) fill)] }

end

@[simp] theorem settleOrder_keeps (order : PaperOrder) (fill : Option PaperFill)
    (persistedAt : Time) :
    (settleOrder order fill persistedAt).orderId = order.orderId ∧
      (settleOrder order fill persistedAt).intentId = order.intentId ∧
      (settleOrder order fill persistedAt).accountId = order.accountId ∧
      (settleOrder order fill persistedAt).createdAt = order.createdAt ∧
      (settleOrder order fill persistedAt).filledQuantity = order.filledQuantity ∧
      (settleOrder order fill persistedAt).averageFillPrice = order.averageFillPrice := by
  unfold settleOrder
  split <;> simp

section

variable (prepared : store.prepareSubmission request = .ok costs)

include prepared

theorem openIntent_eq_ok (opened : store.openIntent ledger request costs = .ok (order, result)) :
    ∃ evaluatedOrder fill filled, order = settleOrder evaluatedOrder fill request.persistenceTime ∧
      Opened store ledger request costs evaluatedOrder fill filled
        result := by
  simp only [run_eq_ok, openIntent, insertIntent, insertOrder, executionReceiptWithCost,
    insertExecutionReceipt, insertUnique_eq_ok, Prod.mk.injEq, Prod.exists, settleOrder_keeps]
    at opened
  obtain ⟨_, existingEq, rfl, authorised, _,
    ⟨newIntentId, newInitial, newSignal, rfl⟩, evaluatedOrder, fill,
    evaluated, _, ⟨newOrderId, newOrderIntent, rfl⟩, filled, applied, _, ⟨receiptValid, rfl⟩, _,
    ⟨-, _, ⟨newReceipt, rfl⟩, rfl⟩, rfl, rfl⟩ := opened
  refine ⟨evaluatedOrder, fill, filled, rfl, ?_⟩
  exact
    { prepared := prepared
      unknownExecution := existingEq
      authorised := fun side => by
        simpa only [requireSellAuthority, side] using authorised
      newIntentId := newIntentId
      newInitialExecution := newInitial
      newSignal := newSignal
      evaluated := evaluated
      newOrderId := newOrderId
      newOrderIntent := newOrderIntent
      applied := applied
      receiptValid := receiptValid
      newReceipt := newReceipt
      result_eq := rfl }

/-- A known intent whose content, execution and request a submission
repeats. -/
structure Replayed (store : PaperBrokerStore) (ledger : Ledger) (request : SubmitIntent)
    (costs : ExecutionCostCalculation) (existing : IntentRow)
    (receipt : PaperExecutionReceipt) : Prop where
  found : ledger.intentRow (store.submittedIntentId request) = some existing
  payload : existing.payload = request.intent
  executionId : existing.initialExecutionId = store.resolvedExecutionId request
  fingerprint : existing.initialExecutionRequestFingerprint = initialFingerprint store request costs
  receipt_eq :
    store.executionReceipt ledger (store.resolvedExecutionId request) = .ok (some receipt)

theorem submitTransaction_eq_ok
    (committed : store.submitTransaction ledger request costs = .ok (order, result)) :
    (∃ existing receipt,
      Replayed store ledger request costs existing receipt ∧
        order = receipt.order ∧ result = ledger) ∨
      (∃ evaluatedOrder fill filled,
        order = settleOrder evaluatedOrder fill request.persistenceTime ∧
          Opened store ledger request costs evaluatedOrder fill filled result) := by
  unfold submitTransaction at committed
  split at committed
  · rename_i existing found
    simp only [run_eq_ok, replayIntent, Prod.mk.injEq] at committed
    obtain ⟨_, ⟨payload, executionId, fingerprint, receipt, receiptEq,
      replayed⟩, rfl, rfl⟩ := committed
    cases receipt with
    | none => simp at replayed
    | some receipt =>
      simp only [pure_eq_ok] at replayed
      exact .inl ⟨existing, receipt, ⟨found, payload, executionId, fingerprint, receiptEq⟩,
        replayed.symm, rfl⟩
  · exact .inr (openIntent_eq_ok prepared committed)

theorem submitIntent_eq : store.submitIntent ledger request =
    atomically ledger (store.submitTransaction ledger request costs) := by
  rw [submitIntent, prepared]
  rfl

end

theorem submitIntent_of_error (refused : store.prepareSubmission request = .error raised) :
    store.submitIntent ledger request = (.error raised, ledger) := by
  rw [submitIntent, refused]
  rfl

theorem submitIntent_cases (ledger : Ledger) (request : SubmitIntent) :
    (store.submitIntent ledger request).2 = ledger ∨
      ∃ costs evaluatedOrder fill filled,
        Opened store ledger request costs evaluatedOrder fill filled
          (store.submitIntent ledger request).2 := by
  cases prepared : store.prepareSubmission request with
  | error raised =>
    rw [submitIntent_of_error prepared]
    exact .inl rfl
  | ok costs =>
    rw [submitIntent_eq prepared]
    cases committed : store.submitTransaction ledger request costs with
    | error raised => exact .inl rfl
    | ok outcome =>
      rcases submitTransaction_eq_ok prepared committed with
        ⟨_, _, -, -, unchanged⟩ | ⟨evaluatedOrder, fill, filled, -, facts⟩
      · exact .inl unchanged
      · exact .inr ⟨costs, evaluatedOrder, fill, filled, facts⟩

theorem submitIntent_eq_ok (submitted : store.submitIntent ledger request = (.ok order, result)) :
    ∃ costs, store.prepareSubmission request = .ok costs ∧
      ((∃ existing receipt,
        Replayed store ledger request costs existing receipt ∧
          order = receipt.order ∧ result = ledger) ∨
        (∃ evaluatedOrder fill filled,
          order = settleOrder evaluatedOrder fill request.persistenceTime ∧
            Opened store ledger request costs evaluatedOrder fill filled result)) := by
  cases prepared : store.prepareSubmission request with
  | error raised =>
    rw [submitIntent_of_error prepared] at submitted
    cases submitted
  | ok costs =>
    rw [submitIntent_eq prepared] at submitted
    cases committed : store.submitTransaction ledger request costs with
    | error raised =>
      rw [committed] at submitted
      cases submitted
    | ok outcome =>
      rw [committed] at submitted
      cases submitted
      exact ⟨costs, rfl, submitTransaction_eq_ok prepared committed⟩

/-! ## `apply_execution` -/

def incrementalFill (store : PaperBrokerStore) (request : ApplyExecution)
    (costs : ExecutionCostCalculation) (sequence : ℕ) : PaperFill :=
  store.draftFill request.orderId request.executionId sequence
    request.quantity costs request.executedAt request.priceSnapshotId

def incrementedOrder (request : ApplyExecution) (order : PaperOrder) (averagePrice : ℚ) :
    PaperOrder :=
  fillOrder order (order.filledQuantity + request.quantity) averagePrice request.persistenceTime

def incrementalReceipt (store : PaperBrokerStore) (request : ApplyExecution)
    (costs : ExecutionCostCalculation) (intent : PaperOrderIntent)
    (sequence : ℕ) (order : PaperOrder) : PaperExecutionReceipt :=
  draftReceipt request.executionId
    (store.digests.requestFingerprint (store.incrementalRequest request costs))
    (store.digests.intentId intent.toIntentFields) order
    (some (incrementalFill store request costs sequence)) costs
    request.persistenceTime

/-- The guards `apply_execution` makes on the order, the intent, the quote and
the funds. -/
structure Executable (store : PaperBrokerStore) (ledger : Ledger) (order : PaperOrder)
    (intent : PaperOrderIntent) (request : ApplyExecution)
    (costs : ExecutionCostCalculation) (sequence : ℕ) : Prop where
  timeline : ∃ previousExecutedAt previousPersistedAt,
    incrementalFillTimeline ledger order = .ok (sequence, previousExecutedAt, previousPersistedAt) ∧
      (∀ previous ∈ previousExecutedAt, previous ≤ request.executedAt) ∧
      (∀ previous ∈ previousPersistedAt, previous ≤ request.persistenceTime)
  afterCreation : order.createdAt ≤ request.executedAt
  beforeExpiry : request.executedAt < intent.expiresAt
  quantity_le : request.quantity ≤ order.quantity - order.filledQuantity
  withinLimit : ¬ MissesLimit intent.toIntentFields costs.executedPrice
  funded : store.requireFunds ledger intent request costs = .ok ()

theorem requireExecutable_eq_ok {request : ApplyExecution} {sequence : ℕ}
    (executable : store.requireExecutable ledger order intent request costs = .ok sequence) :
    Executable store ledger order intent request costs sequence := by
  simp only [run_eq_ok, requireExecutable, Prod.exists] at executable
  obtain ⟨_, _, _, timeline, created,
    executedOrdered, persistedOrdered, notExpired, quantityLe, -, limit, funded, rfl⟩ := executable
  exact
    { timeline := ⟨_, _, timeline, executedOrdered, persistedOrdered⟩, afterCreation := created,
      beforeExpiry := notExpired, quantity_le := quantityLe, withinLimit := limit, funded }

/-- What `apply_execution` established and wrote for a new execution. -/
structure Executed (store : PaperBrokerStore) (ledger : Ledger) (request : ApplyExecution)
    (costs : ExecutionCostCalculation) (row : OrderRow) (intent : IntentRow)
    (sequence : ℕ) (averagePrice : ℚ) (filled result : Ledger) : Prop where
  prepared : store.prepareExecution ledger request = .ok (intent.payload, costs)
  unknownExecution : store.executionReceipt ledger request.executionId = .ok none
  rowFound : store.orderRow ledger request.orderId = some row
  rowValid : row.toPaperOrder.validateOrder (store.expectedOrderId row.toPaperOrder) = .ok ()
  intentFound : ledger.intentRow row.intentId = some intent
  isOpen : row.status = .accepted ∨ row.status = .partiallyFilled
  executable : Executable store ledger row.toPaperOrder intent.payload request costs sequence
  fillValid : (incrementalFill store request costs sequence).validateFill store.arithmetic
    (store.expectedFillId (incrementalFill store request costs sequence)) = .ok ()
  applied : store.applyFill ledger intent.payload
    (incrementalFill store request costs sequence) request.tradeDate
    request.quote.acquisitionAvailableDate request.persistenceTime = .ok filled
  averaged : store.averageFillPrice filled request.orderId costs.executedPrice
    request.quantity (row.filledQuantity + request.quantity) = .ok averagePrice
  receiptValid : (incrementalReceipt store request costs intent.payload sequence
    (incrementedOrder request row.toPaperOrder averagePrice)).validateExecution = .ok ()
  newReceipt : request.executionId ∉ filled.receipts.map (·.executionId)
  result_eq : result =
    { filled with
      orders := updateKey (fun row : OrderRow => row.orderId) request.orderId
        (fun old =>
          { old with toPaperOrder := incrementedOrder request row.toPaperOrder averagePrice })
        filled.orders
      receipts := filled.receipts ++
        [store.storedReceipt (store.incrementalRequest request costs)
          (incrementalReceipt store request costs intent.payload sequence
            (incrementedOrder request row.toPaperOrder averagePrice))] }

theorem orderFor_eq_ok (found : store.orderFor ledger orderId = .ok order) :
    ∃ row, store.orderRow ledger orderId = some row ∧
      row.toPaperOrder.validateOrder (store.expectedOrderId row.toPaperOrder) = .ok () ∧
      order = row.toPaperOrder := by
  simp only [run_eq_ok, orderFor, orderFromRow, orRaise_eq_ok] at found
  obtain ⟨row, rowFound, valid, rfl⟩ := found
  exact ⟨row, rowFound, valid, rfl⟩

theorem preflightIntent_eq_ok (found : store.preflightIntent ledger orderId = .ok intent) :
    ∃ row intentRow, store.orderRow ledger orderId = some row ∧
      ledger.intentRow row.intentId = some intentRow ∧
      intent = intentRow.payload := by
  simp only [preflightIntent, orRaise_eq_ok, Option.bind_eq_bind,
    Option.bind_eq_some_iff, Option.pure_def, Option.some.injEq] at found
  obtain ⟨row, rowFound, intentRow, intentFound, rfl⟩ := found
  exact ⟨row, intentRow, rowFound, intentFound, rfl⟩

theorem executeIncrement_eq_ok {request : ApplyExecution} {preflight : PaperOrderIntent}
    (prepared : store.prepareExecution ledger request = .ok (preflight, costs))
    (unknownExecution : store.executionReceipt ledger request.executionId = .ok none)
    (executed : store.executeIncrement ledger request preflight costs = .ok result) :
    ∃ row intent sequence averagePrice filled,
      Executed store ledger request costs row intent sequence averagePrice filled result := by
  have foundEq : store.preflightIntent ledger request.orderId = .ok preflight := by
    simp only [run_eq_ok, prepareExecution, Prod.mk.injEq] at prepared
    obtain ⟨-, _, foundEq, -, -, -, rfl, -⟩ := prepared
    exact foundEq
  simp only [run_eq_ok, executeIncrement, paperFill, executionReceiptWithCost,
    insertExecutionReceipt, requireOpen, insertUnique_eq_ok, orRaise_eq_ok] at executed
  obtain ⟨-, _, orderFound, intent, intentFound, -, isOpen, sequence,
    executable, _, ⟨fillValid, rfl⟩, filled, applied, averagePrice,
    averaged, _, ⟨receiptValid, rfl⟩, -, _, ⟨newReceipt, rfl⟩, rfl⟩ := executed
  obtain ⟨row, rowFound, rowValid, rfl⟩ := orderFor_eq_ok orderFound
  -- The preflight read the same order and intent.
  obtain ⟨row', intent', rowFound', intentFound', rfl⟩ := preflightIntent_eq_ok foundEq
  obtain rfl : row = row' := Option.some.inj (rowFound.symm.trans rowFound')
  obtain rfl : intent = intent' := Option.some.inj (intentFound.symm.trans intentFound')
  exact ⟨row, intent, sequence, averagePrice, filled,
    { prepared, unknownExecution, rowFound, rowValid, intentFound, isOpen,
      executable := requireExecutable_eq_ok executable, fillValid, applied, averaged, receiptValid,
      newReceipt, result_eq := rfl }⟩

theorem applyTransaction_eq_ok {committed : Ledger} {request : ApplyExecution}
    (transaction : store.applyTransaction ledger request = .ok (.inr committed)) :
    ∃ costs row intent sequence averagePrice filled,
      Executed store ledger request costs row intent sequence averagePrice filled committed := by
  simp only [applyTransaction, bind_eq_ok, Prod.exists] at transaction
  obtain ⟨_, costs, prepared, existing, existingEq, transaction⟩ := transaction
  cases existing with
  | some known =>
    simp only [run_eq_ok, reduceCtorEq, and_false] at transaction
  | none =>
    simp only [run_eq_ok, Sum.inr.injEq] at transaction
    obtain ⟨_, executed, rfl⟩ := transaction
    obtain ⟨row, intent, sequence, averagePrice, filled, facts⟩ :=
      executeIncrement_eq_ok prepared existingEq executed
    exact ⟨costs, row, intent, sequence, averagePrice, filled, facts⟩

theorem applyExecution_cases (ledger : Ledger) (request : ApplyExecution) :
    (store.applyExecution ledger request).2 = ledger ∨
      ∃ costs row intent sequence averagePrice filled,
        Executed store ledger request costs row intent sequence averagePrice
          filled (store.applyExecution ledger request).2 := by
  cases transaction : store.applyTransaction ledger request with
  | error raised => exact .inl (by rw [applyExecution, transaction])
  | ok outcome =>
    cases outcome with
    | inl receipt => exact .inl (by rw [applyExecution, transaction])
    | inr committed =>
      have result : (store.applyExecution ledger request).2 = committed := by
        rw [applyExecution, transaction]
      rw [result]
      exact .inr (applyTransaction_eq_ok transaction)

/-- A successful `apply_execution` returns a known receipt, or executes and
returns the receipt its ledger holds. -/
theorem applyExecution_eq_ok {request : ApplyExecution} {receipt : PaperExecutionReceipt}
    (applied : store.applyExecution ledger request = (.ok receipt, result)) :
    (∃ intent costs,
      store.prepareExecution ledger request = .ok (intent, costs) ∧
        store.executionReceipt ledger request.executionId = .ok (some receipt) ∧
        receipt.order.orderId = request.orderId ∧
        receipt.requestFingerprint =
          store.digests.requestFingerprint (store.incrementalRequest request costs) ∧
        result = ledger) ∨
      (∃ costs row intent sequence averagePrice filled,
        Executed store ledger request costs row intent sequence averagePrice filled result ∧
          store.executionReceipt result request.executionId = .ok (some receipt)) := by
  unfold applyExecution at applied
  split at applied
  · simp at applied
  · rename_i known transaction
    rw [Prod.mk.injEq, Except.ok.injEq] at applied
    obtain ⟨rfl, rfl⟩ := applied
    simp only [applyTransaction, bind_eq_ok, Prod.exists] at transaction
    obtain ⟨intent, costs, prepared, existing, existingEq, transaction⟩ := transaction
    cases existing with
    | none =>
      simp only [run_eq_ok, reduceCtorEq, and_false, exists_false] at transaction
    | some stored =>
      simp only [run_eq_ok, Sum.inl.injEq] at transaction
      obtain ⟨⟨sameOrder, sameRequest⟩, rfl⟩ := transaction
      exact .inl ⟨intent, costs, prepared, existingEq, sameOrder, sameRequest, rfl⟩
  · rename_i committed transaction
    rw [Prod.mk.injEq] at applied
    obtain ⟨readBack, rfl⟩ := applied
    simp only [readExecution, bind_eq_ok, orRaise_eq_ok] at readBack
    obtain ⟨_, readBack, rfl⟩ := readBack
    obtain ⟨costs, row, intent, sequence, averagePrice, filled, facts⟩ :=
      applyTransaction_eq_ok transaction
    exact .inr ⟨costs, row, intent, sequence, averagePrice, filled, facts, readBack⟩

/-- What `close_open_order` established and wrote. -/
structure Closed (store : PaperBrokerStore) (ledger : Ledger) (request : CloseOpenOrder)
    (row : OrderRow) (intent : IntentRow) (result : Ledger) : Prop where
  status : request.status = .cancelled ∨ request.status = .expired
  rowFound : store.orderRow ledger request.orderId = some row
  rowValid : row.toPaperOrder.validateOrder (store.expectedOrderId row.toPaperOrder) = .ok ()
  isOpen : row.status = .accepted ∨ row.status = .partiallyFilled
  intentFound : ledger.intentRow row.intentId = some intent
  result_eq : result =
    { ledger with
      orders := updateKey (fun row : OrderRow => row.orderId) request.orderId
        (fun old =>
          { old with
            status := request.status, updatedAt := max row.updatedAt request.persistenceTime })
        ledger.orders }

theorem closeOpenOrder_cases (ledger : Ledger) (request : CloseOpenOrder) :
    (store.closeOpenOrder ledger request).2 = ledger ∨
      ∃ row intent,
        Closed store ledger request row intent (store.closeOpenOrder ledger request).2 := by
  cases transaction : store.closeTransaction ledger request with
  | error raised => exact .inl (by rw [closeOpenOrder, transaction])
  | ok committed =>
    have result : (store.closeOpenOrder ledger request).2 = committed := by
      rw [closeOpenOrder, transaction]
    rw [result]
    simp only [run_eq_ok, closeTransaction, requireOpen, orRaise_eq_ok, Prod.exists] at transaction
    obtain ⟨status, -, _, foundEq, isOpen, _, _, _, -, -, -, intent,
      intentFound, -, rfl⟩ := transaction
    obtain ⟨row, rowFound, rowValid, rfl⟩ := orderFor_eq_ok foundEq
    exact .inr ⟨row, intent, status, rowFound, rowValid, isOpen, intentFound, rfl⟩

/-- The four things a call can do to the ledger. -/
inductive Change (store : PaperBrokerStore) (ledger : Ledger) : Call → Ledger → Prop
  | unchanged {call : Call} : Change store ledger call ledger
  | opened {request : SubmitIntent} {costs : ExecutionCostCalculation}
      {evaluatedOrder : PaperOrder} {fill : Option PaperFill}
      {filled result : Ledger}
      (facts : Opened store ledger request costs evaluatedOrder fill filled result) :
      Change store ledger (.submit request) result
  | executed {request : ApplyExecution} {costs : ExecutionCostCalculation}
      {row : OrderRow} {intent : IntentRow} {sequence : ℕ}
      {averagePrice : ℚ} {filled result : Ledger}
      (facts : Executed store ledger request costs row intent sequence averagePrice filled result) :
      Change store ledger (.apply request) result
  | closed {request : CloseOpenOrder} {row : OrderRow} {intent : IntentRow} {result : Ledger}
      (facts : Closed store ledger request row intent result) :
      Change store ledger (.close request) result

theorem perform_change (ledger : Ledger) (call : Call) :
    Change store ledger call (store.perform ledger call).2 := by
  cases call with
  | submit request =>
    change Change store ledger (.submit request) (store.submitIntent ledger request).2
    rcases submitIntent_cases ledger request with
      unchanged | ⟨_, _, _, _, facts⟩
    · rw [unchanged]
      exact .unchanged
    · exact .opened facts
  | apply request =>
    change Change store ledger (.apply request) (store.applyExecution ledger request).2
    rcases applyExecution_cases ledger request with
      unchanged | ⟨_, _, _, _, _, _, facts⟩
    · rw [unchanged]
      exact .unchanged
    · exact .executed facts
  | close request =>
    change Change store ledger (.close request) (store.closeOpenOrder ledger request).2
    rcases closeOpenOrder_cases ledger request with
      unchanged | ⟨_, _, facts⟩
    · rw [unchanged]
      exact .unchanged
    · exact .closed facts

theorem Succeeds.change (succeeds : store.Succeeds ledger call result) :
    Change store ledger call result := by
  obtain ⟨_, performed⟩ := succeeds
  have changed : Change store ledger call (store.perform ledger call).2 :=
    perform_change ledger call
  rw [performed] at changed
  exact changed

end PaperBrokerStore

end RQuant.Paper
