import RQuant.Paper.Steps

/-!
# What calls leave alone

Tables are only appended to; orders keep their identity and lots everything but
the remaining quantity.  A successful call leaves fills, lots, consumptions and
cash alone, or applies exactly one fill between two such steps.
-/

namespace RQuant.Paper

open Foundation List

def LotRow.acquired (lot : LotRow) : LotRow :=
  { lot with remainingQuantity := lot.originalQuantity }

def Call.executedAt : Call → Time
  | .submit request => request.decisionTime
  | .apply request => request.executedAt
  | .close request => request.decidedAt

def Call.persistedAt : Call → Time
  | .submit request => request.persistenceTime
  | .apply request => request.persistenceTime
  | .close request => request.persistenceTime

variable {fill : PaperFill} {persistedAt : Time} {availableDate : Option Date}

namespace PaperBrokerStore

variable {store : PaperBrokerStore}

section

variable (allocations : List (LotRow × ℕ))

def takenFrom (lotId : Digest) : ℕ :=
  ((allocations.filter fun allocation => allocation.1.lotId = lotId).map Prod.snd).sum

theorem takenFrom_cons (allocation : LotRow × ℕ) (rest : List (LotRow × ℕ)) (lotId : Digest) :
    takenFrom (allocation :: rest) lotId =
      (if allocation.1.lotId = lotId then allocation.2 else 0) + takenFrom rest lotId := by
  unfold takenFrom
  by_cases same : allocation.1.lotId = lotId <;> simp [same]

theorem consumeLots_eq_map (lots : List LotRow) : consumeLots allocations lots =
    lots.map fun lot =>
      { lot with
        remainingQuantity := lot.remainingQuantity - takenFrom allocations lot.lotId } := by
  induction allocations generalizing lots with
  | nil => simp [consumeLots, takenFrom]
  | cons allocation rest ih =>
    have unfolded : consumeLots (allocation :: rest) lots =
        consumeLots rest
          (updateKey LotRow.lotId allocation.1.lotId
            (fun lot =>
              { lot with
                remainingQuantity := lot.remainingQuantity - allocation.2 })
            lots) :=
      rfl
    rw [unfolded, ih, updateKey, map_map]
    apply map_congr_left
    intro lot _
    rw [takenFrom_cons]
    by_cases same : lot.lotId = allocation.1.lotId
    · simp [same, Nat.sub_sub]
    · simp [same, Ne.symm same]

@[simp] theorem consumeLots_map_lotId (lots : List LotRow) :
    (consumeLots allocations lots).map LotRow.lotId = lots.map LotRow.lotId := by
  rw [consumeLots_eq_map, map_map]
  rfl

@[simp] theorem consumeLots_map_acquired (lots : List LotRow) :
    (consumeLots allocations lots).map LotRow.acquired = lots.map LotRow.acquired := by
  rw [consumeLots_eq_map, map_map]
  rfl

end

/-- Fills, lots, consumptions and the account stay; intents, orders and
receipts are added and orders keep their identity. -/
structure Grows (ledger result : Ledger) : Prop where
  intents : ledger.intents <+: result.intents
  orders : ledger.orders.map OrderRow.identity <+: result.orders.map OrderRow.identity
  receipts : ledger.receipts <+: result.receipts
  account : result.account = ledger.account
  fills : result.fills = ledger.fills
  lots : result.lots = ledger.lots
  consumptions : result.consumptions = ledger.consumptions

theorem Grows.refl (ledger : Ledger) : Grows ledger ledger :=
  ⟨prefix_rfl, prefix_rfl, prefix_rfl, rfl, rfl, rfl, rfl⟩

theorem Grows.trans (left : Grows first second) (right : Grows second third) : Grows first third :=
  { intents := left.intents.trans right.intents, orders := left.orders.trans right.orders,
    receipts := left.receipts.trans right.receipts, account := right.account.trans left.account,
    fills := right.fills.trans left.fills, lots := right.lots.trans left.lots,
    consumptions := right.consumptions.trans left.consumptions }

section

variable (store : PaperBrokerStore)

/-- What both paths have established when they apply a fill. -/
structure FillContext (ledger : Ledger) (order : OrderRow) (intent : IntentRow) (fill : PaperFill)
    (costs : ExecutionCostCalculation) (tradeDate : Date)
    (availableDate : Option Date) (persistedAt : Time) : Prop where
  order_mem : order ∈ ledger.orders
  order_id : order.orderId = fill.orderId
  intent_mem : intent ∈ ledger.intents
  intent_id : intent.intentId = order.intentId
  pricedSide : costs.orderInput.side = intent.payload.side
  pricedQuantity : costs.orderInput.quantity = fill.quantity
  recalculated : calculateExecutionCosts store.arithmetic store.digests.toCostDigests
    store.spec costs.orderInput costs.instrumentContext = .ok costs
  draft : ∃ sequence priceSnapshotId, fill =
    store.draftFill order.orderId fill.executionId sequence fill.quantity
      costs fill.executedAt priceSnapshotId
  valid : fill.validateFill store.arithmetic (store.expectedFillId fill) = .ok ()
  tradeDate_eq : tradeDate = store.calendar.shanghaiDate fill.executedAt
  persisted : fill.executedAt ≤ persistedAt
  afterCreation : order.createdAt ≤ fill.executedAt
  beforeExpiry : fill.executedAt < intent.payload.expiresAt
  withinLimit : ¬ MissesLimit intent.payload.toIntentFields fill.price
  acquisition : intent.payload.side = .buy → ∃ date, availableDate = some date ∧ tradeDate < date
  cashCovers : intent.payload.side = .buy → store.CashCovers ledger costs

def executionIdOf : Call → Option Digest
  | .submit request => some (store.resolvedExecutionId request)
  | .apply request => some request.executionId
  | .close _ => none

/-- The intent and the price a call executes at, when it gets that far. -/
def pricing (ledger : Ledger) : Call → Option (PaperOrderIntent × ExecutionCostCalculation)
  | .submit request =>
    match store.prepareSubmission request with
    | .ok costs => some (request.intent, costs)
    | .error _ => none
  | .apply request =>
    match store.prepareExecution ledger request with
    | .ok prepared => some prepared
    | .error _ => none
  | .close _ => none

/-- One fill applied between two steps that only add identities. -/
structure FillStep (ledger : Ledger) (call : Call)
    (result : Ledger) (before after : Ledger) (order : OrderRow)
    (intent : IntentRow) (fill : PaperFill)
    (costs : ExecutionCostCalculation) (tradeDate : Date)
    (availableDate : Option Date) : Prop where
  grows : Grows ledger before
  context :
    FillContext store before order intent fill costs tradeDate availableDate call.persistedAt
  applied :
    store.applyFill before intent.payload fill tradeDate availableDate call.persistedAt = .ok after
  settles : Grows after result
  pricing_eq : store.pricing ledger call = some (intent.payload, costs)
  executedAt_eq : fill.executedAt = call.executedAt
  executionId_eq : store.executionIdOf call = some fill.executionId
  -- Only `submit_intent` compares the execution time with the earliest one.
  submitted :
    ∀ request, call = .submit request → intent.payload.earliestExecutionAt ≤ fill.executedAt

/-- What `submit_intent` has checked before its transaction. -/
structure SubmissionChecked (request : SubmitIntent) (costs : ExecutionCostCalculation) : Prop where
  account : request.intent.accountId = store.accountId
  available : request.intent.availableAt ≤ request.decisionTime
  persisted : request.decisionTime ≤ request.persistenceTime
  persistedAvailable : request.intent.availableAt ≤ request.persistenceTime
  tradeDate : request.tradeDate = store.calendar.shanghaiDate request.decisionTime
  priced : store.executionCosts request.intent.side request.quote.executablePrice
    request.calculationQuantity request.quote.instrumentContext = .ok costs

end

variable {costs : ExecutionCostCalculation} {ledger result : Ledger} {intent : PaperOrderIntent}
  {tradeDate : Date}

theorem prepareSubmission_eq_ok (prepared : store.prepareSubmission request = .ok costs) :
    SubmissionChecked store request costs := by
  simp only [run_eq_ok, prepareSubmission, checkSubmission] at prepared
  obtain ⟨⟨account, available, ⟨persisted, persistedAvailable⟩, tradeDate⟩, -, priced⟩ := prepared
  exact ⟨account, available, persisted, persistedAvailable, tradeDate, priced⟩

/-- What `apply_execution` has checked before its transaction. -/
structure ExecutionChecked (store : PaperBrokerStore) (request : ApplyExecution)
    (intent : PaperOrderIntent) (costs : ExecutionCostCalculation) :
    Prop where
  persisted : request.executedAt ≤ request.persistenceTime
  tradeDate : request.tradeDate = store.calendar.shanghaiDate request.executedAt
  quantity : IsPositiveLot request.quantity
  priced : store.executionCosts intent.side request.quote.executablePrice
    request.quantity request.quote.instrumentContext = .ok costs

theorem prepareExecution_eq_ok
    (prepared : store.prepareExecution ledger request = .ok (intent, costs)) :
    ExecutionChecked store request intent costs := by
  simp only [run_eq_ok, prepareExecution, checkExecution, Prod.mk.injEq] at prepared
  obtain ⟨⟨persisted, tradeDate, quantity, -⟩, _, -, -, _, priced, rfl, rfl⟩ := prepared
  exact ⟨persisted, tradeDate, quantity, priced⟩

theorem mem_of_orderRow (found : store.orderRow ledger orderId = some row) :
    row ∈ ledger.orders ∧ row.accountId = store.accountId ∧ row.orderId = orderId := by
  obtain ⟨mem, keyEq⟩ := mem_of_findKey found
  exact ⟨mem, (Prod.mk.inj keyEq).1, (Prod.mk.inj keyEq).2⟩

theorem mem_of_intentRow (found : ledger.intentRow intentId = some row) :
    row ∈ ledger.intents ∧ row.intentId = intentId :=
  mem_of_findKey found

/-- Applying a fill leaves intents, orders, receipts and the account's identity
alone. -/
structure FillFrame (ledger result : Ledger) : Prop where
  intents : result.intents = ledger.intents
  orders : result.orders = ledger.orders
  receipts : result.receipts = ledger.receipts
  accountId : result.account.accountId = ledger.account.accountId
  initialCash : result.account.initialCash = ledger.account.initialCash
  costSpecId : result.account.costSpecId = ledger.account.costSpecId

theorem Bought.frame {availableDate : Date} {persistedAt : Time}
    (bought : Bought store ledger intent fill tradeDate availableDate persistedAt result) :
    FillFrame ledger result := by
  rw [bought.result_eq]
  exact ⟨rfl, rfl, rfl, rfl, rfl, rfl⟩

theorem Sold.frame (sold : Sold store ledger intent fill tradeDate persistedAt allocations result) :
    FillFrame ledger result := by
  rw [sold.result_eq]
  exact ⟨rfl, rfl, rfl, rfl, rfl, rfl⟩

section

variable (applied : store.applyFill ledger intent fill tradeDate availableDate persistedAt =
  .ok result)

include applied

theorem applyFill_frame : FillFrame ledger result := by
  rcases applyFill_cases applied with ⟨_, -, bought⟩ | ⟨_, sold⟩
  · exact bought.frame
  · exact sold.frame

theorem applyFill_fills : FreshFill ledger fill ∧
    result.fills = ledger.fills ++ [{ toPaperFill := fill, persistedAt := persistedAt }] := by
  rcases applyFill_cases applied with ⟨_, -, bought⟩ | ⟨_, sold⟩
  · exact ⟨bought.fresh, by rw [bought.result_eq]; rfl⟩
  · exact ⟨sold.fresh, by rw [sold.result_eq]; rfl⟩

end

end PaperBrokerStore

end RQuant.Paper
