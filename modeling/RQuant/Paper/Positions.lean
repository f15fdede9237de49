import RQuant.Paper.Identity

/-!
# Fills, lots and consumptions

Every fill belongs to an order of an intent.  A BUY fill owns exactly the lot
it acquired, and a SELL fill consumed its whole quantity from available lots of
its position.  What a lot has left and what was consumed from it always make up
what was acquired.
-/

namespace RQuant.Paper

open Foundation
open List hiding after next count minimum

variable {call : Call} {costs : ExecutionCostCalculation} {after filled : Ledger}
  {row : ConsumptionRow} {side : Side} {date : Date} {evaluatedOrder : PaperOrder}

namespace PaperBrokerStore

variable {store : PaperBrokerStore}
  {quantity : ℕ} {tradeDate : Date} {ledger result before : Ledger} {fill : PaperFill}
  {intent : IntentRow} {order : OrderRow} {tsCode : String} {entrySignalId : Option Digest}
  {lot : LotRow} {allocations : List (LotRow × ℕ)} {lotId : Digest} {allocation : LotRow × ℕ}
  {availableDate : Option Date} {persistedAt : Time}

theorem executionCosts_recalculated
    (calculated : store.executionCosts side price quantity context = .ok costs) :
    costs.orderInput.side = side ∧ costs.orderInput.quantity = quantity ∧
      calculateExecutionCosts store.arithmetic store.digests.toCostDigests
        store.spec costs.orderInput costs.instrumentContext = .ok costs := by
  have priced := calculateExecutionCosts_priced calculated
  refine ⟨by rw [priced.orderInput], by rw [priced.orderInput], ?_⟩
  rw [priced.orderInput, priced.instrumentContext]
  exact calculated

theorem requireAcquisitionDate_eq_ok (dated : requireAcquisitionDate quote tradeDate = .ok ()) :
    ∃ date, quote.acquisitionAvailableDate = some date ∧ tradeDate < date := by
  simpa only [requireAcquisitionDate, bind_eq_ok, orRaise_eq_ok, require_eq_ok] using dated

theorem fundsRejection_buy {intent : PaperOrderIntent}
    (funded : store.fundsRejection ledger intent tradeDate quote costs quantity = .ok none)
    (side : intent.side = .buy) :
    (∃ date, quote.acquisitionAvailableDate = some date ∧ tradeDate < date) ∧
      store.CashCovers ledger costs := by
  simp only [run_eq_ok, fundsRejection, side] at funded
  obtain ⟨dated, covered⟩ := funded
  refine ⟨requireAcquisitionDate_eq_ok dated, ?_⟩
  by_contra uncovered
  simp [uncovered] at covered

theorem requireFunds_buy {intent : PaperOrderIntent}
    (funded : store.requireFunds ledger intent request costs = .ok ()) (side : intent.side = .buy) :
    (∃ date, request.quote.acquisitionAvailableDate = some date ∧ request.tradeDate < date) ∧
      store.CashCovers ledger costs := by
  simp only [run_eq_ok, requireFunds, side] at funded
  exact ⟨requireAcquisitionDate_eq_ok funded.1, funded.2⟩

theorem Opened.grows_withOrder (ledger : Ledger) (request : SubmitIntent)
    (costs : ExecutionCostCalculation) (order : PaperOrder) :
    Grows ledger (withOrder store ledger request costs order) where
  intents := prefix_append _ _
  orders := by
    rw [withOrder, map_append]
    exact prefix_append _ _
  receipts := prefix_rfl
  account := rfl
  fills := rfl
  lots := rfl
  consumptions := rfl

theorem Opened.filledAtOnce
    (opened : Opened store ledger request costs evaluatedOrder (some fill) filled result) :
    FilledAtOnce store (withIntent store ledger request costs) request.intent
      (store.resolvedExecutionId request) request.decisionTime
      request.tradeDate request.quote costs evaluatedOrder fill := by
  rcases evaluateIntent_cases opened.evaluated with
    ⟨fillEq, -⟩ | ⟨_, fillEq, facts⟩
  · cases fillEq
  · cases fillEq
    exact facts

theorem Opened.fillContext {request : SubmitIntent}
    (opened : Opened store ledger request costs evaluatedOrder (some fill) filled result) :
    FillContext store
      (withOrder store ledger request costs
        (settleOrder evaluatedOrder (some fill) request.persistenceTime))
      (openedOrder request (settleOrder evaluatedOrder (some fill) request.persistenceTime))
      (openedIntent store request costs) fill costs request.tradeDate
      request.quote.acquisitionAvailableDate request.persistenceTime := by
  have checked := prepareSubmission_eq_ok opened.prepared
  obtain ⟨pricedSide, -, recalculated⟩ := executionCosts_recalculated checked.priced
  have facts := opened.filledAtOnce
  have fillOrder : fill.orderId = evaluatedOrder.orderId := congrArg PaperFill.orderId facts.fill_eq
  have fillTime : fill.executedAt = request.decisionTime :=
    congrArg PaperFill.executedAt facts.fill_eq
  have fillPrice : fill.price = costs.executedPrice := congrArg PaperFill.price facts.fill_eq
  have fillExecution : fill.executionId = store.resolvedExecutionId request :=
    congrArg PaperFill.executionId facts.fill_eq
  have created : evaluatedOrder.createdAt = request.decisionTime := by
    rw [facts.order_eq]
    rfl
  exact
    { order_mem := mem_concat_self
      order_id := by simp [openedOrder, fillOrder]
      intent_mem := mem_concat_self
      intent_id := opened.openedOrder_columns.intentId.symm
      pricedSide := pricedSide
      pricedQuantity := facts.priced
      recalculated := recalculated
      draft := by
        refine ⟨1, request.intent.priceSnapshotId, ?_⟩
        rw [fillTime, fillExecution]
        simpa [openedOrder] using facts.fill_eq
      valid := facts.fillValid
      tradeDate_eq := by rw [fillTime, checked.tradeDate]
      persisted := by rw [fillTime]; exact checked.persisted
      afterCreation := by simp [openedOrder, created, fillTime]
      beforeExpiry := by rw [fillTime]; exact facts.beforeExpiry
      withinLimit := by rw [fillPrice]; exact facts.withinLimit
      acquisition := fun side => (fundsRejection_buy facts.funded side).1
      cashCovers := fun side => (fundsRejection_buy facts.funded side).2 }

theorem Executed.fillContext {row : OrderRow} {sequence : ℕ}
    (executed :
      Executed store ledger request costs row intent sequence averagePrice filled result) :
    FillContext store ledger row intent
      (incrementalFill store request costs sequence) costs request.tradeDate
      request.quote.acquisitionAvailableDate request.persistenceTime := by
  have checked := prepareExecution_eq_ok executed.prepared
  obtain ⟨pricedSide, pricedQuantity, recalculated⟩ := executionCosts_recalculated checked.priced
  obtain ⟨rowMem, -, rowId⟩ := mem_of_orderRow executed.rowFound
  obtain ⟨intentMem, intentId⟩ := mem_of_intentRow executed.intentFound
  exact
    { order_mem := rowMem
      order_id := rowId
      intent_mem := intentMem
      intent_id := intentId
      pricedSide := pricedSide
      pricedQuantity := pricedQuantity
      recalculated := recalculated
      draft := ⟨sequence, request.priceSnapshotId, by rw [rowId]; rfl⟩
      valid := executed.fillValid
      tradeDate_eq := checked.tradeDate
      persisted := checked.persisted
      afterCreation := executed.executable.afterCreation
      beforeExpiry := executed.executable.beforeExpiry
      withinLimit := executed.executable.withinLimit
      acquisition := fun side => (requireFunds_buy executed.executable.funded side).1
      cashCovers := fun side => (requireFunds_buy executed.executable.funded side).2 }

/-- A change of the ledger either adds rows without a fill or is one fill. -/
theorem Change.grows_or_fills (changed : Change store ledger call result)
    (identities : Identities store ledger) :
    Grows ledger result ∨
      ∃ before after order intent fill costs tradeDate availableDate,
        FillStep store ledger call result before after order intent fill costs
          tradeDate availableDate := by
  cases changed with
  | unchanged => exact .inl (Grows.refl ledger)
  | @opened request costs evaluatedOrder fill filled _ facts =>
    have settles : Grows filled result := by
      rw [facts.result_eq]
      exact ⟨prefix_rfl, prefix_rfl, prefix_append _ _, rfl, rfl, rfl, rfl⟩
    cases fill with
    | none =>
      have applied := facts.applied
      cases applied
      exact .inl ((Opened.grows_withOrder _ _ _ _).trans settles)
    | some fill =>
      have executedAt : fill.executedAt = request.decisionTime :=
        congrArg PaperFill.executedAt facts.filledAtOnce.fill_eq
      exact .inr ⟨_, filled, _, _, fill, costs, _, _,
        { grows := Opened.grows_withOrder _ _ _ _
          context := facts.fillContext
          applied := facts.applied
          settles := settles
          pricing_eq := by simp [pricing, facts.prepared, openedIntent, submittedIntentRow]
          executedAt_eq := executedAt
          executionId_eq := congrArg (fun fill => some (PaperFill.executionId fill))
            facts.filledAtOnce.fill_eq.symm
          submitted := fun _ _ => by
            rw [executedAt]
            exact facts.filledAtOnce.afterEarliest }⟩
  | @executed request costs row intent sequence averagePrice filled _ facts =>
    have orders := facts.orders_identity identities
    have frame := applyFill_frame facts.applied
    have settles : Grows filled result := by
      constructor
      · rw [facts.result_eq]
      · rw [orders, frame.orders]
      · rw [facts.result_eq]
        exact prefix_append _ _
      all_goals rw [facts.result_eq]
    exact .inr ⟨ledger, filled, row, intent, _, costs, _, _,
      { grows := Grows.refl ledger
        context := facts.fillContext
        applied := facts.applied
        settles := settles
        pricing_eq := by simp [pricing, facts.prepared]
        executedAt_eq := rfl
        executionId_eq := rfl
        submitted := fun _ isSubmit => by cases isSubmit }⟩
  | closed facts =>
    have orders := facts.orders_identity identities
    refine .inl ?_
    constructor
    · rw [facts.result_eq]
    · rw [orders]
    all_goals rw [facts.result_eq]

structure FillOf (ledger : Ledger) (fill : FillRow) (order : OrderRow)
    (intent : IntentRow) : Prop where
  order_mem : order ∈ ledger.orders
  order_id : order.orderId = fill.orderId
  intent_mem : intent ∈ ledger.intents
  intent_id : intent.intentId = order.intentId

section

variable (store : PaperBrokerStore)

structure Acquired (intent : IntentRow) (fill : FillRow) (lot : LotRow) : Prop where
  side : intent.payload.side = .buy
  lot_eq : ∃ availableDate, store.calendar.shanghaiDate fill.executedAt < availableDate ∧
    lot.acquired =
      store.acquiredLot intent.payload fill.toPaperFill
        (store.calendar.shanghaiDate fill.executedAt) availableDate
        fill.persistedAt

/-- A consumption was made by a SELL fill from an available lot of its
position. -/
structure Consumed (intent : IntentRow) (fill : FillRow)
    (lot : LotRow) (row : ConsumptionRow) : Prop where
  side : intent.payload.side = .sell
  fillId : row.fillId = fill.fillId
  lotId : row.lotId = lot.lotId
  persistedAt : row.persistedAt = fill.persistedAt
  unitCost : row.unitCost = lot.unitCost
  tsCode : lot.tsCode = intent.payload.tsCode
  entrySignalId : some lot.entrySignalId = intent.payload.entrySignalId
  available : lot.availableDate ≤ store.calendar.shanghaiDate fill.executedAt
  quantity : IsPositiveLot row.quantity

/-- What is recorded about one fill. -/
structure FillFacts (ledger : Ledger) (order : OrderIdentity)
    (intent : IntentRow) (fill : FillRow) : Prop where
  valid :
    fill.toPaperFill.validateFill store.arithmetic (store.expectedFillId fill.toPaperFill) = .ok ()
  persisted : fill.executedAt ≤ fill.persistedAt
  afterCreation : order.createdAt ≤ fill.executedAt
  beforeExpiry : fill.executedAt < intent.payload.expiresAt
  withinLimit : ¬ MissesLimit intent.payload.toIntentFields fill.price
  buys : intent.payload.side = .buy → ∃ lot ∈ ledger.lots, lot.lotId = fill.fillId
  sells : intent.payload.side = .sell → consumedBy ledger.consumptions fill.fillId = fill.quantity

/-- Fills, lots and consumptions agree. -/
structure Positions (ledger : Ledger) : Prop where
  fillIds : (ledger.fills.map (·.fillId)).Nodup
  executionIds : (ledger.fills.map (·.executionId)).Nodup
  lotIds : (ledger.lots.map LotRow.lotId).Nodup
  fills : ∀ fill ∈ ledger.fills, ∃ order intent,
    FillOf ledger fill order intent ∧ FillFacts store ledger order.identity intent fill
  lots : ∀ lot ∈ ledger.lots, ∃ fill ∈ ledger.fills, ∃ order intent,
    FillOf ledger fill order intent ∧ Acquired store intent fill lot
  consumptions : ∀ row ∈ ledger.consumptions, ∃ fill ∈ ledger.fills, ∃ order intent,
    FillOf ledger fill order intent ∧ ∃ lot ∈ ledger.lots, Consumed store intent fill lot row
  remaining : ∀ lot ∈ ledger.lots,
    lot.remainingQuantity + consumedFrom ledger.consumptions lot.lotId = lot.originalQuantity
  remaining_lot : ∀ lot ∈ ledger.lots, IsLot lot.remainingQuantity

end

theorem positions_openLedger : Positions store store.openLedger where
  fillIds := nodup_nil
  executionIds := nodup_nil
  lotIds := nodup_nil
  fills := by simp [openLedger]
  lots := by simp [openLedger]
  consumptions := by simp [openLedger]
  remaining := by simp [openLedger]
  remaining_lot := by simp [openLedger]

theorem FillOf.grows {fill : FillRow} (belongs : FillOf ledger fill order intent)
    (intents : ledger.intents <+: result.intents)
    (orders : ledger.orders.map OrderRow.identity <+: result.orders.map OrderRow.identity) :
    ∃ kept, kept.identity = order.identity ∧ FillOf result fill kept intent := by
  have identityMem : order.identity ∈ result.orders.map OrderRow.identity :=
    orders.subset (mem_map_of_mem belongs.order_mem)
  obtain ⟨kept, keptMem, sameIdentity⟩ := mem_map.mp identityMem
  refine ⟨kept, sameIdentity, keptMem, ?_, intents.subset belongs.intent_mem, ?_⟩
  · rw [← belongs.order_id]
    exact congrArg OrderIdentity.orderId sameIdentity
  · rw [belongs.intent_id]
    exact (congrArg OrderIdentity.intentId sameIdentity).symm

theorem Positions.grows (positions : Positions store ledger) (grows : Grows ledger result) :
    Positions store result := by
  constructor
  · rw [grows.fills]
    exact positions.fillIds
  · rw [grows.fills]
    exact positions.executionIds
  · rw [grows.lots]
    exact positions.lotIds
  · intro fill mem
    rw [grows.fills] at mem
    obtain ⟨order, intent, belongs, facts⟩ := positions.fills fill mem
    obtain ⟨kept, sameIdentity, keptBelongs⟩ := belongs.grows grows.intents grows.orders
    refine ⟨kept, intent, keptBelongs, ?_⟩
    rw [sameIdentity]
    exact
      { facts with
        buys := by rw [grows.lots]; exact facts.buys
        sells := by rw [grows.consumptions]; exact facts.sells }
  · intro lot mem
    rw [grows.lots] at mem
    obtain ⟨fill, fillMem, order, intent, belongs, acquired⟩ := positions.lots lot mem
    obtain ⟨kept, -, keptBelongs⟩ := belongs.grows grows.intents grows.orders
    exact ⟨fill, grows.fills ▸ fillMem, kept, intent, keptBelongs, acquired⟩
  · intro row mem
    rw [grows.consumptions] at mem
    obtain ⟨fill, fillMem, order, intent, belongs, lot, lotMem,
      consumed⟩ := positions.consumptions row mem
    obtain ⟨kept, -, keptBelongs⟩ := belongs.grows grows.intents grows.orders
    exact ⟨fill, grows.fills ▸ fillMem, kept, intent, keptBelongs, lot,
      grows.lots ▸ lotMem, consumed⟩
  · rw [grows.lots, grows.consumptions]
    exact positions.remaining
  · rw [grows.lots]
    exact positions.remaining_lot

/-! ## What a SELL fill takes -/

theorem mem_eligibleLots : lot ∈ store.eligibleLots ledger tsCode entrySignalId tradeDate ↔
    lot ∈ ledger.lots ∧
      (lot.accountId = store.accountId ∧ lot.tsCode = tsCode ∧
        some lot.entrySignalId = entrySignalId ∧
        ledger.BuyProvenance lot) ∧
      0 < lot.remainingQuantity ∧ lot.availableDate ≤ tradeDate := by
  simp only [eligibleLots, positionLots, mem_sortOn, mem_filter, decide_eq_true_eq, and_assoc]

/-- What a complete allocation takes: distinct available lots of the position,
bounded by what they hold, for the whole quantity. -/
structure AllocationFacts (store : PaperBrokerStore) (ledger : Ledger) (intent : PaperOrderIntent)
    (quantity : ℕ) (tradeDate : Date) (allocations : List (LotRow × ℕ)) :
    Prop where
  eligible : ∀ allocation ∈ allocations,
    allocation.1 ∈ store.eligibleLots ledger intent.tsCode intent.entrySignalId tradeDate
  positive : ∀ allocation ∈ allocations, 0 < allocation.2
  bounded : ∀ allocation ∈ allocations, allocation.2 ≤ allocation.1.remainingQuantity
  distinct : (allocations.map fun allocation => allocation.1.lotId).Nodup
  total : quantityOf allocations = quantity

theorem sellAllocation_facts {intent : PaperOrderIntent}
    (lotIds : (ledger.lots.map LotRow.lotId).Nodup)
    (allocated : store.sellAllocation ledger intent quantity tradeDate = (allocations, 0)) :
    AllocationFacts store ledger intent quantity tradeDate allocations := by
  unfold sellAllocation at allocated
  generalize holdingsEq : (store.eligibleLots ledger intent.tsCode intent.entrySignalId
    tradeDate).map (fun lot => (lot, lot.remainingQuantity)) = holdings
    at allocated
  obtain rfl : (allocate quantity holdings).1 = allocations := congrArg Prod.fst allocated
  have complete : (allocate quantity holdings).2 = 0 := congrArg Prod.snd allocated
  have holding_of_mem : ∀ allocation ∈ (allocate quantity holdings).1,
      allocation.1 ∈ store.eligibleLots ledger intent.tsCode intent.entrySignalId tradeDate ∧
        allocation.2 ≤ allocation.1.remainingQuantity := by
    intro allocation mem
    obtain ⟨_, holding, bound⟩ := exists_holding_of_mem_allocate mem
    rw [← holdingsEq] at holding
    obtain ⟨lot, lotMem, lotEq⟩ := mem_map.mp holding
    rw [Prod.mk.injEq] at lotEq
    obtain ⟨lotFst, rfl⟩ := lotEq
    rw [← lotFst]
    exact ⟨lotMem, bound⟩
  have holdings_pos : ∀ holding ∈ holdings, 0 < holding.2 := by
    rw [← holdingsEq]
    intro holding mem
    obtain ⟨lot, lotMem, rfl⟩ := mem_map.mp mem
    exact (mem_eligibleLots.mp lotMem).2.2.1
  refine
    { eligible := fun allocation mem => (holding_of_mem allocation mem).1
      positive := fun allocation mem => pos_of_mem_allocate holdings_pos mem
      bounded := fun allocation mem => (holding_of_mem allocation mem).2
      distinct := ?_
      total := ?_ }
  · have keys := (allocate_keys_sublist quantity holdings).map LotRow.lotId
    rw [← holdingsEq, map_map, map_map, map_map] at keys
    refine Nodup.sublist (holdingsEq ▸ keys) ?_
    refine ((perm_sortOn _).map LotRow.lotId).nodup_iff.mpr ?_
    exact lotIds.sublist ((filter_sublist.trans filter_sublist).map LotRow.lotId)
  · have total := allocate_total quantity holdings
    omega

theorem takenFrom_eq_zero (absent : ∀ allocation ∈ allocations, allocation.1.lotId ≠ lotId) :
    takenFrom allocations lotId = 0 := by
  induction allocations with
  | nil => rfl
  | cons allocation rest ih =>
    rw [takenFrom_cons, if_neg (absent allocation (by simp)),
      ih fun other mem => absent other (mem_cons_of_mem _ mem)]

theorem takenFrom_of_mem (distinct : (allocations.map fun allocation => allocation.1.lotId).Nodup)
    (mem : allocation ∈ allocations) :
    takenFrom allocations allocation.1.lotId = allocation.2 := by
  induction allocations with
  | nil => cases mem
  | cons head rest ih =>
    rw [map_cons, nodup_cons] at distinct
    rw [takenFrom_cons]
    rcases mem_cons.mp mem with rfl | restMem
    · rw [if_pos rfl, takenFrom_eq_zero, add_zero]
      intro other otherMem same
      exact distinct.1 (mem_map.mpr ⟨other, otherMem, same⟩)
    · have different : head.1.lotId ≠ allocation.1.lotId := by
        intro same
        exact distinct.1 (mem_map.mpr ⟨allocation, restMem, same.symm⟩)
      rw [if_neg different, zero_add]
      exact ih distinct.2 restMem

theorem AllocationFacts.takenFrom_le {intent : PaperOrderIntent}
    (facts : AllocationFacts store ledger intent quantity tradeDate allocations)
    (lotIds : (ledger.lots.map LotRow.lotId).Nodup) (mem : lot ∈ ledger.lots) :
    takenFrom allocations lot.lotId ≤ lot.remainingQuantity := by
  by_cases touched : ∃ allocation ∈ allocations, allocation.1.lotId = lot.lotId
  · obtain ⟨allocation, allocationMem, sameId⟩ := touched
    have allocationLot := (mem_eligibleLots.mp (facts.eligible allocation allocationMem)).1
    obtain rfl : allocation.1 = lot := eq_of_key_eq lotIds allocationLot mem sameId
    rw [takenFrom_of_mem facts.distinct allocationMem]
    exact facts.bounded allocation allocationMem
  · push Not at touched
    rw [takenFrom_eq_zero touched]
    exact Nat.zero_le _

section

variable (fill : PaperFill) (persistedAt : Time)

theorem consumedFrom_consumptionRows (allocations : List (LotRow × ℕ)) (lotId : Digest) :
    consumedFrom (consumptionRows fill persistedAt allocations) lotId =
      takenFrom allocations lotId := by
  induction allocations with
  | nil => rfl
  | cons allocation rest ih =>
    rw [takenFrom_cons, ← ih]
    simp only [consumedFrom, consumptionRows, map_cons]
    by_cases same : allocation.1.lotId = lotId <;> simp [same]

theorem consumedBy_consumptionRows (allocations : List (LotRow × ℕ)) :
    consumedBy (consumptionRows fill persistedAt allocations) fill.fillId =
      quantityOf allocations := by
  induction allocations with
  | nil => rfl
  | cons allocation rest ih =>
    rw [quantityOf_cons, ← ih]
    simp [consumedBy, consumptionRows]

def recordedFill : FillRow :=
  { toPaperFill := fill, persistedAt := persistedAt }

end

section

variable (context : FillContext store ledger order intent fill costs tradeDate availableDate
  persistedAt)

include context

theorem FillContext.fillOf : FillOf ledger (recordedFill fill persistedAt) order intent :=
  { context with }

theorem recordedFill_tradeDate :
    store.calendar.shanghaiDate (recordedFill fill persistedAt).executedAt = tradeDate :=
  context.tradeDate_eq.symm

end

theorem FillOf.of_frame {fill : FillRow} (belongs : FillOf ledger fill order intent)
    (frame : FillFrame ledger result) :
    FillOf result fill order intent :=
  ⟨frame.orders ▸ belongs.order_mem, belongs.order_id,
    frame.intents ▸ belongs.intent_mem, belongs.intent_id⟩

theorem validateFill_eq_ok {arithmetic : DecimalContext}
    (valid : fill.validateFill arithmetic expectedId = .ok ()) :
    IsPositiveLot fill.quantity ∧ 0 < fill.price ∧ 0 ≤ fill.totalFees := by
  simp only [run_eq_ok, PaperFill.validateFill] at valid
  exact ⟨valid.2.1, valid.2.2.1, valid.2.2.2.1.2.2.2⟩

theorem Positions.consumedFrom_fresh (positions : Positions store ledger)
    (fresh : lotId ∉ ledger.lots.map LotRow.lotId) :
    consumedFrom ledger.consumptions lotId = 0 := by
  rw [consumedFrom, filter_of_none, map_nil, sum_nil]
  intro row mem same
  obtain ⟨_, _, _, _, _, _, lotMem, consumed⟩ := positions.consumptions row mem
  refine fresh ?_
  rw [← same, consumed.lotId]
  exact mem_map_of_mem lotMem

theorem fillId_mem {fill : FillRow} {fills : List FillRow} (mem : fill ∈ fills) :
    fill.fillId ∈ fills.map (·.fillId) :=
  mem_map_of_mem mem

theorem Positions.consumedBy_fresh (positions : Positions store ledger)
    (fresh : fillId ∉ ledger.fills.map (·.fillId)) :
    consumedBy ledger.consumptions fillId = 0 := by
  apply consumedBy_eq_zero
  intro row mem same
  obtain ⟨fill, fillMem, _, _, _, _, _, consumed⟩ := positions.consumptions row mem
  apply fresh
  rw [← same, consumed.fillId]
  exact fillId_mem fillMem

theorem FillContext.fillFacts
    (context : FillContext store ledger order intent fill costs tradeDate availableDate persistedAt)
    (buys : intent.payload.side = .buy → ∃ lot ∈ result.lots, lot.lotId = fill.fillId)
    (sells :
      intent.payload.side = .sell → consumedBy result.consumptions fill.fillId = fill.quantity) :
    FillFacts store result order.identity intent (recordedFill fill persistedAt) :=
  { valid := context.valid, persisted := context.persisted, afterCreation := context.afterCreation,
    beforeExpiry := context.beforeExpiry, withinLimit := context.withinLimit, buys, sells }

/-- A fill is recorded; the lots keep everything but their remaining quantity. -/
structure Records (ledger result : Ledger) (row : FillRow) : Prop where
  frame : FillFrame ledger result
  fills : result.fills = ledger.fills ++ [row]
  lots : ∀ lot ∈ ledger.lots, ∃ kept ∈ result.lots, kept.acquired = lot.acquired

theorem Consumed.of_acquired {fill : FillRow} {kept : LotRow}
    (consumed : Consumed store intent fill lot row) (same : kept.acquired = lot.acquired) :
    Consumed store intent fill kept row where
  side := consumed.side
  fillId := consumed.fillId
  lotId := consumed.lotId.trans (congrArg LotRow.lotId same).symm
  persistedAt := consumed.persistedAt
  unitCost := consumed.unitCost.trans (congrArg LotRow.unitCost same).symm
  tsCode := (congrArg LotRow.tsCode same).trans consumed.tsCode
  entrySignalId := (congrArg (fun lot => some lot.entrySignalId) same).trans consumed.entrySignalId
  available := (congrArg LotRow.availableDate same).le.trans consumed.available
  quantity := consumed.quantity

section

variable {new : FillRow} (records : Records ledger result new)

include records

theorem Records.mem_new : new ∈ result.fills := by
  rw [records.fills]
  exact mem_concat_self

theorem Records.keeps {fact : IntentRow → FillRow → Prop}
    (known :
      ∃ fill ∈ ledger.fills, ∃ order intent, FillOf ledger fill order intent ∧ fact intent fill) :
    ∃ fill ∈ result.fills, ∃ order intent, FillOf result fill order intent ∧ fact intent fill := by
  obtain ⟨fill, mem, order, intent, belongs, holds⟩ := known
  refine ⟨fill, ?_, order, intent, belongs.of_frame records.frame, holds⟩
  rw [records.fills]
  exact mem_append_left _ mem

theorem Records.consumption (positions : Positions store ledger) (mem : row ∈ ledger.consumptions) :
    ∃ fill ∈ result.fills, ∃ order intent, FillOf result fill order intent ∧
      ∃ lot ∈ result.lots, Consumed store intent fill lot row := by
  obtain ⟨fill, fillMem, order, intent, belongs, lot, lotMem, consumed⟩ :=
    records.keeps (positions.consumptions row mem)
  obtain ⟨kept, keptMem, same⟩ := records.lots lot lotMem
  exact ⟨fill, fillMem, order, intent, belongs, kept, keptMem, consumed.of_acquired same⟩

theorem Records.fillFacts {fill : FillRow} {order : OrderIdentity}
    (facts : FillFacts store ledger order intent fill)
    (sells :
      consumedBy result.consumptions fill.fillId = consumedBy ledger.consumptions fill.fillId) :
    FillFacts store result order intent fill :=
  { facts with
    buys := fun side => by
      obtain ⟨lot, lotMem, lotId⟩ := facts.buys side
      obtain ⟨kept, keptMem, same⟩ := records.lots lot lotMem
      exact ⟨kept, keptMem, (congrArg LotRow.lotId same).trans lotId⟩
    sells := fun side => sells.trans (facts.sells side) }

end

/-- A BUY fill opens one lot with its quantity. -/
theorem Positions.bought (positions : Positions store ledger)
    (context : FillContext store ledger order intent fill costs tradeDate availableDate persistedAt)
    (dateEq : availableDate = some date)
    (bought : Bought store ledger intent.payload fill tradeDate date persistedAt result) :
    Positions store result := by
  have lotsEq : result.lots =
      ledger.lots ++ [store.acquiredLot intent.payload fill tradeDate date persistedAt] := by
    rw [bought.result_eq]
  have consumptionsEq : result.consumptions = ledger.consumptions := by
    rw [bought.result_eq]
    rfl
  have records : Records ledger result (recordedFill fill persistedAt) :=
    { frame := bought.frame
      fills := by
        rw [bought.result_eq]
        rfl
      lots := fun lot mem => ⟨lot, by rw [lotsEq]; exact mem_append_left _ mem, rfl⟩ }
  have later : tradeDate < date := by
    obtain ⟨_, otherEq, later⟩ := context.acquisition bought.side
    rw [dateEq, Option.some.injEq] at otherEq
    exact otherEq ▸ later
  constructor
  · rw [records.fills]
    exact nodup_concat positions.fillIds bought.fresh.fillId
  · rw [records.fills]
    exact nodup_concat positions.executionIds bought.fresh.executionId
  · rw [lotsEq]
    exact nodup_concat positions.lotIds bought.newLot
  · intro row mem
    rw [records.fills] at mem
    rcases mem_concat.mp mem with old | rfl
    · obtain ⟨oldOrder, oldIntent, belongs, facts⟩ := positions.fills row old
      exact ⟨oldOrder, oldIntent, belongs.of_frame records.frame,
        records.fillFacts facts (by rw [consumptionsEq])⟩
    · refine ⟨order, intent, context.fillOf.of_frame records.frame, context.fillFacts ?_ ?_⟩
      · intro _
        rw [lotsEq]
        exact ⟨_, mem_concat_self, rfl⟩
      · intro sellSide
        rw [bought.side] at sellSide
        cases sellSide
  · intro lot mem
    rw [lotsEq] at mem
    rcases mem_concat.mp mem with old | rfl
    · exact records.keeps (positions.lots lot old)
    · refine ⟨_, records.mem_new, order, intent, context.fillOf.of_frame records.frame, bought.side,
        date, ?_, ?_⟩
      · rw [recordedFill_tradeDate context]
        exact later
      · rw [recordedFill_tradeDate context]
        rfl
  · intro row mem
    rw [consumptionsEq] at mem
    exact records.consumption positions mem
  · intro lot mem
    rw [lotsEq] at mem
    rw [consumptionsEq]
    rcases mem_concat.mp mem with old | rfl
    · exact positions.remaining lot old
    · change fill.quantity + consumedFrom ledger.consumptions fill.fillId = _
      rw [positions.consumedFrom_fresh bought.newLot]
      rfl
  · intro lot mem
    rw [lotsEq] at mem
    rcases mem_concat.mp mem with old | rfl
    · exact positions.remaining_lot lot old
    · exact (validateFill_eq_ok context.valid).1.2

theorem mem_consumeLots : lot ∈ consumeLots allocations lots ↔
    ∃ old ∈ lots, lot =
      { old with
        remainingQuantity := old.remainingQuantity - takenFrom allocations old.lotId } := by
  rw [consumeLots_eq_map, mem_map]
  simp only [eq_comm]

theorem isLot_takenFrom (wholeLots : ∀ allocation ∈ allocations, IsLot allocation.2) :
    IsLot (takenFrom allocations lotId) := by
  induction allocations with
  | nil => rfl
  | cons allocation rest ih =>
    have headLot := wholeLots allocation (by simp)
    have restLot := ih fun other mem => wholeLots other (mem_cons_of_mem _ mem)
    rw [takenFrom_cons]
    unfold IsLot at *
    split <;> omega

/-- A SELL fill consumes lots for all of its quantity. -/
theorem Positions.sold (positions : Positions store ledger)
    (context : FillContext store ledger order intent fill costs tradeDate availableDate persistedAt)
    (sold : Sold store ledger intent.payload fill tradeDate persistedAt allocations result) :
    Positions store result := by
  have lotsEq : result.lots = consumeLots allocations ledger.lots := by
    rw [sold.result_eq]
  have consumptionsEq : result.consumptions =
      ledger.consumptions ++ consumptionRows fill persistedAt allocations := by
    rw [sold.result_eq]
  have records : Records ledger result (recordedFill fill persistedAt) :=
    { frame := sold.frame
      fills := by
        rw [sold.result_eq]
        rfl
      lots := fun lot mem => by
        rw [lotsEq]
        exact ⟨_, mem_consumeLots.mpr ⟨lot, mem, rfl⟩, rfl⟩ }
  have quantityLot := (validateFill_eq_ok context.valid).1.2
  have facts : AllocationFacts store (withFill ledger fill persistedAt) _ _ _ _ :=
    sellAllocation_facts positions.lotIds sold.allocated
  have wholeLots : ∀ allocation ∈ allocations, IsLot allocation.2 := by
    intro allocation mem
    rw [show allocations = _ from (congrArg Prod.fst sold.allocated).symm, sellAllocation] at mem
    refine Nat.mod_eq_zero_of_dvd (dvd_of_mem_allocate (Nat.dvd_of_mod_eq_zero quantityLot) ?_ mem)
    intro _ holdingMem
    obtain ⟨lot, lotMem, rfl⟩ := mem_map.mp holdingMem
    exact Nat.dvd_of_mod_eq_zero (positions.remaining_lot lot (mem_eligibleLots.mp lotMem).1)
  constructor
  · rw [records.fills]
    exact nodup_concat positions.fillIds sold.fresh.fillId
  · rw [records.fills]
    exact nodup_concat positions.executionIds sold.fresh.executionId
  · rw [lotsEq, consumeLots_map_lotId]
    exact positions.lotIds
  · intro row mem
    rw [records.fills] at mem
    rcases mem_concat.mp mem with old | rfl
    · obtain ⟨oldOrder, oldIntent, belongs, oldFacts⟩ := positions.fills row old
      refine ⟨oldOrder, oldIntent, belongs.of_frame records.frame, records.fillFacts oldFacts ?_⟩
      rw [consumptionsEq, consumedBy_append, Nat.add_eq_left]
      apply consumedBy_eq_zero
      intro _ consumptionMem same
      obtain ⟨allocation, -, rfl⟩ := mem_map.mp consumptionMem
      apply sold.fresh.fillId
      rw [show fill.fillId = row.fillId from same]
      exact fillId_mem old
    · refine ⟨order, intent, context.fillOf.of_frame records.frame, context.fillFacts ?_ ?_⟩
      · intro buySide
        rw [sold.side] at buySide
        cases buySide
      · intro _
        rw [consumptionsEq, consumedBy_append, positions.consumedBy_fresh sold.fresh.fillId,
          consumedBy_consumptionRows, facts.total, zero_add]
  · intro lot mem
    rw [lotsEq, mem_consumeLots] at mem
    obtain ⟨old, oldMem, rfl⟩ := mem
    obtain ⟨oldFill, fillMem, oldOrder, oldIntent, belongs, acquired⟩ :=
      records.keeps (positions.lots old oldMem)
    exact ⟨oldFill, fillMem, oldOrder, oldIntent, belongs, acquired.side, acquired.lot_eq⟩
  · intro row mem
    rw [consumptionsEq] at mem
    rcases mem_append.mp mem with old | new
    · exact records.consumption positions old
    · obtain ⟨allocation, allocationMem, rfl⟩ := mem_map.mp new
      obtain ⟨lotMem, ⟨-, tsCode, entrySignalId, -⟩, -, available⟩ :=
        mem_eligibleLots.mp (facts.eligible allocation allocationMem)
      obtain ⟨kept, keptMem, same⟩ := records.lots allocation.1 lotMem
      refine ⟨_, records.mem_new, order, intent, context.fillOf.of_frame records.frame, kept,
        keptMem, Consumed.of_acquired ?_ same⟩
      exact
        { side := sold.side
          fillId := rfl
          lotId := rfl
          persistedAt := rfl
          unitCost := rfl
          tsCode := tsCode
          entrySignalId := entrySignalId
          available := by
            rw [recordedFill_tradeDate context]
            exact available
          quantity :=
            ⟨facts.positive allocation allocationMem, wholeLots allocation allocationMem⟩ }
  · intro lot mem
    rw [lotsEq, mem_consumeLots] at mem
    obtain ⟨old, oldMem, rfl⟩ := mem
    have bound := facts.takenFrom_le positions.lotIds oldMem
    have balance := positions.remaining old oldMem
    rw [consumptionsEq, consumedFrom_append, consumedFrom_consumptionRows]
    change old.remainingQuantity - takenFrom allocations old.lotId +
      (consumedFrom ledger.consumptions old.lotId +
        takenFrom allocations old.lotId) = old.originalQuantity
    omega
  · intro lot mem
    rw [lotsEq, mem_consumeLots] at mem
    obtain ⟨old, oldMem, rfl⟩ := mem
    have bound := facts.takenFrom_le positions.lotIds oldMem
    have oldLot := positions.remaining_lot old oldMem
    have takenLot : IsLot (takenFrom allocations old.lotId) := isLot_takenFrom wholeLots
    unfold IsLot at *
    simp only
    omega

/-! ## The step and the run -/

theorem Positions.change (positions : Positions store ledger) (identities : Identities store ledger)
    (changed : Change store ledger call result) :
    Positions store result := by
  rcases changed.grows_or_fills identities with
    grows | ⟨_, after, _, _, _, _, _, _, step⟩
  · exact positions.grows grows
  · have beforePositions := positions.grows step.grows
    have afterPositions : Positions store after := by
      rcases applyFill_cases step.applied with
        ⟨_, dateEq, bought⟩ | ⟨_, sold⟩
      · exact beforePositions.bought step.context dateEq bought
      · exact beforePositions.sold step.context sold
    exact afterPositions.grows step.settles

structure Booked (store : PaperBrokerStore) (ledger : Ledger) : Prop where
  identities : Identities store ledger
  positions : Positions store ledger

theorem Booked.change (booked : Booked store ledger) (changed : Change store ledger call result) :
    Booked store result :=
  ⟨booked.identities.change changed, booked.positions.change booked.identities changed⟩

theorem booked_of_reachableBy (reachable : store.ReachableBy allowed ledger) :
    Booked store ledger :=
  reachable.invariant ⟨identities_openLedger, positions_openLedger⟩
    fun booked _ succeeds => booked.change succeeds.change

theorem FillOf.columns {fill : FillRow} (belongs : FillOf ledger fill order intent)
    (identities : Identities store ledger) :
    OrderColumns store intent order.identity := by
  obtain ⟨owner, ownerMem, columns⟩ := identities.orders order belongs.order_mem
  obtain rfl : owner = intent := eq_of_key_eq identities.intentIds ownerMem belongs.intent_mem
    (columns.intentId.symm.trans belongs.intent_id.symm)
  exact columns

theorem FillOf.unique {fill : FillRow} {left right : OrderRow}
    (leftBelongs : FillOf ledger fill left leftIntent)
    (rightBelongs : FillOf ledger fill right rightIntent) (identities : Identities store ledger) :
    left = right ∧ leftIntent = rightIntent := by
  obtain rfl : left = right :=
    eq_of_key_eq identities.orderIds leftBelongs.order_mem rightBelongs.order_mem
      (leftBelongs.order_id.trans rightBelongs.order_id.symm)
  refine ⟨rfl, ?_⟩
  exact eq_of_key_eq identities.intentIds leftBelongs.intent_mem rightBelongs.intent_mem
    (leftBelongs.intent_id.trans rightBelongs.intent_id.symm)

theorem FillOf.fillSide {fill : FillRow} (belongs : FillOf ledger fill order intent)
    (identities : Identities store ledger) :
    ledger.fillSide fill = some intent.payload.side := by
  have found :
      findKey (fun row : OrderRow => row.orderId) fill.orderId ledger.orders = some order := by
    rw [← belongs.order_id]
    exact findKey_of_mem identities.orderIds belongs.order_mem
  rw [Ledger.fillSide, found, Option.map_some]
  exact congrArg some (belongs.columns identities).side

/-- The ledger a call leaves extends the one it was made in. -/
structure Extends (ledger result : Ledger) : Prop where
  intents : ledger.intents <+: result.intents
  orders : ledger.orders.map OrderRow.identity <+: result.orders.map OrderRow.identity

theorem Grows.extends (grows : Grows ledger result) : Extends ledger result :=
  ⟨grows.intents, grows.orders⟩

section

variable (step : FillStep store ledger call result before after order intent fill costs tradeDate
  availableDate)

include step in
theorem FillStep.extends :
    Extends ledger result := by
  have frame := applyFill_frame step.applied
  constructor
  · exact step.grows.intents.trans (frame.intents ▸ step.settles.intents)
  · exact step.grows.orders.trans (frame.orders ▸ step.settles.orders)

theorem Booked.fillSide_extends (booked : Booked store ledger) (resultBooked : Booked store result)
    (extended : Extends ledger result) {fill : FillRow} (mem : fill ∈ ledger.fills) :
    result.fillSide fill = ledger.fillSide fill := by
  obtain ⟨_, _, belongs, -⟩ := booked.positions.fills fill mem
  obtain ⟨_, -, keptBelongs⟩ := belongs.grows extended.intents extended.orders
  rw [keptBelongs.fillSide resultBooked.identities, belongs.fillSide booked.identities]

section

include step

theorem FillStep.fills_eq :
    result.fills = ledger.fills ++ [recordedFill fill call.persistedAt] := by
  rw [step.settles.fills, (applyFill_fills step.applied).2, step.grows.fills]
  rfl

theorem FillStep.fillOf_new :
    ∃ kept, FillOf result (recordedFill fill call.persistedAt) kept intent := by
  have belongs := step.context.fillOf.of_frame (applyFill_frame step.applied)
  obtain ⟨kept, -, keptBelongs⟩ := belongs.grows step.settles.intents step.settles.orders
  exact ⟨kept, keptBelongs⟩

theorem FillStep.fillSide_new (resultBooked : Booked store result) :
    result.fillSide (recordedFill fill call.persistedAt) = some intent.payload.side := by
  obtain ⟨_, belongs⟩ := step.fillOf_new
  exact belongs.fillSide resultBooked.identities

end

/-- What a call that buys changes. -/
structure BuyEffect (store : PaperBrokerStore) (ledger result : Ledger)
    (intent : PaperOrderIntent) (fill : PaperFill) (tradeDate : Date)
    (persistedAt : Time) (availableDate : Date) : Prop where
  side : intent.side = .buy
  later : tradeDate < availableDate
  account : result.account =
    { ledger.account with
      cash := store.arithmetic.sub ledger.account.cash (store.buyCost fill) }
  newLot : fill.fillId ∉ ledger.lots.map LotRow.lotId
  lots :
    result.lots = ledger.lots ++ [store.acquiredLot intent fill tradeDate availableDate persistedAt]
  consumptions : result.consumptions = ledger.consumptions

/-- What a call that sells changes; `before` is the ledger its lots were read
in. -/
structure SellEffect (store : PaperBrokerStore) (ledger result before : Ledger)
    (intent : PaperOrderIntent) (fill : PaperFill) (tradeDate : Date)
    (persistedAt : Time) (allocations : List (LotRow × ℕ)) : Prop where
  side : intent.side = .sell
  allocated : store.sellAllocation before intent fill.quantity tradeDate = (allocations, 0)
  beforeLots : before.lots = ledger.lots
  account : result.account =
    { ledger.account with
      cash := store.arithmetic.add ledger.account.cash (store.netProceeds fill)
      realizedPnl := store.arithmetic.sub
        (store.arithmetic.add ledger.account.realizedPnl (store.netProceeds fill))
        (store.costBasis allocations) }
  lots : result.lots = consumeLots allocations ledger.lots
  consumptions :
    result.consumptions = ledger.consumptions ++ consumptionRows fill persistedAt allocations

include step in
theorem FillStep.effect :
    (∃ date, BuyEffect store ledger result intent.payload fill tradeDate call.persistedAt date) ∨
    (∃ allocations, SellEffect store ledger result (withFill before fill call.persistedAt)
      intent.payload fill tradeDate call.persistedAt allocations) := by
  rcases applyFill_cases step.applied with
    ⟨date, dateEq, bought⟩ | ⟨allocations, sold⟩
  · obtain ⟨other, otherEq, later⟩ := step.context.acquisition bought.side
    obtain rfl : date = other := by
      rw [dateEq, Option.some.injEq] at otherEq
      exact otherEq
    refine .inl ⟨date,
      { side := bought.side
        later := later
        account := ?_
        newLot := by
          have newLot := bought.newLot
          rwa [step.grows.lots] at newLot
        lots := ?_
        consumptions := ?_ }⟩
    · rw [step.settles.account, bought.result_eq, step.grows.account]
    · rw [step.settles.lots, bought.result_eq, step.grows.lots]
    · rw [step.settles.consumptions, bought.result_eq]
      exact step.grows.consumptions
  · refine .inr ⟨allocations,
      { side := sold.side, allocated := sold.allocated, beforeLots := step.grows.lots,
        account := ?_, lots := ?_, consumptions := ?_ }⟩
    · rw [step.settles.account, sold.result_eq, step.grows.account]
    · rw [step.settles.lots, sold.result_eq, step.grows.lots]
    · rw [step.settles.consumptions, sold.result_eq, step.grows.consumptions]

end

theorem SellEffect.facts {intent : PaperOrderIntent}
    (effect : SellEffect store ledger result before intent fill tradeDate persistedAt allocations)
    (lotIds : (ledger.lots.map LotRow.lotId).Nodup) :
    AllocationFacts store before intent fill.quantity tradeDate
      allocations :=
  sellAllocation_facts (by rw [effect.beforeLots]; exact lotIds) effect.allocated

end PaperBrokerStore

end RQuant.Paper
