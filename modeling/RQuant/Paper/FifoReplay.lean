import RQuant.Paper.Reconciliation

/-!
# The FIFO replay

`_reconcile_comparison_snapshot` replays all fills by time and allocates every
SELL again; `_apply_fill` allocated it when the call was made.  Times are
monotone within an order only.  When no fill is applied behind a SELL of its
position the two agree.
-/

namespace RQuant.Paper

open Foundation List

/-- `ORDER BY executed_at, persisted_at, sequence, fill_id`. -/
def replayKey (fill : FillRow) : Time ×ₗ Time ×ₗ ℕ ×ₗ Digest :=
  toLex (fill.executedAt, toLex (fill.persistedAt, toLex (fill.sequence, fill.fillId)))

def Call.openOrderId : Call → Option Digest
  | .submit _ => none
  | .apply request => some request.orderId
  | .close _ => none

variable {fill other : FillRow}

theorem replayKey_lt_of_times
    (earlier :
      toLex (fill.executedAt, fill.persistedAt) < toLex (other.executedAt, other.persistedAt)) :
    replayKey fill < replayKey other := by
  unfold replayKey
  rw [Prod.Lex.toLex_lt_toLex] at earlier ⊢
  rcases earlier with executed | ⟨sameExecuted, persisted⟩
  · exact .inl executed
  · exact .inr ⟨sameExecuted, Prod.Lex.toLex_lt_toLex.mpr (.inl persisted)⟩

theorem fillId_of_replayKey_eq (same : replayKey fill = replayKey other) :
    fill.fillId = other.fillId := by
  simp only [replayKey, toLex_inj, Prod.mk.injEq] at same
  exact same.2.2.2

variable {fills : List FillRow} {done rest : List AuditFill}

namespace PaperBrokerStore

section Model

variable (store : PaperBrokerStore)

/-! ## The replay of `_reconcile_comparison_snapshot`

The loop also compares each fill with its receipt and its costs, and sums up
cash and profit; none of that touches the lots. -/

def replayFills (ledger : Ledger) : List AuditFill :=
  sortOn (fun item : AuditFill => replayKey item.row) (store.auditFills ledger)

/-- The lots a SELL may take from at this point of the replay, in FIFO
order. -/
def replayEligible (lots : List LotRow) (lotRemaining : Digest → ℕ) (tsCode : String)
    (entrySignalId : Option Digest) (tradeDate : Date) : List LotRow :=
  sortOn lotFifoKey <|
    lots.filter fun lot =>
      0 < lotRemaining lot.lotId ∧ lot.tsCode = tsCode ∧ some lot.entrySignalId = entrySignalId ∧
        lot.availableDate ≤ tradeDate

/-- The canonical allocation of a SELL and the quantity it leaves unmet. -/
def expectedAllocations (lotRemaining : Digest → ℕ) (quantity : ℕ) (eligible : List LotRow) :
    List (Digest × ℕ) × ℕ :=
  allocate quantity <| eligible.map fun lot => (lot.lotId, lotRemaining lot.lotId)

/-- The allocation recorded for a fill, in FIFO order of its lots. -/
def actualAllocations (ledger : Ledger) (fillId : Digest) : List (Digest × ℕ) :=
  (sortOn (fun allocation : ConsumptionRow × LotRow =>
      lotFifoKey allocation.2) (fillAllocations ledger fillId)).map
    fun allocation => (allocation.1.lotId, allocation.1.quantity)

/-- `lot_remaining[lot_id] -= quantity` for every recorded allocation. -/
def consumeRemaining (lotRemaining : Digest → ℕ) (rows : List ConsumptionRow) : Digest → ℕ :=
  rows.foldl
    (fun remaining row => Function.update remaining row.lotId (remaining row.lotId - row.quantity))
    lotRemaining

section

variable (ledger : Ledger) (lotRemaining : Digest → ℕ) (item : AuditFill)

def replayBuy : Except BrokerError (Digest → ℕ) := do
  let fill := item.row
  let tradeDate := store.calendar.shanghaiDate fill.executedAt
  let lot ←
    orRaise (.reconciliation "paper comparator BUY lot provenance or basis does not reconcile")
      (findKey LotRow.lotId fill.fillId (store.accountLots ledger))
  require
    (lot.tsCode = item.order.tsCode ∧ lot.entrySignalId = item.intent.payload.signalId ∧
      lot.originalQuantity = fill.quantity ∧
      lot.unitCost = store.arithmetic.div (store.buyCost fill.toPaperFill) fill.quantity ∧
      lot.persistedAt = fill.persistedAt ∧
      lot.buyExecutedAt = fill.executedAt ∧
      lot.buyPersistedAt = fill.persistedAt ∧
      lot.buyFillSequence = fill.sequence ∧
      lot.acquisitionTradeDate = tradeDate ∧ tradeDate < lot.availableDate)
    (.reconciliation "paper comparator BUY lot provenance or basis does not reconcile")
  pure (Function.update lotRemaining fill.fillId fill.quantity)

def replaySell : Except BrokerError (Digest → ℕ) := do
  let fill := item.row
  let rows := ledger.consumptions.filter fun row => row.fillId = fill.fillId
  require ((rows.map ConsumptionRow.quantity).sum = fill.quantity)
    (.reconciliation "paper comparator SELL FIFO allocation does not reconcile")
  let expected :=
    expectedAllocations lotRemaining fill.quantity <|
      replayEligible (store.accountLots ledger) lotRemaining
        item.order.tsCode item.order.entrySignalId
        (store.calendar.shanghaiDate fill.executedAt)
  require (∀ row ∈ rows, (findKey LotRow.lotId row.lotId (store.accountLots ledger)).isSome)
    (.reconciliation "paper comparator SELL allocation has an unknown lot")
  require (expected.2 = 0 ∧ actualAllocations ledger fill.fillId = expected.1)
    (.reconciliation "paper comparator SELL allocation is not canonical FIFO")
  require
    (∀ allocation ∈ fillAllocations ledger fill.fillId,
      allocation.2.accountId = store.accountId ∧ allocation.2.tsCode = item.order.tsCode ∧
        some allocation.2.entrySignalId = item.order.entrySignalId ∧
        allocation.1.unitCost = allocation.2.unitCost ∧
        allocation.1.persistedAt = fill.persistedAt)
    (.reconciliation "paper comparator SELL consumption provenance does not reconcile")
  pure (consumeRemaining lotRemaining rows)

def replayFill : Except BrokerError (Digest → ℕ) :=
  match item.order.side with
  | .buy => store.replayBuy ledger lotRemaining item
  | .sell => store.replaySell ledger lotRemaining item

end

/-- The replay of all fills and the comparison of what it leaves. -/
def replayFifo (ledger : Ledger) : Except BrokerError Unit := do
  let lotRemaining ← (store.replayFills ledger).foldlM (store.replayFill ledger) fun _ => 0
  require (∀ lot ∈ store.accountLots ledger, lot.remainingQuantity = lotRemaining lot.lotId)
    (.reconciliation "paper comparator lot quantity does not reconcile")

/-- The position an intent trades: a BUY opens the one of its own signal. -/
def positionOf (intent : PaperOrderIntent) : String × Option Digest :=
  match intent.side with
  | .buy => (intent.tsCode, some intent.signalId)
  | .sell => (intent.tsCode, intent.entrySignalId)

/-- Every earlier SELL fill of the position, unless it is of the same order, was
executed before the time of the call, or at that time and became available
before. -/
def InReplayOrder (ledger : Ledger) (call : Call) : Prop :=
  ∀ priced ∈ store.pricing ledger call, ∀ item ∈ store.auditFills ledger,
    item.intent.payload.side = .sell →
      positionOf item.intent.payload = positionOf priced.1 →
        call.openOrderId ≠ some item.row.orderId →
          toLex (item.row.executedAt, item.row.persistedAt) <
            toLex (call.executedAt, call.persistedAt)
deriving Decidable

end Model

variable {store : PaperBrokerStore}

def AvailableTo (tsCode : String) (entrySignalId : Option Digest) (tradeDate : Date)
    (lot : LotRow) : Prop :=
  lot.tsCode = tsCode ∧ some lot.entrySignalId = entrySignalId ∧ lot.availableDate ≤ tradeDate

def replayHoldings (lots : List LotRow) (lotRemaining : Digest → ℕ) (tsCode : String)
    (entrySignalId : Option Digest) (tradeDate : Date) : List (Digest × ℕ) :=
  (replayEligible lots lotRemaining tsCode entrySignalId tradeDate).map
    fun lot => (lot.lotId, lotRemaining lot.lotId)

section Holdings

variable {lots : List LotRow} {lotRemaining other : Digest → ℕ}
  {tsCode : String} {entrySignalId : Option Digest} {tradeDate : Date} {lot : LotRow}

theorem mem_replayEligible : lot ∈ replayEligible lots lotRemaining tsCode entrySignalId tradeDate ↔
    lot ∈ lots ∧ 0 < lotRemaining lot.lotId ∧ AvailableTo tsCode entrySignalId tradeDate lot := by
  simp only [replayEligible, AvailableTo, mem_sortOn, mem_filter, decide_eq_true_eq]

theorem replayHoldings_acquired :
    replayHoldings (lots.map LotRow.acquired) lotRemaining tsCode entrySignalId tradeDate =
      replayHoldings lots lotRemaining tsCode entrySignalId tradeDate := by
  have eligible :
      replayEligible (lots.map LotRow.acquired) lotRemaining tsCode entrySignalId tradeDate =
        (replayEligible lots lotRemaining tsCode entrySignalId tradeDate).map LotRow.acquired := by
    unfold replayEligible
    rw [filter_map]
    symm
    apply map_insertionSort
    exact fun _ _ _ _ => Iff.rfl
  rw [replayHoldings, eligible, map_map]
  rfl

theorem replayHoldings_congr
    (agree : ∀ lot ∈ lots, AvailableTo tsCode entrySignalId tradeDate lot →
      lotRemaining lot.lotId = other lot.lotId) :
    replayHoldings lots lotRemaining tsCode entrySignalId tradeDate =
      replayHoldings lots other tsCode entrySignalId tradeDate := by
  have eligible : replayEligible lots lotRemaining tsCode entrySignalId tradeDate =
      replayEligible lots other tsCode entrySignalId tradeDate := by
    unfold replayEligible
    congr 1
    apply filter_congr
    intro lot mem
    by_cases available : AvailableTo tsCode entrySignalId tradeDate lot
    · rw [agree lot mem available]
    · unfold AvailableTo at available
      simp [available]
  rw [replayHoldings, replayHoldings, eligible]
  apply map_congr_left
  intro lot mem
  obtain ⟨lotMem, -, available⟩ := mem_replayEligible.mp mem
  rw [agree lot lotMem available]

theorem replayHoldings_append_unheld
    (unheld : AvailableTo tsCode entrySignalId tradeDate lot → lotRemaining lot.lotId = 0) :
    replayHoldings (lots ++ [lot]) lotRemaining tsCode entrySignalId tradeDate =
      replayHoldings lots lotRemaining tsCode entrySignalId tradeDate := by
  unfold replayHoldings replayEligible
  rw [filter_append_of_none]
  intro _ mem eligible
  rw [mem_singleton.mp mem] at eligible
  exact eligible.1.ne' (unheld eligible.2)

end Holdings

def boughtInto (ledger : Ledger) (lotId : Digest) (fill : FillRow) : ℕ :=
  if ledger.fillSide fill = some .buy ∧ fill.fillId = lotId then
    fill.quantity
  else 0

def takenOut (ledger : Ledger) (lotId : Digest) (fill : FillRow) : ℕ :=
  consumedFrom (ledger.consumptions.filter fun row => row.fillId = fill.fillId) lotId

/-- What some fills leave in a lot, in whatever order they are made. -/
def heldAfter (ledger : Ledger) (fills : List FillRow) (lotId : Digest) : ℕ :=
  (fills.map (boughtInto ledger lotId)).sum - (fills.map (takenOut ledger lotId)).sum

def fillsBefore (ledger : Ledger) (fill : FillRow) : List FillRow :=
  ledger.fills.filter fun other => replayKey other < replayKey fill

variable {ledger result : Ledger}

theorem heldAfter_perm (perm : fills.Perm others) :
    heldAfter ledger fills = heldAfter ledger others := by
  funext lotId
  unfold heldAfter
  rw [(perm.map _).sum_eq, (perm.map _).sum_eq]

theorem heldAfter_congr
    (sides : ∀ fill ∈ fills, result.fillSide fill = ledger.fillSide fill)
    (rows : ∀ fill ∈ fills, (result.consumptions.filter fun row => row.fillId = fill.fillId) =
      ledger.consumptions.filter fun row => row.fillId = fill.fillId) :
    heldAfter result fills = heldAfter ledger fills := by
  funext lotId
  have bought : ∀ fill ∈ fills, boughtInto result lotId fill = boughtInto ledger lotId fill := by
    intro fill mem
    rw [boughtInto, boughtInto, sides fill mem]
  have taken : ∀ fill ∈ fills, takenOut result lotId fill = takenOut ledger lotId fill := by
    intro fill mem
    rw [takenOut, takenOut, rows fill mem]
  rw [heldAfter, heldAfter, map_congr_left bought, map_congr_left taken]

section Lots

variable {lot : LotRow} {buy fill : FillRow}

theorem Booked.exists_buy (booked : Booked store ledger) (mem : lot ∈ ledger.lots) :
    ∃ buy ∈ ledger.fills, buy.fillId = lot.lotId ∧ ledger.fillSide buy = some .buy ∧
      buy.quantity = lot.originalQuantity ∧
      store.calendar.shanghaiDate buy.executedAt < lot.availableDate := by
  obtain ⟨buy, buyMem, _, _, belongs, acquired⟩ := booked.positions.lots lot mem
  obtain ⟨date, later, lotEq⟩ := acquired.lot_eq
  have lotId : lot.lotId = buy.fillId := congrArg LotRow.lotId lotEq
  have quantity : lot.originalQuantity = buy.quantity := congrArg LotRow.originalQuantity lotEq
  have available : lot.availableDate = date := congrArg LotRow.availableDate lotEq
  refine ⟨buy, buyMem, lotId.symm, ?_, quantity.symm, ?_⟩
  · rw [belongs.fillSide booked.identities, acquired.side]
  · rw [available]
    exact later

theorem replayKey_lt_of_available
    (bought : store.calendar.shanghaiDate buy.executedAt < lot.availableDate)
    (available : lot.availableDate ≤ store.calendar.shanghaiDate fill.executedAt) :
    replayKey buy < replayKey fill := by
  have executed : buy.executedAt < fill.executedAt := by
    by_contra later
    have dates := store.calendar.shanghaiDate_mono (not_lt.mp later)
    exact absurd (bought.trans_le available) (not_lt.mpr dates)
  exact replayKey_lt_of_times (Prod.Lex.toLex_lt_toLex.mpr (.inl executed))

/-- What a recorded consumption says: a SELL of the lot's position, replayed
after the BUY of the lot. -/
theorem Booked.consumption_facts (booked : Booked store ledger) (mem : row ∈ ledger.consumptions) :
    ∃ sell ∈ ledger.fills, sell.fillId = row.fillId ∧
      ∃ order intent, FillOf ledger sell order intent ∧ intent.payload.side = .sell ∧
        ∃ lot ∈ ledger.lots, lot.lotId = row.lotId ∧
          AvailableTo intent.payload.tsCode intent.payload.entrySignalId
            (store.calendar.shanghaiDate sell.executedAt) lot := by
  obtain ⟨sell, sellMem, order, intent, belongs, lot, lotMem,
    consumed⟩ := booked.positions.consumptions row mem
  exact ⟨sell, sellMem, consumed.fillId.symm, order, intent, belongs,
    consumed.side, lot, lotMem, consumed.lotId.symm, consumed.tsCode,
    consumed.entrySignalId, consumed.available⟩

theorem takenOut_eq_zero
    (unrecorded : ∀ row ∈ ledger.consumptions, row.fillId = fill.fillId → row.lotId ≠ lotId) :
    takenOut ledger lotId fill = 0 := by
  rw [takenOut, consumedFrom, filter_of_none, map_nil, sum_nil]
  intro row mem
  obtain ⟨rowMem, rowFill⟩ := mem_filter.mp mem
  exact unrecorded row rowMem (of_decide_eq_true rowFill)

/-- When the BUY of a lot and all its consumptions are among some fills, these
leave what the lot holds. -/
theorem Booked.heldAfter_eq (booked : Booked store ledger) (among : fills.Sublist ledger.fills)
    (lotMem : lot ∈ ledger.lots) (bought : lot.lotId ∈ fills.map (·.fillId))
    (consumed :
      ∀ row ∈ ledger.consumptions, row.lotId = lot.lotId → row.fillId ∈ fills.map (·.fillId)) :
    heldAfter ledger fills lot.lotId = lot.remainingQuantity := by
  have distinct : (fills.map (·.fillId)).Nodup := booked.positions.fillIds.sublist (among.map _)
  obtain ⟨buy, buyMem, buyId, side, quantity, -⟩ := booked.exists_buy lotMem
  obtain ⟨other, otherMem, otherId⟩ := mem_map.mp bought
  obtain rfl : other = buy :=
    eq_of_key_eq booked.positions.fillIds (among.subset otherMem) buyMem (otherId.trans buyId.symm)
  have boughtTerm : ∀ fill ∈ fills, boughtInto ledger lot.lotId fill =
      if other.fillId = fill.fillId then fill.quantity else 0 := by
    intro fill mem
    by_cases same : other.fillId = fill.fillId
    · obtain rfl : other = fill :=
        eq_of_key_eq booked.positions.fillIds buyMem (among.subset mem) same
      simp [boughtInto, side, buyId]
    · have different : fill.fillId ≠ lot.lotId := fun fillId => same (buyId.trans fillId.symm)
      simp [boughtInto, different, same]
  have boughtSum : (fills.map (boughtInto ledger lot.lotId)).sum = lot.originalQuantity := by
    rw [map_congr_left boughtTerm, sum_map_ite_key distinct otherMem fun fill => fill.quantity]
    exact quantity
  have takenTerm : ∀ fill ∈ fills, takenOut ledger lot.lotId fill =
      (((ledger.consumptions.filter fun row =>
        row.lotId = lot.lotId).filter fun row =>
          row.fillId = fill.fillId).map ConsumptionRow.quantity).sum := by
    intro fill _
    rw [takenOut, consumedFrom, filter_filter, filter_filter]
    simp only [Bool.and_comm]
  have takenSum :
      (fills.map (takenOut ledger lot.lotId)).sum = consumedFrom ledger.consumptions lot.lotId := by
    have covered : ∀ row ∈ ledger.consumptions.filter fun row => row.lotId = lot.lotId,
        row.fillId ∈ fills.map (·.fillId) := by
      intro row mem
      obtain ⟨rowMem, sameLot⟩ := mem_filter.mp mem
      exact consumed row rowMem (of_decide_eq_true sameLot)
    have grouped : ((fills.map (·.fillId)).map fun wanted =>
            (((ledger.consumptions.filter fun row =>
              row.lotId = lot.lotId).filter fun row =>
                row.fillId = wanted).map ConsumptionRow.quantity).sum).sum =
          consumedFrom ledger.consumptions lot.lotId :=
      sum_filter_key_eq distinct covered
    rw [map_map] at grouped
    rw [map_congr_left takenTerm]
    exact grouped
  rw [heldAfter, boughtSum, takenSum, ← booked.positions.remaining lot lotMem]
  omega

end Lots

/-! ## The invariant -/

/-- The recorded allocation of a SELL fill is the canonical one at its place in
the replay. -/
def CanonicalSell (store : PaperBrokerStore) (ledger : Ledger) (intent : PaperOrderIntent)
    (fill : FillRow) : Prop :=
  allocate fill.quantity
      (replayHoldings ledger.lots (heldAfter ledger (fillsBefore ledger fill))
        intent.tsCode intent.entrySignalId
        (store.calendar.shanghaiDate fill.executedAt)) =
    ((ledger.consumptions.filter fun row => row.fillId = fill.fillId).map
        fun row => (row.lotId, row.quantity),
      0)

structure Canonical (store : PaperBrokerStore) (ledger : Ledger) : Prop where
  booked : Booked store ledger
  sells : ∀ fill ∈ ledger.fills, ∀ order intent,
    FillOf ledger fill order intent → intent.payload.side = .sell →
      CanonicalSell store ledger intent.payload fill

theorem canonical_openLedger : Canonical store store.openLedger where
  booked := ⟨identities_openLedger, positions_openLedger⟩
  sells := by simp [openLedger]

theorem Booked.fillOf_earlier (booked : Booked store ledger) (resultBooked : Booked store result)
    (extended : Extends ledger result) (mem : fill ∈ ledger.fills)
    (belongs : FillOf result fill order intent) :
    ∃ earlier, FillOf ledger fill earlier intent := by
  obtain ⟨earlier, _, earlierBelongs, -⟩ := booked.positions.fills fill mem
  obtain ⟨_, -, keptBelongs⟩ := earlierBelongs.grows extended.intents extended.orders
  obtain ⟨-, rfl⟩ := keptBelongs.unique belongs resultBooked.identities
  exact ⟨earlier, earlierBelongs⟩

theorem Canonical.grows (canonical : Canonical store ledger) (resultBooked : Booked store result)
    (grows : Grows ledger result) :
    Canonical store result := by
  refine ⟨resultBooked, ?_⟩
  intro fill mem _ intent belongs sells
  rw [grows.fills] at mem
  obtain ⟨earlier, earlierBelongs⟩ :=
    canonical.booked.fillOf_earlier resultBooked grows.extends mem belongs
  have before : fillsBefore result fill = fillsBefore ledger fill := by
    rw [fillsBefore, grows.fills, ← fillsBefore]
  have held :
      heldAfter result (fillsBefore ledger fill) = heldAfter ledger (fillsBefore ledger fill) :=
    heldAfter_congr
      (fun other otherMem => canonical.booked.fillSide_extends resultBooked grows.extends
        (mem_filter.mp otherMem).1)
      fun _ _ => by rw [grows.consumptions]
  rw [CanonicalSell, before, held, grows.lots, grows.consumptions]
  exact canonical.sells fill mem earlier intent earlierBelongs sells

section FillStep

variable {ledger result before after : Ledger} {call : Call}
  {order : OrderRow} {intent : IntentRow} {fill : PaperFill}
  {costs : ExecutionCostCalculation} {tradeDate : Date}
  {availableDate : Option Date}
  (step : FillStep store ledger call result before after order intent fill costs tradeDate
    availableDate)

include step in
theorem FillStep.consumptions_eq : ∃ new, result.consumptions = ledger.consumptions ++ new ∧
    ∀ row ∈ new, row.fillId = fill.fillId := by
  rcases step.effect with ⟨_, effect⟩ | ⟨_, effect⟩
  · exact ⟨[], by rw [effect.consumptions, append_nil], by simp⟩
  · refine ⟨_, effect.consumptions, ?_⟩
    intro row mem
    obtain ⟨_, -, rfl⟩ := mem_map.mp mem
    rfl

variable {other : FillRow} {fills : List FillRow} {lot : LotRow} {otherIntent : PaperOrderIntent}

section

include step

theorem FillStep.consumptions_of_earlier (mem : other ∈ ledger.fills) :
    (result.consumptions.filter fun row => row.fillId = other.fillId) =
      ledger.consumptions.filter fun row => row.fillId = other.fillId := by
  obtain ⟨new, consumptions, newFill⟩ := step.consumptions_eq
  rw [consumptions, filter_append_of_none]
  intro row rowMem same
  apply step.fresh
  rw [← newFill row rowMem, same]
  exact fillId_mem mem

theorem FillStep.heldAfter_eq (booked : Booked store ledger) (resultBooked : Booked store result)
    (earlier : ∀ other ∈ fills, other ∈ ledger.fills) :
    heldAfter result fills = heldAfter ledger fills :=
  heldAfter_congr
    (fun other mem =>
      booked.fillSide_extends resultBooked step.extends (earlier other mem))
    fun other mem => step.consumptions_of_earlier (earlier other mem)

theorem FillStep.fillsBefore_eq (other : FillRow) : fillsBefore result other =
    fillsBefore ledger other ++
      if replayKey (recordedFill fill call.persistedAt) < replayKey other then
        [recordedFill fill call.persistedAt]
      else [] := by
  rw [fillsBefore, step.fills_eq, filter_append, ← fillsBefore]
  congr 1
  simp only [filter_cons, filter_nil, decide_eq_true_eq]

theorem FillStep.lots_acquired :
    (result.lots.map LotRow.acquired = ledger.lots.map LotRow.acquired ∨
      intent.payload.side = .buy ∧ ∃ lot : LotRow,
        lot.lotId = fill.fillId ∧ (lot.tsCode, some lot.entrySignalId) = positionOf intent.payload ∧
          result.lots.map LotRow.acquired = ledger.lots.map LotRow.acquired ++ [lot]) := by
  rcases step.effect with ⟨date, effect⟩ | ⟨_, effect⟩
  · refine .inr ⟨effect.side,
      store.acquiredLot intent.payload fill tradeDate date call.persistedAt, rfl, ?_, ?_⟩
    · rw [positionOf, effect.side]
      rfl
    · rw [effect.lots, map_append]
      rfl
  · left
    rw [effect.lots, consumeLots_map_acquired]

end

section

include step

/-- The new fill does not touch available lots of another position. -/
theorem FillStep.untouched (booked : Booked store ledger) (resultBooked : Booked store result)
    (sells : otherIntent.side = .sell) (apart : positionOf intent.payload ≠ positionOf otherIntent)
    (mem : lot ∈ ledger.lots.map LotRow.acquired)
    (available : AvailableTo otherIntent.tsCode otherIntent.entrySignalId otherDate lot) :
    boughtInto result lot.lotId (recordedFill fill call.persistedAt) = 0 ∧
      takenOut result lot.lotId (recordedFill fill call.persistedAt) = 0 := by
  constructor
  · have different : fill.fillId ≠ lot.lotId := by
      intro same
      obtain ⟨kept, keptMem, rfl⟩ := mem_map.mp mem
      obtain ⟨buy, buyMem, buyId, -⟩ := booked.exists_buy keptMem
      apply step.fresh
      have sameId : fill.fillId = buy.fillId := same.trans buyId.symm
      rw [sameId]
      exact fillId_mem buyMem
    exact if_neg fun bought => different bought.2
  · apply takenOut_eq_zero
    intro row rowMem rowFill sameLot
    obtain ⟨sell, sellMem, sellId, kept, _, belongs, ownerSells, taken,
      takenMem, takenId, takenAvailable⟩ :=
      resultBooked.consumption_facts rowMem
    have newMem : recordedFill fill call.persistedAt ∈ result.fills := by
      rw [step.fills_eq]
      exact mem_concat_self
    obtain rfl : sell = recordedFill fill call.persistedAt :=
      eq_of_key_eq resultBooked.positions.fillIds sellMem newMem (sellId.trans rowFill)
    obtain ⟨_, newBelongs⟩ := step.fillOf_new
    obtain ⟨-, rfl⟩ := newBelongs.unique belongs resultBooked.identities
    have lotKept : lot ∈ result.lots.map LotRow.acquired := by
      rcases step.lots_acquired with same | ⟨-, _, -, -, appended⟩
      · rwa [same]
      · rw [appended]
        exact mem_append_left _ mem
    have sameLots : taken.acquired = lot := by
      obtain ⟨kept, keptMem, rfl⟩ := mem_map.mp lotKept
      rw [eq_of_key_eq resultBooked.positions.lotIds takenMem keptMem (takenId.trans sameLot)]
    have tsCode : taken.tsCode = lot.tsCode := by
      rw [← sameLots]
      rfl
    have entry : taken.entrySignalId = lot.entrySignalId := by
      rw [← sameLots]
      rfl
    apply apart
    rw [positionOf, positionOf, ownerSells, sells, Prod.mk.injEq,
      ← takenAvailable.1, ← takenAvailable.2.1, ← available.1, ← available.2.1, tsCode, entry]
    exact ⟨rfl, rfl⟩

theorem FillStep.heldAfter_new (earlier : ∀ other ∈ fills, other ∈ ledger.fills) :
    heldAfter ledger fills fill.fillId = 0 := by
  have unbought : ∀ other ∈ fills, boughtInto ledger fill.fillId other = 0 := by
    intro other mem
    refine if_neg fun bought => step.fresh ?_
    rw [← bought.2]
    exact fillId_mem (earlier other mem)
  rw [heldAfter, map_congr_left unbought]
  simp

theorem FillStep.canonicalSell_kept
    (booked : Booked store ledger) (resultBooked : Booked store result) (mem : other ∈ ledger.fills)
    (sells : otherIntent.side = .sell)
    (ordered : positionOf intent.payload = positionOf otherIntent →
      replayKey other < replayKey (recordedFill fill call.persistedAt))
    (canonical : CanonicalSell store ledger otherIntent other) :
    CanonicalSell store result otherIntent other := by
  have earlier : ∀ row ∈ fillsBefore ledger other, row ∈ ledger.fills :=
    fun row rowMem => (mem_filter.mp rowMem).1
  have keptHeld := step.heldAfter_eq booked resultBooked earlier
  unfold CanonicalSell at canonical ⊢
  rw [step.consumptions_of_earlier mem, ← canonical]
  congr 1
  rw [← replayHoldings_acquired, step.fillsBefore_eq]
  conv_rhs => rw [← replayHoldings_acquired]
  by_cases inserted : replayKey (recordedFill fill call.persistedAt) < replayKey other
  · -- The new fill is replayed earlier, so it is of another position.
    have apart : positionOf intent.payload ≠ positionOf otherIntent :=
      fun same => lt_asymm inserted (ordered same)
    rw [if_pos inserted]
    have agree : ∀ lot ∈ ledger.lots.map LotRow.acquired,
        AvailableTo otherIntent.tsCode otherIntent.entrySignalId
            (store.calendar.shanghaiDate other.executedAt) lot →
          heldAfter result
              (fillsBefore ledger other ++ [recordedFill fill call.persistedAt]) lot.lotId =
            heldAfter ledger (fillsBefore ledger other) lot.lotId := by
      intro lot lotMem available
      obtain ⟨unbought, untaken⟩ := step.untouched booked resultBooked sells apart lotMem available
      rw [← keptHeld]
      simp [heldAfter, unbought, untaken]
    rcases step.lots_acquired with same | ⟨-, lot, -, position, appended⟩
    · rw [same]
      exact replayHoldings_congr agree
    · rw [appended, replayHoldings_append_unheld]
      · exact replayHoldings_congr agree
      · intro available
        refine absurd ?_ apart
        rw [← position, positionOf, sells, available.1, available.2.1]
  · rw [if_neg inserted, append_nil, keptHeld]
    rcases step.lots_acquired with same | ⟨-, lot, lotId, -, appended⟩
    · rw [same]
    · rw [appended, replayHoldings_append_unheld]
      intro _
      rw [lotId]
      exact step.heldAfter_new earlier

theorem FillStep.buyProvenance (booked : Booked store ledger) (mem : lot ∈ ledger.lots) :
    (withFill before fill call.persistedAt).BuyProvenance lot := by
  obtain ⟨buy, buyMem, buyOrder, buyIntent, belongs, acquired⟩ := booked.positions.lots lot mem
  obtain ⟨_, -, lotEq⟩ := acquired.lot_eq
  have columns := belongs.columns booked.identities
  have intentColumns := booked.identities.intents _ belongs.intent_mem
  obtain ⟨kept, sameIdentity, keptBelongs⟩ := belongs.grows step.grows.intents step.grows.orders
  have keptSide : kept.side = buyOrder.side := congrArg OrderIdentity.side sameIdentity
  have orderSide : buyOrder.side = buyIntent.payload.side := columns.side
  have lotId : lot.lotId = buy.fillId := congrArg LotRow.lotId lotEq
  have entry : lot.entrySignalId = buyIntent.payload.signalId := congrArg LotRow.entrySignalId lotEq
  have account : lot.accountId = store.accountId := congrArg LotRow.accountId lotEq
  have tsCode : lot.tsCode = buyIntent.payload.tsCode := congrArg LotRow.tsCode lotEq
  refine ⟨buy, ?_, lotId.symm, kept, keptBelongs.order_mem,
    keptBelongs.order_id, ?_, buyIntent, keptBelongs.intent_mem,
    keptBelongs.intent_id, ?_, ?_, ?_, ?_⟩
  · rw [withFill, step.grows.fills]
    exact mem_append_left _ buyMem
  · rw [keptSide, orderSide, acquired.side]
  · rw [intentColumns.signalId, entry]
  · rw [intentColumns.accountId, account]
  · rw [intentColumns.tsCode, tsCode]
  · rw [intentColumns.side, acquired.side]

end

/-- The available lots of a position hold in the replay what the writer found in
them, when all SELL fills of the position are replayed earlier. -/
theorem Booked.heldAfter_available (booked : Booked store ledger) (sells : newIntent.side = .sell)
    (ordered : ∀ other ∈ ledger.fills, ∀ owner otherIntent,
      FillOf ledger other owner otherIntent → otherIntent.payload.side = .sell →
        positionOf newIntent = positionOf otherIntent.payload → replayKey other < replayKey new)
    (mem : lot ∈ ledger.lots)
    (available : AvailableTo newIntent.tsCode newIntent.entrySignalId
      (store.calendar.shanghaiDate new.executedAt) lot) :
    heldAfter ledger (fillsBefore ledger new) lot.lotId = lot.remainingQuantity := by
  have mem_before : ∀ {other : FillRow}, other ∈ ledger.fills →
      replayKey other < replayKey new → other.fillId ∈ (fillsBefore ledger new).map (·.fillId) := by
    intro other otherMem earlier
    exact fillId_mem (mem_filter.mpr ⟨otherMem, decide_eq_true earlier⟩)
  refine booked.heldAfter_eq filter_sublist mem ?_ ?_
  · obtain ⟨_, buyMem, buyId, -, -, bought⟩ := booked.exists_buy mem
    rw [← buyId]
    exact mem_before buyMem (replayKey_lt_of_available bought available.2.2)
  · intro row rowMem sameLot
    obtain ⟨sell, sellMem, sellId, owner, otherIntent, belongs, otherSells,
      taken, takenMem, takenId, takenAvailable⟩ :=
      booked.consumption_facts rowMem
    obtain rfl : taken = lot :=
      eq_of_key_eq booked.positions.lotIds takenMem mem (takenId.trans sameLot)
    rw [← sellId]
    refine mem_before sellMem (ordered sell sellMem owner otherIntent belongs otherSells ?_)
    rw [positionOf, positionOf, sells, otherSells, Prod.mk.injEq]
    exact ⟨available.1.symm.trans takenAvailable.1, available.2.1.symm.trans takenAvailable.2.1⟩

section

include step

/-- The replay gives the newest SELL the lots that the ledger recorded for it. -/
theorem FillStep.canonicalSell_new
    (booked : Booked store ledger) (resultBooked : Booked store result)
    (sells : intent.payload.side = .sell)
    (ordered : ∀ other ∈ ledger.fills, ∀ owner otherIntent,
      FillOf ledger other owner otherIntent → otherIntent.payload.side = .sell →
        positionOf intent.payload = positionOf otherIntent.payload →
          replayKey other < replayKey (recordedFill fill call.persistedAt)) :
    CanonicalSell store result intent.payload (recordedFill fill call.persistedAt) := by
  rcases step.effect with ⟨_, effect⟩ | ⟨_, effect⟩
  · rw [effect.side] at sells
    cases sells
  have beforeEq : fillsBefore result (recordedFill fill call.persistedAt) =
      fillsBefore ledger (recordedFill fill call.persistedAt) := by
    rw [step.fillsBefore_eq, if_neg (lt_irrefl _), append_nil]
  have heldEq : heldAfter result (fillsBefore ledger (recordedFill fill call.persistedAt)) =
      heldAfter ledger (fillsBefore ledger (recordedFill fill call.persistedAt)) :=
    step.heldAfter_eq booked resultBooked fun _ mem => (mem_filter.mp mem).1
  have held : ∀ lot ∈ ledger.lots,
      AvailableTo intent.payload.tsCode intent.payload.entrySignalId tradeDate lot →
        heldAfter ledger (fillsBefore ledger (recordedFill fill call.persistedAt)) lot.lotId =
          lot.remainingQuantity := by
    intro lot mem available
    rw [step.context.tradeDate_eq] at available
    exact booked.heldAfter_available sells ordered mem available
  have eligible : replayEligible ledger.lots
        (heldAfter ledger (fillsBefore ledger (recordedFill fill call.persistedAt)))
        intent.payload.tsCode intent.payload.entrySignalId tradeDate =
      store.eligibleLots (withFill before fill call.persistedAt)
        intent.payload.tsCode intent.payload.entrySignalId tradeDate := by
    unfold replayEligible eligibleLots positionLots
    rw [filter_filter, effect.beforeLots]
    congr 1
    apply filter_congr
    intro lot mem
    rw [Bool.eq_iff_iff]
    simp only [Bool.and_eq_true, decide_eq_true_eq]
    have account := booked.lot_account mem
    have provenance := step.buyProvenance booked mem
    constructor
    · rintro ⟨holds, tsCode, entry, available⟩
      rw [held lot mem ⟨tsCode, entry, available⟩] at holds
      exact ⟨⟨holds, available⟩, account, tsCode, entry, provenance⟩
    · rintro ⟨⟨holds, available⟩, -, tsCode, entry, -⟩
      rw [← held lot mem ⟨tsCode, entry, available⟩] at holds
      exact ⟨holds, tsCode, entry, available⟩
  have holdings : replayHoldings ledger.lots
        (heldAfter ledger (fillsBefore ledger (recordedFill fill call.persistedAt)))
        intent.payload.tsCode intent.payload.entrySignalId tradeDate =
      ((store.eligibleLots (withFill before fill call.persistedAt)
        intent.payload.tsCode intent.payload.entrySignalId tradeDate).map
          fun lot => (lot, lot.remainingQuantity)).map
        fun holding => (holding.1.lotId, holding.2) := by
    rw [replayHoldings, eligible, map_map]
    apply map_congr_left
    intro lot mem
    rw [← eligible] at mem
    obtain ⟨lotMem, -, available⟩ := mem_replayEligible.mp mem
    simp only [Function.comp_apply, held lot lotMem available]
  have recorded := effect.consumptions_new booked.positions step.fresh
  have allocated := effect.allocated
  unfold sellAllocation at allocated
  unfold CanonicalSell
  rw [beforeEq, heldEq, ← replayHoldings_acquired, effect.lots,
    consumeLots_map_acquired, replayHoldings_acquired,
    recordedFill_tradeDate step.context, holdings, allocate_map (fun lot : LotRow => lot.lotId)]
  change (((allocate fill.quantity _).1.map _, (allocate fill.quantity _).2) :
    List (Digest × ℕ) × ℕ) = (((result.consumptions.filter fun row =>
      row.fillId = fill.fillId).map _), 0)
  rw [recorded, allocated, consumptionRows, map_map]
  rfl

/-- A fill is replayed after every SELL fill of its position that was made
before it. -/
theorem FillStep.replay_ordered (booked : Booked store ledger)
    (changed : Change store ledger call result) (inOrder : InReplayOrder store ledger call)
    (mem : other ∈ ledger.fills) {owner : OrderRow} {otherIntent : IntentRow}
    (belongs : FillOf ledger other owner otherIntent) (sells : otherIntent.payload.side = .sell)
    (position : positionOf intent.payload = positionOf otherIntent.payload) :
    replayKey other < replayKey (recordedFill fill call.persistedAt) := by
  by_cases sameOrder : call.openOrderId = some other.orderId
  · -- Within one order `apply_execution` keeps times and numbers in order.
    cases call with
    | submit request => cases sameOrder
    | close request => cases sameOrder
    | apply request =>
      have orderId : request.orderId = other.orderId := Option.some.inj sameOrder
      have fillsEq := step.fills_eq
      cases changed with
      | unchanged =>
        have lengths := congrArg length fillsEq
        simp at lengths
      | @executed _ priced row owner sequence averagePrice filled _ facts =>
        rw [facts.fills_eq, append_cancel_left_eq, cons.injEq] at fillsEq
        rw [← fillsEq.1]
        obtain ⟨_, _, walked, executedLater, persistedLater⟩ := facts.executable.timeline
        obtain ⟨-, later⟩ := incrementalFillTimeline_next walked executedLater persistedLater
        have rowId : row.orderId = request.orderId := (mem_of_orderRow facts.rowFound).2.2
        obtain ⟨executed, persisted, numbered⟩ :=
          later other (mem_filter.mpr ⟨mem, decide_eq_true (orderId.symm.trans rowId.symm)⟩)
        unfold replayKey
        rw [Prod.Lex.toLex_lt_toLex]
        rcases executed.lt_or_eq with executed | sameExecuted
        · exact .inl executed
        refine .inr ⟨sameExecuted, Prod.Lex.toLex_lt_toLex.mpr ?_⟩
        rcases persisted.lt_or_eq with persisted | samePersisted
        · exact .inl persisted
        · exact .inr ⟨samePersisted, Prod.Lex.toLex_lt_toLex.mpr (.inl numbered)⟩
  · obtain ⟨item, itemMem, rfl⟩ := booked.exists_auditFill mem
    obtain ⟨-, sameIntent⟩ := belongs.unique (fillOf_of_mem_auditFills itemMem) booked.identities
    rw [sameIntent] at sells position
    have times := inOrder _ step.pricing_eq item itemMem sells position.symm sameOrder
    rw [← step.executedAt_eq] at times
    exact replayKey_lt_of_times times

end

end FillStep

theorem Canonical.change {call : Call} (canonical : Canonical store ledger)
    (inOrder : InReplayOrder store ledger call) (changed : Change store ledger call result) :
    Canonical store result := by
  have booked := canonical.booked
  have resultBooked := booked.change changed
  rcases changed.grows_or_fills booked.identities with
    grows | ⟨_, _, _, _, _, _, _, _, step⟩
  · exact canonical.grows resultBooked grows
  refine ⟨resultBooked, ?_⟩
  intro row mem _ rowIntent belongs sells
  rw [step.fills_eq, mem_concat] at mem
  rcases mem with old | rfl
  · obtain ⟨earlier, earlierBelongs⟩ := booked.fillOf_earlier resultBooked step.extends old belongs
    exact step.canonicalSell_kept booked resultBooked old sells
      (fun position => step.replay_ordered booked changed inOrder old earlierBelongs sells position)
      (canonical.sells row old earlier rowIntent earlierBelongs sells)
  · obtain ⟨_, newBelongs⟩ := step.fillOf_new
    obtain ⟨-, rfl⟩ := newBelongs.unique belongs resultBooked.identities
    exact step.canonicalSell_new booked resultBooked sells
      fun other otherMem _ _ otherBelongs otherSells position =>
        step.replay_ordered booked changed inOrder otherMem otherBelongs otherSells position

theorem canonical_of_reachableBy (reachable : store.ReachableBy (InReplayOrder store) ledger) :
    Canonical store ledger :=
  reachable.invariant canonical_openLedger
    fun canonical inOrder succeeds => canonical.change inOrder succeeds.change

/-! ## Replaying one fill -/

section Replay

theorem Booked.accountLots_eq (booked : Booked store ledger) :
    store.accountLots ledger = ledger.lots := by
  rw [accountLots, filter_eq_self]
  intro _ mem
  exact decide_eq_true (booked.lot_account mem)

theorem Booked.replayBuy_eq_ok (booked : Booked store ledger) (mem : item ∈ store.auditFills ledger)
    (buys : item.intent.payload.side = .buy) (lotRemaining : Digest → ℕ) :
    store.replayBuy ledger lotRemaining item =
      .ok (Function.update lotRemaining item.row.fillId item.row.quantity) := by
  obtain ⟨columns, -⟩ := booked.auditFill_facts mem
  obtain ⟨lot, found, acquired⟩ := booked.lot_of_buy mem buys
  obtain ⟨_, later, lotEq⟩ := acquired.lot_eq
  have tsCode : lot.tsCode = item.order.tsCode :=
    (congrArg LotRow.tsCode lotEq).trans columns.tsCode.symm
  have available : store.calendar.shanghaiDate item.row.executedAt < lot.availableDate :=
    later.trans_eq (congrArg LotRow.availableDate lotEq).symm
  simp only [replayBuy, booked.accountLots_eq, found, orRaise, ok_bind]
  rw [require_of]
  · rfl
  · exact ⟨tsCode, congrArg LotRow.entrySignalId lotEq,
      congrArg LotRow.originalQuantity lotEq, congrArg LotRow.unitCost lotEq,
      congrArg LotRow.persistedAt lotEq, congrArg LotRow.buyExecutedAt lotEq,
      congrArg LotRow.buyPersistedAt lotEq, congrArg LotRow.buyFillSequence lotEq,
      congrArg LotRow.acquisitionTradeDate lotEq, available⟩

/-- The allocations an audit compares are the recorded consumptions, in their order. -/
theorem Canonical.actualAllocations_eq (canonical : Canonical store ledger)
    (mem : item ∈ store.auditFills ledger) (sells : item.intent.payload.side = .sell) :
    actualAllocations ledger item.row.fillId =
      (ledger.consumptions.filter fun row => row.fillId = item.row.fillId).map
        fun row => (row.lotId, row.quantity) := by
  have positions := canonical.booked.positions
  have allocated := canonical.sells item.row (mem_auditFills.mp mem).1 item.order
    item.intent (fillOf_of_mem_auditFills mem) sells
  generalize eligibleEq :
    replayEligible ledger.lots (heldAfter ledger (fillsBefore ledger item.row))
        item.intent.payload.tsCode item.intent.payload.entrySignalId
        (store.calendar.shanghaiDate item.row.executedAt) = eligible
  generalize rowsEq : (ledger.consumptions.filter fun row => row.fillId = item.row.fillId) = rows
  have lookup : ∀ lot ∈ ledger.lots, findKey LotRow.lotId lot.lotId ledger.lots = some lot :=
    fun lot lotMem => findKey_of_mem positions.lotIds lotMem
  have keys : (rows.map ConsumptionRow.lotId).Sublist (eligible.map LotRow.lotId) := by
    have sublist := allocate_keys_sublist item.row.quantity
      (replayHoldings ledger.lots (heldAfter ledger (fillsBefore ledger item.row))
        item.intent.payload.tsCode item.intent.payload.entrySignalId
        (store.calendar.shanghaiDate item.row.executedAt))
    rw [allocated, replayHoldings, eligibleEq, rowsEq, map_map, map_map] at sublist
    exact sublist
  -- Both lists of lots are the lots found under their ids.
  have lots : ((fillAllocations ledger item.row.fillId).map Prod.snd).Sublist
      eligible := by
    have found := keys.filterMap fun lotId => findKey LotRow.lotId lotId ledger.lots
    have eligibleFound : (eligible.filterMap fun lot =>
          findKey LotRow.lotId lot.lotId ledger.lots).map id = eligible := by
      apply map_filterMap_of_found
      intro lot lotMem
      rw [← eligibleEq] at lotMem
      exact ⟨lot, lookup lot (mem_replayEligible.mp lotMem).1, rfl⟩
    rw [map_id] at eligibleFound
    rw [filterMap_map, filterMap_map] at found
    have joined : (fillAllocations ledger item.row.fillId).map Prod.snd =
        rows.filterMap fun row => findKey LotRow.lotId row.lotId ledger.lots := by
      rw [fillAllocations, rowsEq, map_filterMap]
      apply filterMap_congr
      intro row _
      cases findKey LotRow.lotId row.lotId ledger.lots <;> simp
    have sublist : (rows.filterMap fun row => findKey LotRow.lotId row.lotId ledger.lots).Sublist
        (eligible.filterMap fun lot => findKey LotRow.lotId lot.lotId ledger.lots) := found
    rwa [eligibleFound, ← joined] at sublist
  have sorted : (fillAllocations ledger item.row.fillId).Pairwise fun left right =>
        lotFifoKey left.2 ≤ lotFifoKey right.2 := by
    have eligibleSorted :
        eligible.Pairwise fun left right => lotFifoKey left ≤ lotFifoKey right := by
      rw [← eligibleEq]
      exact pairwise_sortOn _
    have lotsSorted := eligibleSorted.sublist lots
    rwa [pairwise_map] at lotsSorted
  rw [actualAllocations, sortOn_eq_self sorted, ← rowsEq, ← positions.fillAllocations_fst, map_map]
  rfl

theorem consumeRemaining_apply (lotRemaining : Digest → ℕ) (rows : List ConsumptionRow)
    (lotId : Digest) :
    consumeRemaining lotRemaining rows lotId = lotRemaining lotId - consumedFrom rows lotId := by
  induction rows generalizing lotRemaining with
  | nil => rfl
  | cons head tail ih =>
    have unfolded : consumeRemaining lotRemaining (head :: tail) =
        consumeRemaining
          (Function.update lotRemaining head.lotId
            (lotRemaining head.lotId - head.quantity)) tail := rfl
    rw [unfolded, ih]
    by_cases same : head.lotId = lotId
    · subst same
      simp [consumedFrom, Nat.sub_sub]
    · have different : lotId ≠ head.lotId := fun sameId => same sameId.symm
      simp [consumedFrom, same, Function.update_of_ne different]

/-- The canonical allocation passes and is taken from what the lots hold. -/
theorem Canonical.replaySell_eq_ok (canonical : Canonical store ledger)
    (mem : item ∈ store.auditFills ledger) (sells : item.intent.payload.side = .sell) :
    store.replaySell ledger (heldAfter ledger (fillsBefore ledger item.row)) item =
      .ok
        (consumeRemaining (heldAfter ledger (fillsBefore ledger item.row))
          (ledger.consumptions.filter fun row => row.fillId = item.row.fillId)) := by
  have booked := canonical.booked
  obtain ⟨columns, facts⟩ := booked.auditFill_facts mem
  have tsCode : item.order.tsCode = item.intent.payload.tsCode := columns.tsCode
  have entry : item.order.entrySignalId = item.intent.payload.entrySignalId := columns.entrySignalId
  have allocated := canonical.sells item.row (mem_auditFills.mp mem).1 item.order
    item.intent (fillOf_of_mem_auditFills mem) sells
  have quantity := facts.sells sells
  have expected :
      expectedAllocations (heldAfter ledger (fillsBefore ledger item.row)) item.row.quantity
          (replayEligible ledger.lots (heldAfter ledger (fillsBefore ledger item.row))
            item.order.tsCode item.order.entrySignalId
            (store.calendar.shanghaiDate item.row.executedAt)) =
        ((ledger.consumptions.filter fun row => row.fillId = item.row.fillId).map
          fun row => (row.lotId, row.quantity), 0) := by
    rw [tsCode, entry]
    exact allocated
  have known : ∀ row ∈ ledger.consumptions.filter fun row => row.fillId = item.row.fillId,
      (findKey LotRow.lotId row.lotId ledger.lots).isSome := by
    intro row rowMem
    obtain ⟨_, _, _, _, _, _, _, _, lotMem, lotId, -⟩ :=
      booked.consumption_facts (mem_filter.mp rowMem).1
    rw [← lotId, findKey_of_mem booked.positions.lotIds lotMem]
    rfl
  have provenance : ∀ allocation ∈ fillAllocations ledger item.row.fillId,
      allocation.2.accountId = store.accountId ∧ allocation.2.tsCode = item.order.tsCode ∧
        some allocation.2.entrySignalId = item.order.entrySignalId ∧
        allocation.1.unitCost = allocation.2.unitCost ∧
        allocation.1.persistedAt = item.row.persistedAt := by
    intro allocation recorded
    obtain ⟨lotMem, consumed⟩ := booked.consumed_of_mem mem recorded
    rw [tsCode, entry]
    exact ⟨booked.lot_account lotMem, consumed.tsCode,
      consumed.entrySignalId, consumed.unitCost, consumed.persistedAt⟩
  simp only [run_eq_ok, replaySell, booked.accountLots_eq, expected,
    canonical.actualAllocations_eq mem sells]
  exact ⟨quantity, known, ⟨trivial, trivial⟩, provenance, trivial⟩

section

variable (booked : Booked store ledger)

include booked

theorem Booked.replayFills_perm :
    ((store.replayFills ledger).map AuditFill.row).Perm ledger.fills :=
  ((perm_sortOn _).map AuditFill.row).trans booked.auditFills_perm

theorem Booked.replayFills_sorted :
    ((store.replayFills ledger).map AuditFill.row).Pairwise fun left right =>
      replayKey left < replayKey right := by
  have distinct : ((store.replayFills ledger).map AuditFill.row).Pairwise
      fun left right => left.fillId ≠ right.fillId := by
    have ids : (((store.replayFills ledger).map AuditFill.row).map (·.fillId)).Nodup :=
      (booked.replayFills_perm.map _).nodup_iff.mpr booked.positions.fillIds
    exact pairwise_map.mp ids
  have ordered : ((store.replayFills ledger).map AuditFill.row).Pairwise
      fun left right => replayKey left ≤ replayKey right :=
    pairwise_map.mpr (pairwise_sortOn _)
  exact (ordered.and distinct).imp fun ⟨le, different⟩ =>
    lt_of_le_of_ne le fun same => different (fillId_of_replayKey_eq same)

theorem Booked.replayed_perm (split : store.replayFills ledger = done ++ item :: rest) :
    (done.map AuditFill.row).Perm (fillsBefore ledger item.row) := by
  have sorted := booked.replayFills_sorted
  have perm :=
    booked.replayFills_perm.filter fun other => decide (replayKey other < replayKey item.row)
  rw [split, map_append, map_cons] at sorted perm
  obtain ⟨-, later, earlier⟩ := pairwise_append.mp sorted
  rw [pairwise_cons] at later
  have doneBefore :
      (done.map AuditFill.row).filter (fun other => decide (replayKey other < replayKey item.row)) =
        done.map AuditFill.row := by
    rw [filter_eq_self]
    intro other mem
    exact decide_eq_true (earlier other mem item.row (by simp))
  have notBefore : ∀ other ∈ item.row :: rest.map AuditFill.row,
      ¬ replayKey other < replayKey item.row := by
    intro other mem before
    rcases mem_cons.mp mem with rfl | restMem
    · exact lt_irrefl _ before
    · exact lt_asymm (later.1 other restMem) before
  rwa [filter_append_of_none notBefore, doneBefore] at perm

/-- Replaying a BUY adds its lot to what is held. -/
theorem Booked.heldAfter_buy (mem : item ∈ store.auditFills ledger)
    (buys : item.intent.payload.side = .buy) :
    Function.update (heldAfter ledger (fillsBefore ledger item.row))
        item.row.fillId item.row.quantity =
      heldAfter ledger (fillsBefore ledger item.row ++ [item.row]) := by
  have fillMem := (mem_auditFills.mp mem).1
  have belongs := fillOf_of_mem_auditFills mem
  have side : ledger.fillSide item.row = some .buy := by
    rw [belongs.fillSide booked.identities, buys]
  funext lotId
  have untaken : takenOut ledger lotId item.row = 0 := by
    apply takenOut_eq_zero
    intro _ rowMem rowFill _
    obtain ⟨sell, sellMem, sellId, _, _, sold, sells, -⟩ := booked.consumption_facts rowMem
    obtain rfl : sell = item.row :=
      eq_of_key_eq booked.positions.fillIds sellMem fillMem (sellId.trans rowFill)
    rw [sold.fillSide booked.identities, sells] at side
    cases side
  by_cases same : lotId = item.row.fillId
  · subst same
    have unbought :
        ∀ other ∈ fillsBefore ledger item.row, boughtInto ledger item.row.fillId other = 0 := by
      intro other otherMem
      obtain ⟨otherFill, earlier⟩ := mem_filter.mp otherMem
      refine if_neg fun bought => ?_
      obtain rfl : other = item.row :=
        eq_of_key_eq booked.positions.fillIds otherFill fillMem bought.2
      exact lt_irrefl _ (of_decide_eq_true earlier)
    have unsold :
        ∀ other ∈ fillsBefore ledger item.row, takenOut ledger item.row.fillId other = 0 := by
      intro other otherMem
      obtain ⟨otherFill, earlier⟩ := mem_filter.mp otherMem
      apply takenOut_eq_zero
      intro row rowMem rowFill rowLot
      obtain ⟨sell, sellMem, sellId, _, _, _, _, _, lotMem, lotId,
        available⟩ := booked.consumption_facts rowMem
      obtain rfl : sell = other :=
        eq_of_key_eq booked.positions.fillIds sellMem otherFill (sellId.trans rowFill)
      obtain ⟨buy, buyMem, buyId, -, -, bought⟩ := booked.exists_buy lotMem
      obtain rfl : buy = item.row :=
        eq_of_key_eq booked.positions.fillIds buyMem fillMem (buyId.trans (lotId.trans rowLot))
      exact lt_asymm (of_decide_eq_true earlier) (replayKey_lt_of_available bought available.2.2)
    rw [Function.update_self, heldAfter, map_append, map_append,
      sum_append, sum_append, map_congr_left unbought, map_congr_left unsold]
    simp [boughtInto, side, untaken]
  · have different : item.row.fillId ≠ lotId := fun sameId => same sameId.symm
    rw [Function.update_of_ne same]
    simp [heldAfter, boughtInto, different, untaken]

end

section

variable (canonical : Canonical store ledger)

include canonical

theorem Canonical.replayFill_eq_ok (mem : item ∈ store.auditFills ledger) :
    store.replayFill ledger (heldAfter ledger (fillsBefore ledger item.row)) item =
      .ok (heldAfter ledger (fillsBefore ledger item.row ++ [item.row])) := by
  have booked := canonical.booked
  obtain ⟨columns, -⟩ := booked.auditFill_facts mem
  have side : item.order.side = item.intent.payload.side := columns.side
  rw [replayFill, side]
  cases payloadSide : item.intent.payload.side with
  | buy =>
    rw [← booked.heldAfter_buy mem payloadSide]
    exact booked.replayBuy_eq_ok mem payloadSide _
  | sell =>
    have sold : ledger.fillSide item.row = some .sell := by
      rw [(fillOf_of_mem_auditFills mem).fillSide booked.identities, payloadSide]
    refine (canonical.replaySell_eq_ok mem payloadSide).trans (congrArg _ (funext fun lotId => ?_))
    rw [consumeRemaining_apply]
    simp [heldAfter, boughtInto, sold, takenOut, Nat.sub_sub]

theorem Canonical.foldlM_replayFill (split : store.replayFills ledger = done ++ rest) :
    rest.foldlM (store.replayFill ledger) (heldAfter ledger (done.map AuditFill.row)) =
      .ok (heldAfter ledger ((store.replayFills ledger).map AuditFill.row)) := by
  induction rest generalizing done with
  | nil =>
    rw [split, append_nil]
    rfl
  | cons item rest ih =>
    have mem : item ∈ store.auditFills ledger := by
      have replayed : item ∈ store.replayFills ledger := by
        rw [split]
        simp
      exact mem_sortOn.mp replayed
    have perm := canonical.booked.replayed_perm split
    have next : heldAfter ledger (fillsBefore ledger item.row ++ [item.row]) =
        heldAfter ledger ((done ++ [item]).map AuditFill.row) := by
      rw [map_append]
      exact heldAfter_perm (perm.symm.append_right _)
    rw [foldlM_cons, heldAfter_perm perm, canonical.replayFill_eq_ok mem, ok_bind, next]
    exact ih (by simp [split])

theorem Canonical.replayFifo_eq_ok : store.replayFifo ledger = .ok () := by
  have booked := canonical.booked
  have replayed := canonical.foldlM_replayFill
    (show store.replayFills ledger = [] ++ store.replayFills ledger from rfl)
  have start : heldAfter ledger (([] : List AuditFill).map AuditFill.row) = fun _ => 0 := rfl
  rw [start] at replayed
  rw [replayFifo, replayed, ok_bind, booked.accountLots_eq]
  apply require_of
  intro _ mem
  rw [heldAfter_perm booked.replayFills_perm]
  refine (booked.heldAfter_eq (List.Sublist.refl _) mem ?_ ?_).symm
  · obtain ⟨_, buyMem, buyId, -⟩ := booked.exists_buy mem
    rw [← buyId]
    exact fillId_mem buyMem
  · intro row rowMem _
    obtain ⟨_, sellMem, sellId, -⟩ := booked.consumption_facts rowMem
    rw [← sellId]
    exact fillId_mem sellMem

end

end Replay

/-- In every run whose fills are executed after the earlier SELL fills of their
position, the replay allocates every SELL as it was recorded and ends with the
stored remaining quantities. -/
theorem replay_reproduces_fifo {ledger : Ledger}
    (reachable : store.ReachableBy (InReplayOrder store) ledger) :
    store.replayFifo ledger = .ok () :=
  (canonical_of_reachableBy reachable).replayFifo_eq_ok

/-- Two lots bought, and sold by two orders in the order of their times. -/
theorem replay_reproduces_fifo_sample :
    let store := Sample.store .decimal28 ⟨5, 0⟩
    let ledger :=
      store.ledgerAfter (InReplayOrder store)
        [Sample.submit (Sample.buyIntent 1 2 0) 1000 (some 1) 0 none,
          Sample.execute 1101 8 1000 1 1 none,
          Sample.submit (Sample.halfIntent 3 1 (Sample.day + 5)) 1000 none (Sample.day + 5) none,
          Sample.submit (Sample.exitIntent 4 1 1 (Sample.day + 10)) 1000 none (Sample.day + 10)
            none]
    ledger.fills.length = 4 ∧ store.replayFifo ledger = .ok () :=
  ⟨by decide +kernel, replay_reproduces_fifo (reachableBy_ledgerAfter _ _ _)⟩

/-- A SELL applied second but executed first took the second lot; the replay
expects it to take the first. -/
theorem replay_rejects_reordered_sells :
    let store := Sample.store .decimal28 ⟨5, 0⟩
    ∃ ledger, store.Reachable ledger ∧
      store.replayFifo ledger =
        .error (.reconciliation "paper comparator SELL allocation is not canonical FIFO") :=
  ⟨_,
    reachable_ledgerOf _
      [Sample.submit (Sample.buyIntent 1 2 0) 1000 (some 1) 0 none,
        Sample.execute 1101 8 1000 1 1 none,
        Sample.submit (Sample.exitIntent 2 1 2 (Sample.day + 10)) 1000
          (some 1) (Sample.day + 10) none,
        Sample.submit (Sample.halfIntent 3 1 (Sample.day + 5)) 1000 none (Sample.day + 5) none],
    by decide +kernel⟩

end PaperBrokerStore

end RQuant.Paper
