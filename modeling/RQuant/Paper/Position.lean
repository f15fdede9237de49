import RQuant.Paper.Ledger

/-!
# Positions at a decision cutoff

`_entry_position_at` reconstructs what one entry signal still holds from the
fills, lots and consumptions visible at a cutoff.  It sizes every SELL intent,
so its guards decide which SELLs the broker accepts.
-/

namespace RQuant.Paper

open Foundation

/-- A consumption joined with its SELL fill, order and intent. -/
structure ConsumptionJoin where
  consumption : ConsumptionRow
  fill : FillRow
  order : OrderIdentity
  intent : IntentRow

namespace Ledger

/-- The join of one consumption on the primary keys of the three tables. -/
def joinConsumption (ledger : Ledger) (consumption : ConsumptionRow) : Option ConsumptionJoin := do
  let fill ← findKey (fun row : FillRow => row.fillId) consumption.fillId ledger.fills
  let order ← findKey OrderIdentity.orderId fill.orderId (ledger.orders.map OrderRow.identity)
  let intent ← ledger.intentRow order.intentId
  pure { consumption, fill, order, intent }

end Ledger

namespace PaperBrokerStore

variable (store : PaperBrokerStore)

/-- The BUY intents of an entry signal with their orders.  The source also
orders the rows, which only matters when there are several and the call
raises. -/
def entryRows (ledger : Ledger) (entrySignalId : Digest) (tsCode : String) :
    List (IntentRow × OrderIdentity) :=
  (ledger.intents.filter fun intent =>
      intent.accountId = store.accountId ∧ intent.tsCode = tsCode ∧
        intent.signalId = entrySignalId ∧ intent.side = .buy).flatMap
    fun intent =>
      ((ledger.orders.map OrderRow.identity).filter fun order =>
        order.intentId = intent.intentId).map fun order => (intent, order)

/-- Whether the entry rows bind the requested account, code and signal. -/
def EntryBinds (entrySignalId : Digest) (tsCode : String) (intent : IntentRow)
    (order : OrderIdentity) : Prop :=
  intent.payload.side = .buy ∧ intent.payload.signalId = entrySignalId ∧
    intent.payload.accountId = store.accountId ∧
    intent.payload.tsCode = tsCode ∧
    intent.signalId = intent.payload.signalId ∧
    intent.entrySignalId = none ∧
    intent.tsCode = intent.payload.tsCode ∧
    intent.side = .buy ∧
    order.side = .buy ∧
    order.accountId = store.accountId ∧
    order.tsCode = tsCode ∧
    order.entrySignalId = none

instance (entrySignalId : Digest) (tsCode : String) (intent : IntentRow) (order : OrderIdentity) :
    Decidable (store.EntryBinds entrySignalId tsCode intent order) :=
  inferInstanceAs (Decidable (_ ∧ _))

def entryFills (ledger : Ledger) (orderId : Digest) (decisionCutoff : Time) : List FillRow :=
  sortOn (fun row : FillRow => toLex (row.sequence, row.fillId)) <|
    ledger.fills.filter fun row => row.orderId = orderId ∧ row.executedAt ≤ decisionCutoff

def visibleFills (decisionCutoff : Time) : List FillRow → Except BrokerError (List FillRow)
  | [] => .ok []
  | row :: rest => do
    require (row.executedAt ≤ row.persistedAt)
      (.reconciliation "BUY fill persisted_at cannot precede execution")
    if decisionCutoff < row.persistedAt then
      visibleFills decisionCutoff rest
    else do
      match store.fillFromRow row with
        | .error _ => throw (.reconciliation "entry BUY fill is invalid")
        | .ok _ => pure ()
      let visible ← visibleFills decisionCutoff rest
      pure (row :: visible)

def LotReconciles (entrySignalId : Digest) (tsCode : String) (decisionCutoff : Time)
    (fill : FillRow) (lot : LotRow) : Prop :=
  lot.persistedAt = fill.persistedAt ∧ lot.buyExecutedAt = fill.executedAt ∧
    lot.buyPersistedAt = fill.persistedAt ∧
    lot.buyFillSequence = fill.sequence ∧
    lot.persistedAt ≤ decisionCutoff ∧
    lot.entrySignalId = entrySignalId ∧
    lot.accountId = store.accountId ∧
    lot.tsCode = tsCode ∧
    lot.originalQuantity = fill.quantity

instance (entrySignalId : Digest) (tsCode : String) (decisionCutoff : Time)
    (fill : FillRow) (lot : LotRow) :
    Decidable (store.LotReconciles entrySignalId tsCode decisionCutoff fill lot) :=
  inferInstanceAs (Decidable (_ ∧ _))

def ConsumptionBinds (entrySignalId : Digest) (tsCode : String) (item : ConsumptionJoin) : Prop :=
  item.order.accountId = store.accountId ∧ item.order.tsCode = tsCode ∧ item.order.side = .sell ∧
    item.order.entrySignalId = some entrySignalId ∧
    item.intent.payload.entrySignalId = some entrySignalId

instance (entrySignalId : Digest) (tsCode : String) (item : ConsumptionJoin) :
    Decidable (store.ConsumptionBinds entrySignalId tsCode item) :=
  inferInstanceAs (Decidable (_ ∧ _))

def lotConsumptions (ledger : Ledger) (lotId : Digest)
    (decisionCutoff : Time) : List ConsumptionJoin :=
  sortOn (fun item : ConsumptionJoin => toLex (item.fill.executedAt, item.consumption.fillId)) <|
    ((ledger.consumptions.filter fun row => row.lotId = lotId).filterMap
      ledger.joinConsumption).filter fun item => item.fill.executedAt ≤ decisionCutoff

def visibleConsumptions (entrySignalId : Digest) (tsCode : String) (decisionCutoff : Time) :
    List ConsumptionJoin → Except BrokerError (List ConsumptionEvidence)
  | [] => .ok []
  | item :: rest => do
    require
      (item.consumption.persistedAt = item.fill.persistedAt ∧
        item.fill.executedAt ≤ item.consumption.persistedAt)
      (.reconciliation "SELL fill and consumption availability do not reconcile")
    if decisionCutoff < item.consumption.persistedAt then
      visibleConsumptions entrySignalId tsCode decisionCutoff rest
    else do
      require (store.ConsumptionBinds entrySignalId tsCode item)
        (.reconciliation "SELL consumption does not bind the entry BUY")
      let visible ← visibleConsumptions entrySignalId tsCode decisionCutoff rest
      pure
        ({ fillId := item.consumption.fillId, quantity := item.consumption.quantity,
           persistedAt := item.consumption.persistedAt } :: visible)

section

variable (ledger : Ledger) (entrySignalId : Digest) (tsCode : String) (decisionCutoff : Time)
  (tradeDate : Date)

/-- What one visible BUY fill still holds: remaining, available, evidence. -/
def lotPosition (fill : FillRow) :
    Except BrokerError (ℕ × ℕ × LotEvidence) := do
  let lot ←
    orRaise (.reconciliation "entry BUY fill lacks exact lot provenance")
      (findKey LotRow.lotId fill.fillId ledger.lots)
  require (store.LotReconciles entrySignalId tsCode decisionCutoff fill lot)
    (.reconciliation "entry BUY fill and lot provenance do not reconcile")
  let consumptions ←
    store.visibleConsumptions entrySignalId tsCode decisionCutoff
      (lotConsumptions ledger fill.fillId decisionCutoff)
  let consumed := (consumptions.map ConsumptionEvidence.quantity).sum
  require (consumed ≤ fill.quantity)
    (.reconciliation "SELL consumption exceeds entry BUY fill quantity")
  let lotRemaining := fill.quantity - consumed
  pure
    (lotRemaining, if lot.availableDate ≤ tradeDate then lotRemaining else 0,
      { lotId := fill.fillId, originalQuantity := fill.quantity,
        fillPersistedAt := fill.persistedAt, availableDate := lot.availableDate, consumptions })

/-- `_entry_position_at`: remaining quantity, available quantity and the
fingerprint of the lots they come from. -/
def entryPositionAt : Except BrokerError (ℕ × ℕ × Digest) :=
  match store.entryRows ledger entrySignalId tsCode with
  | [(intent, order)] => do
    require (intent.persistedAt ≤ decisionCutoff)
      (.reconciliation "entry BUY intent is not visible at decision cutoff")
    require (store.EntryBinds entrySignalId tsCode intent order)
      (.reconciliation "entry_signal_id does not bind the requested account/code BUY")
    let visible ← store.visibleFills decisionCutoff (entryFills ledger order.orderId decisionCutoff)
    require (visible ≠ []) (.reconciliation "entry_signal_id has no visible authoritative BUY fill")
    require (visible.map (fun row => row.sequence) = List.range' 1 visible.length)
      (.reconciliation "entry BUY fill sequence is incomplete")
    let positions ←
      visible.mapM (store.lotPosition ledger entrySignalId tsCode decisionCutoff tradeDate)
    pure
      ((positions.map fun position => position.1).sum,
        (positions.map fun position => position.2.1).sum, store.digests.sourceLotFingerprint
          { accountId := store.accountId
            entrySignalId := entrySignalId
            tsCode := tsCode
            decisionCutoff := decisionCutoff
            lots := positions.map fun position => position.2.2 })
  | _ => .error (.reconciliation "entry_signal_id must resolve to one authoritative BUY order")

end

def validateSellQuantityAuthority
    (ledger : Ledger) (intent : PaperOrderIntent) (decisionTime : Time)
    (tradeDate : Date) : Except BrokerError Unit :=
  match intent.sellQuantityAuthority, intent.entrySignalId with
  | some authority, some entrySignalId => do
    require (authority.decisionCutoff = decisionTime)
      (.reconciliation "SELL quantity authority cutoff must equal broker decision time")
    let position ← store.entryPositionAt ledger entrySignalId intent.tsCode decisionTime tradeDate
    let expected : PaperSellQuantityAuthority :=
      { exitSignalId := intent.signalId, entrySignalId, accountId := store.accountId,
        tsCode := intent.tsCode, action := authority.action, decisionCutoff := decisionTime,
        remainingQuantity := position.1, availableQuantity := position.2.1,
        trancheFraction := authority.trancheFraction, requestedQuantity := intent.quantity,
        sourceLotFingerprint := position.2.2 }
    expected.validateQuantitySemantics
    require (expected = authority)
      (.reconciliation "SELL quantity authority changed before intent submission")
  | _, _ => .error (.reconciliation "SELL intent lacks quantity or entry provenance")

end PaperBrokerStore

end RQuant.Paper
