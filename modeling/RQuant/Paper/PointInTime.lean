import RQuant.Paper.Conservation

/-!
# Point-in-time stability

What `_entry_position_at` reads at a cutoff does not depend on calls that become
available later: what they write carries their persistence time.  They can only
change why an entry signal without an order is rejected.
-/

namespace RQuant.Paper

open Foundation List

variable {result : Ledger} {fill : FillRow} {persistedAt : Time} {tsCode : String} {lot : LotRow}
  {row : ConsumptionRow} {entrySignalId lotId : Digest} {rows : List FillRow}
  {item : ConsumptionJoin}

namespace PaperBrokerStore

variable {store : PaperBrokerStore}

/-- New rows become available at the given time; old rows keep what reads at a
cutoff depend on. -/
structure Appends (ledger result : Ledger) (persistedAt : Time) : Prop where
  intents :
    ∃ new, result.intents = ledger.intents ++ new ∧ ∀ row ∈ new, row.persistedAt = persistedAt
  orders : ledger.orders.map OrderRow.identity <+: result.orders.map OrderRow.identity
  fills : ∃ new, result.fills = ledger.fills ++ new ∧ ∀ row ∈ new, row.persistedAt = persistedAt
  lots : ledger.lots.map LotRow.acquired <+: result.lots.map LotRow.acquired
  consumptions : ∃ new, result.consumptions = ledger.consumptions ++ new ∧
    ∀ row ∈ new, row.persistedAt = persistedAt

variable {ledger : Ledger} {call : Call} {cutoff : Time} {α : Type}

theorem Change.intents_appended (changed : Change store ledger call result) :
    ∃ new, result.intents = ledger.intents ++ new ∧
      ∀ row ∈ new, row.persistedAt = call.persistedAt := by
  cases changed with
  | unchanged => exact ⟨[], by simp⟩
  | @opened request costs _ _ _ _ facts =>
    refine ⟨[openedIntent store request costs], ?_, ?_⟩
    · rw [facts.result_eq]
      exact facts.frame.intents
    · intro row mem
      rw [mem_singleton.mp mem]
      rfl
  | executed facts =>
    refine ⟨[], ?_, by simp⟩
    rw [facts.result_eq, append_nil]
    exact (applyFill_frame facts.applied).intents
  | closed facts => exact ⟨[], by rw [facts.result_eq, append_nil], by simp⟩

theorem Change.appends (changed : Change store ledger call result)
    (identities : Identities store ledger) :
    Appends ledger result call.persistedAt := by
  have intents := changed.intents_appended
  rcases changed.grows_or_fills identities with
    grows | ⟨_, _, _, _, _, _, _, _, step⟩
  · exact
      { intents := intents
        orders := grows.orders
        fills := ⟨[], by rw [grows.fills, append_nil], by simp⟩
        lots := by rw [grows.lots]
        consumptions := ⟨[], by rw [grows.consumptions, append_nil], by simp⟩ }
  · have fills : ∃ new, result.fills = ledger.fills ++ new ∧
        ∀ row ∈ new, row.persistedAt = call.persistedAt := by
      refine ⟨_, step.fills_eq, ?_⟩
      intro row mem
      rw [mem_singleton.mp mem]
      rfl
    rcases step.effect with ⟨_, effect⟩ | ⟨_, effect⟩
    · exact
        { intents := intents
          orders := step.extends.orders
          fills := fills
          lots := by
            rw [effect.lots, map_append]
            exact prefix_append _ _
          consumptions := ⟨[], by rw [effect.consumptions, append_nil], by simp⟩ }
    · refine
        { intents := intents
          orders := step.extends.orders
          fills := fills
          lots := by rw [effect.lots, consumeLots_map_acquired]
          consumptions := ⟨_, effect.consumptions, ?_⟩ }
      intro row mem
      obtain ⟨_, -, rfl⟩ := mem_map.mp mem
      rfl

theorem visibleFills_filter (persisted : ∀ row ∈ rows, row.executedAt ≤ row.persistedAt) :
    store.visibleFills cutoff rows =
      store.visibleFills cutoff (rows.filter fun row => row.persistedAt ≤ cutoff) := by
  induction rows with
  | nil => rfl
  | cons row rest ih =>
    have rowPersisted := persisted row (by simp)
    have restEq := ih fun other mem => persisted other (mem_cons_of_mem _ mem)
    by_cases visible : row.persistedAt ≤ cutoff
    · simp only [filter_cons, decide_eq_true_eq, if_pos visible, visibleFills, restEq]
    · simp only [filter_cons, decide_eq_true_eq, if_neg visible, ← restEq]
      simp only [visibleFills, require_of rowPersisted, ok_bind, if_pos (not_le.mp visible)]

theorem visibleConsumptions_filter
    (persisted : ∀ item ∈ items, item.consumption.persistedAt = item.fill.persistedAt ∧
      item.fill.executedAt ≤ item.consumption.persistedAt) :
    store.visibleConsumptions entrySignalId tsCode cutoff items =
      store.visibleConsumptions entrySignalId tsCode cutoff
        (items.filter fun item => item.consumption.persistedAt ≤ cutoff) := by
  induction items with
  | nil => rfl
  | cons item rest ih =>
    have itemPersisted := persisted item (by simp)
    have restEq := ih fun other mem => persisted other (mem_cons_of_mem _ mem)
    by_cases visible : item.consumption.persistedAt ≤ cutoff
    · simp only [filter_cons, decide_eq_true_eq, if_pos visible, visibleConsumptions, restEq]
    · simp only [filter_cons, decide_eq_true_eq, if_neg visible, ← restEq]
      simp only [visibleConsumptions, require_of itemPersisted, ok_bind, if_pos (not_le.mp visible)]

theorem filter_append_late {persistedAt : α → Time} {old new : List α}
    (late : ∀ row ∈ new, cutoff < persistedAt row) :
    (old ++ new).filter (fun row => persistedAt row ≤ cutoff) =
      old.filter (fun row => persistedAt row ≤ cutoff) :=
  filter_append_of_none fun row mem => not_le.mpr (late row mem)

theorem filterMap_filter_comm
    {β : Type} {join : α → Option β} {before : α → Bool} {after : β → Bool} {rows : List α}
    (kept : ∀ row ∈ rows, ∀ item, join row = some item → after item = before row) :
    (rows.filter before).filterMap join = (rows.filterMap join).filter after := by
  induction rows with
  | nil => rfl
  | cons row rest ih =>
    have restEq := ih fun other mem => kept other (mem_cons_of_mem _ mem)
    cases joined : join row with
    | none =>
      by_cases rowKept : before row = true <;>
        simp [rowKept, joined, restEq]
    | some item =>
      have same := kept row (by simp) item joined
      by_cases rowKept : before row = true <;>
        simp [rowKept, joined, restEq, same]

section Step

variable {cutoff : Time} {intent : IntentRow}

theorem Booked.fill_persisted (booked : Booked store ledger) (mem : fill ∈ ledger.fills) :
    fill.executedAt ≤ fill.persistedAt := by
  obtain ⟨_, _, _, facts⟩ := booked.positions.fills fill mem
  exact facts.persisted

theorem mem_of_mem_entryFills (mem : fill ∈ entryFills ledger orderId cutoff) :
    fill ∈ ledger.fills :=
  (mem_filter.mp (mem_sortOn.mp mem)).1

theorem entryFills_filter (orderId : Digest) :
    (entryFills ledger orderId cutoff).filter (fun row => row.persistedAt ≤ cutoff) =
      sortOn (fun row : FillRow => toLex (row.sequence, row.fillId))
        ((ledger.fills.filter fun row => row.persistedAt ≤ cutoff).filter
          fun row => row.orderId = orderId ∧ row.executedAt ≤ cutoff) := by
  rw [entryFills, filter_sortOn, filter_comm]

section

variable (appends : Appends ledger result persistedAt)

include appends

theorem Appends.visibleFills_eq (late : cutoff < persistedAt)
    (booked : Booked store ledger) (resultBooked : Booked store result) (orderId : Digest) :
    store.visibleFills cutoff (entryFills result orderId cutoff) =
      store.visibleFills cutoff (entryFills ledger orderId cutoff) := by
  obtain ⟨new, fillsEq, newPersisted⟩ := appends.fills
  have newLate : ∀ row ∈ new, cutoff < row.persistedAt := by
    intro row mem
    rw [newPersisted row mem]
    exact late
  have before : store.visibleFills cutoff (entryFills ledger orderId cutoff) = _ :=
    visibleFills_filter fun row mem => booked.fill_persisted (mem_of_mem_entryFills mem)
  have after : store.visibleFills cutoff (entryFills result orderId cutoff) = _ :=
    visibleFills_filter fun row mem => resultBooked.fill_persisted (mem_of_mem_entryFills mem)
  rw [after, before, entryFills_filter, entryFills_filter, fillsEq, filter_append_late newLate]

/-- The lot of a BUY fill is found, and keeps what it was acquired as. -/
theorem Appends.lot_found (found : findKey LotRow.lotId lotId ledger.lots = some lot) :
    ∃ kept, findKey LotRow.lotId lotId result.lots = some kept ∧ kept.acquired = lot.acquired := by
  have acquiredFound :
      findKey LotRow.lotId lotId (ledger.lots.map LotRow.acquired) = some lot.acquired := by
    exact (findKey_map fun _ => rfl).trans (congrArg (Option.map _) found)
  obtain ⟨_, newEq⟩ := appends.lots
  have keptFound :
      findKey LotRow.lotId lotId (result.lots.map LotRow.acquired) = some lot.acquired := by
    rw [← newEq]
    exact findKey_append_of_some acquiredFound
  exact Option.map_eq_some_iff.mp ((findKey_map fun _ => rfl).symm.trans keptFound)

omit appends in
theorem Booked.joinConsumption_eq (booked : Booked store ledger)
    (fillMem : fill ∈ ledger.fills) (fillId : row.fillId = fill.fillId)
    (belongs : FillOf ledger fill order intent) :
    ledger.joinConsumption row =
      some { consumption := row, fill, order := order.identity, intent } := by
  have fillFound :
      findKey (fun row : FillRow => row.fillId) row.fillId ledger.fills = some fill := by
    rw [fillId]
    exact findKey_of_mem booked.positions.fillIds fillMem
  have orderIds : ((ledger.orders.map OrderRow.identity).map OrderIdentity.orderId).Nodup := by
    rw [map_map]
    exact booked.identities.orderIds
  have orderFound : findKey OrderIdentity.orderId fill.orderId
      (ledger.orders.map OrderRow.identity) = some order.identity := by
    rw [findKey_eq_some orderIds]
    exact ⟨mem_map_of_mem belongs.order_mem, belongs.order_id⟩
  have intentFound : ledger.intentRow order.intentId = some intent := by
    rw [← belongs.intent_id]
    exact findKey_of_mem booked.identities.intentIds belongs.intent_mem
  simp only [Ledger.joinConsumption, fillFound, orderFound, Option.bind_eq_bind, Option.bind_some]
  rw [show order.identity.intentId = order.intentId from rfl, intentFound]
  rfl

theorem Appends.joinConsumption_eq
    (booked : Booked store ledger) (resultBooked : Booked store result)
    (mem : row ∈ ledger.consumptions) :
    result.joinConsumption row = ledger.joinConsumption row := by
  obtain ⟨fill, fillMem, _, _, belongs, _, _, consumed⟩ := booked.positions.consumptions row mem
  obtain ⟨newIntents, intentsEq, -⟩ := appends.intents
  obtain ⟨_, fillsEq, -⟩ := appends.fills
  obtain ⟨_, sameIdentity, keptBelongs⟩ := belongs.grows ⟨newIntents, intentsEq.symm⟩ appends.orders
  have keptFill : fill ∈ result.fills := by
    rw [fillsEq]
    exact mem_append_left _ fillMem
  rw [booked.joinConsumption_eq fillMem consumed.fillId belongs,
    resultBooked.joinConsumption_eq keptFill consumed.fillId keptBelongs, sameIdentity]

omit appends in
theorem Booked.joined_persisted (booked : Booked store ledger) (mem : row ∈ ledger.consumptions)
    (joined : ledger.joinConsumption row = some item) :
    item.consumption = row ∧ item.consumption.persistedAt = item.fill.persistedAt ∧
      item.fill.executedAt ≤ item.consumption.persistedAt := by
  obtain ⟨fill, fillMem, _, _, belongs, _, _, consumed⟩ := booked.positions.consumptions row mem
  rw [booked.joinConsumption_eq fillMem consumed.fillId belongs, Option.some.injEq] at joined
  subst joined
  have persisted := booked.fill_persisted fillMem
  exact ⟨rfl, consumed.persistedAt, consumed.persistedAt ▸ persisted⟩

omit appends in
theorem Booked.lotConsumptions_persisted (booked : Booked store ledger)
    (mem : item ∈ lotConsumptions ledger lotId cutoff) :
    item.consumption.persistedAt = item.fill.persistedAt ∧
      item.fill.executedAt ≤ item.consumption.persistedAt := by
  rw [lotConsumptions, mem_sortOn, mem_filter, mem_filterMap] at mem
  obtain ⟨⟨_, rowMem, joined⟩, -⟩ := mem
  exact (booked.joined_persisted (mem_filter.mp rowMem).1 joined).2

omit appends in
theorem Booked.lotConsumptions_filter (booked : Booked store ledger) (lotId : Digest) :
    (lotConsumptions ledger lotId cutoff).filter
        (fun item => item.consumption.persistedAt ≤ cutoff) =
      sortOn (fun item : ConsumptionJoin => toLex (item.fill.executedAt, item.consumption.fillId))
        ((((ledger.consumptions.filter fun row =>
          row.persistedAt ≤ cutoff).filter fun row =>
            row.lotId = lotId).filterMap ledger.joinConsumption).filter
              fun item => item.fill.executedAt ≤ cutoff) := by
  rw [lotConsumptions, filter_sortOn, filter_comm]
  congr 2
  rw [filter_comm, ← filterMap_filter_comm]
  intro row mem item joined
  have same := (booked.joined_persisted (mem_filter.mp mem).1 joined).1
  rw [same]

theorem Appends.visibleConsumptions_eq (late : cutoff < persistedAt)
    (booked : Booked store ledger) (resultBooked : Booked store result)
    (entrySignalId : Digest) (tsCode : String) (lotId : Digest) :
    store.visibleConsumptions entrySignalId tsCode cutoff (lotConsumptions result lotId cutoff) =
      store.visibleConsumptions entrySignalId tsCode cutoff
        (lotConsumptions ledger lotId cutoff) := by
  obtain ⟨new, consumptionsEq, newPersisted⟩ := appends.consumptions
  have newLate : ∀ row ∈ new, cutoff < row.persistedAt := by
    intro row mem
    rw [newPersisted row mem]
    exact late
  have before : store.visibleConsumptions entrySignalId tsCode cutoff
      (lotConsumptions ledger lotId cutoff) = _ :=
    visibleConsumptions_filter fun _ mem => booked.lotConsumptions_persisted mem
  have after : store.visibleConsumptions entrySignalId tsCode cutoff
      (lotConsumptions result lotId cutoff) = _ :=
    visibleConsumptions_filter fun _ mem => resultBooked.lotConsumptions_persisted mem
  rw [after, before, booked.lotConsumptions_filter,
    resultBooked.lotConsumptions_filter, consumptionsEq, filter_append_late newLate]
  congr 3
  apply filterMap_congr
  intro row mem
  exact appends.joinConsumption_eq booked resultBooked (mem_filter.mp (mem_filter.mp mem).1).1

/-! ### The position -/

omit appends in
theorem lotPosition_of_acquired (found : findKey LotRow.lotId fill.fillId ledger.lots = some lot)
    (keptFound : findKey LotRow.lotId fill.fillId result.lots = some kept)
    (same : kept.acquired = lot.acquired)
    (consumptionsEq : store.visibleConsumptions entrySignalId tsCode cutoff
        (lotConsumptions result fill.fillId cutoff) =
      store.visibleConsumptions entrySignalId tsCode cutoff
        (lotConsumptions ledger fill.fillId cutoff)) :
    store.lotPosition result entrySignalId tsCode cutoff tradeDate fill =
      store.lotPosition ledger entrySignalId tsCode cutoff tradeDate fill := by
  have reconciles : store.LotReconciles entrySignalId tsCode cutoff fill kept ↔
      store.LotReconciles entrySignalId tsCode cutoff fill lot := by
    have sameReconciles := congrArg (store.LotReconciles entrySignalId tsCode cutoff fill) same
    exact iff_of_eq sameReconciles
  have availableDate : kept.availableDate = lot.availableDate := by
    have sameDate := congrArg LotRow.availableDate same
    exact sameDate
  unfold lotPosition
  rw [found, keptFound]
  simp only [orRaise, ok_bind, availableDate, consumptionsEq]
  by_cases bound : store.LotReconciles entrySignalId tsCode cutoff fill lot
  · rw [require_of bound, require_of (reconciles.mpr bound)]
  · rw [require_of_not bound, require_of_not (mt reconciles.mp bound)]

omit appends in
theorem mem_of_mem_visibleFills (read : store.visibleFills cutoff rows = .ok visible)
    (mem : fill ∈ visible) :
    fill ∈ rows := by
  induction rows generalizing visible with
  | nil =>
    cases read
    cases mem
  | cons row rest ih =>
    simp only [run_eq_ok, visibleFills] at read
    obtain ⟨-, read⟩ := read
    by_cases later : cutoff < row.persistedAt
    · rw [if_pos later] at read
      exact mem_cons_of_mem _ (ih read mem)
    · rw [if_neg later] at read
      split at read
      · simp only [bind_eq_ok, throw_ne_ok, false_and, exists_false] at read
      · simp only [run_eq_ok] at read
        obtain ⟨_, restRead, rfl⟩ := read
        rcases mem_cons.mp mem with rfl | restMem
        · exact mem_cons_self
        · exact mem_cons_of_mem _ (ih restRead restMem)

omit appends in
theorem Booked.entry_lot (booked : Booked store ledger) (intentMem : intent ∈ ledger.intents)
    (buySide : intent.payload.side = .buy) (orderMem : order ∈ ledger.orders.map OrderRow.identity)
    (orderIntent : order.intentId = intent.intentId)
    (fillMem : fill ∈ entryFills ledger order.orderId cutoff) :
    ∃ lot, findKey LotRow.lotId fill.fillId ledger.lots = some lot := by
  have fillRow := mem_of_mem_entryFills fillMem
  have fillOrder : fill.orderId = order.orderId := by
    have selected := (mem_filter.mp (mem_sortOn.mp fillMem)).2
    exact (of_decide_eq_true selected).1
  obtain ⟨row, rowMem, rfl⟩ := mem_map.mp orderMem
  have belongs : FillOf ledger fill row intent :=
    ⟨rowMem, fillOrder.symm, intentMem, orderIntent.symm⟩
  obtain ⟨_, _, otherBelongs, facts⟩ := booked.positions.fills fill fillRow
  obtain ⟨-, rfl⟩ := otherBelongs.unique belongs booked.identities
  obtain ⟨lot, lotMem, lotId⟩ := facts.buys buySide
  refine ⟨lot, ?_⟩
  rw [findKey_eq_some booked.positions.lotIds]
  exact ⟨lotMem, lotId⟩

def noEntryOrder : BrokerError :=
  .reconciliation "entry_signal_id must resolve to one authoritative BUY order"

def entryNotVisible : BrokerError :=
  .reconciliation "entry BUY intent is not visible at decision cutoff"

/-- A read at the cutoff before and after later calls: the same, or rejected for
want of an order before and of visibility after. -/
def SameRead (before after : Except BrokerError (ℕ × ℕ × Digest)) : Prop :=
  after = before ∨ before = .error noEntryOrder ∧ after = .error entryNotVisible

section

variable (late : cutoff < persistedAt) (booked : Booked store ledger)
  (resultBooked : Booked store result)

include late booked resultBooked

/-- Once the entry signal has its order, nothing the read depends on changes. -/
theorem Appends.entryPositionAt_eq (tradeDate : Date)
    (mem : intent ∈ ledger.intents) (entry : IsEntry store entrySignalId tsCode intent) :
    store.entryPositionAt result entrySignalId tsCode cutoff tradeDate =
      store.entryPositionAt ledger entrySignalId tsCode cutoff tradeDate := by
  obtain ⟨order, orderMem, orderIntent⟩ := booked.identities.exists_order mem
  obtain ⟨_, intentsEq, -⟩ := appends.intents
  have resultMem : intent ∈ result.intents := by
    rw [intentsEq]
    exact mem_append_left _ mem
  have buySide : intent.payload.side = .buy := by
    rw [← (booked.identities.intents intent mem).side]
    exact entry.2.2.2
  have rows := entryRows_eq_singleton booked.identities mem entry orderMem orderIntent
  have resultRows := entryRows_eq_singleton resultBooked.identities resultMem entry
    (appends.orders.subset orderMem) orderIntent
  have fillsEq := appends.visibleFills_eq late booked resultBooked order.orderId
  simp only [entryPositionAt, rows, resultRows, fillsEq]
  cases read : store.visibleFills cutoff (entryFills ledger order.orderId cutoff) with
  | error raised => simp only [error_bind]
  | ok visible =>
    have positionsEq :
        visible.mapM (store.lotPosition result entrySignalId tsCode cutoff tradeDate) =
          visible.mapM (store.lotPosition ledger entrySignalId tsCode cutoff tradeDate) := by
      apply mapM_congr
      intro fill fillMem
      obtain ⟨_, found⟩ :=
        booked.entry_lot mem buySide orderMem orderIntent (mem_of_mem_visibleFills read fillMem)
      obtain ⟨_, keptFound, same⟩ := appends.lot_found found
      exact lotPosition_of_acquired found keptFound same
        (appends.visibleConsumptions_eq late booked resultBooked entrySignalId tsCode fill.fillId)
    simp only [ok_bind, positionsEq]

theorem Appends.sameRead (entrySignalId : Digest) (tsCode : String) (tradeDate : Date) :
    SameRead (store.entryPositionAt ledger entrySignalId tsCode cutoff tradeDate)
      (store.entryPositionAt result entrySignalId tsCode cutoff tradeDate) := by
  by_cases present : ∃ intent ∈ ledger.intents, IsEntry store entrySignalId tsCode intent
  · obtain ⟨intent, mem, entry⟩ := present
    exact .inl (appends.entryPositionAt_eq late booked resultBooked tradeDate mem entry)
  · push Not at present
    have before : store.entryPositionAt ledger entrySignalId tsCode cutoff tradeDate =
        .error noEntryOrder := by
      rw [entryPositionAt, entryRows_eq_nil present]
      rfl
    by_cases opened : ∃ intent ∈ result.intents, IsEntry store entrySignalId tsCode intent
    · obtain ⟨intent, mem, entry⟩ := opened
      obtain ⟨_, orderMem, orderIntent⟩ := resultBooked.identities.exists_order mem
      have intentLate : ¬ intent.persistedAt ≤ cutoff := by
        obtain ⟨_, intentsEq, newPersisted⟩ := appends.intents
        rw [intentsEq] at mem
        rcases mem_append.mp mem with old | isNew
        · exact absurd entry (present intent old)
        · rw [newPersisted intent isNew]
          exact not_le.mpr late
      refine .inr ⟨before, ?_⟩
      rw [entryPositionAt,
        entryRows_eq_singleton resultBooked.identities mem entry orderMem orderIntent]
      simp only [require_of_not intentLate, error_bind]
      rfl
    · push Not at opened
      refine .inl ?_
      rw [before, entryPositionAt, entryRows_eq_nil opened]
      rfl

end

end

end Step

def LaterThan (store : PaperBrokerStore) (cutoff : Time) : Ledger → Ledger → Prop :=
  Reaches store.Succeeds fun _ call => cutoff < call.persistedAt

def laterLedger (store : PaperBrokerStore) (cutoff : Time) (ledger : Ledger)
    (calls : List Call) : Ledger :=
  finalState (store.execute fun _ call => cutoff < call.persistedAt) ledger calls

theorem laterThan_laterLedger (cutoff : Time) (ledger : Ledger) (calls : List Call) :
    LaterThan store cutoff ledger (laterLedger store cutoff ledger calls) := by
  have sound : ∀ {source call target},
      store.execute (fun _ call => cutoff < call.persistedAt) source call = some target →
        cutoff < call.persistedAt ∧ store.Succeeds source call target :=
    fun executed => execute_sound executed
  exact reaches_finalState sound ledger calls

theorem SameRead.trans (left : SameRead first second) (right : SameRead second third) :
    SameRead first third := by
  have different : noEntryOrder ≠ entryNotVisible := by decide
  rcases left with rfl | ⟨firstEq, secondEq⟩
  · exact right
  · rcases right with rfl | ⟨secondEq', -⟩
    · exact .inr ⟨firstEq, secondEq⟩
    · rw [secondEq] at secondEq'
      exact absurd (Except.error.inj secondEq').symm different

structure ReadsAt (store : PaperBrokerStore) (cutoff : Time) (entrySignalId : Digest)
    (tsCode : String) (tradeDate : Date)
    (before : Except BrokerError (ℕ × ℕ × Digest)) (ledger : Ledger) :
    Prop where
  booked : Booked store ledger
  sameRead : SameRead before (store.entryPositionAt ledger entrySignalId tsCode cutoff tradeDate)

/-- The position of an entry signal at a cutoff is not changed by calls that
become available later, except that an entry signal without an order may be
rejected for its new, not yet visible intent instead. -/
theorem entryPositionAt_stable {ledger later : Ledger} {cutoff : Time}
    (reachable : store.Reachable ledger) (run : LaterThan store cutoff ledger later)
    (entrySignalId : Digest) (tsCode : String) (tradeDate : Date) :
    store.entryPositionAt later entrySignalId tsCode cutoff tradeDate =
        store.entryPositionAt ledger entrySignalId tsCode cutoff tradeDate ∨
      store.entryPositionAt ledger entrySignalId tsCode cutoff tradeDate = .error noEntryOrder ∧
        store.entryPositionAt later entrySignalId tsCode cutoff tradeDate =
          .error entryNotVisible := by
  have read : ReadsAt store cutoff entrySignalId tsCode tradeDate
      (store.entryPositionAt ledger entrySignalId tsCode cutoff tradeDate)
      later :=
    run.invariant ⟨booked_of_reachableBy reachable, Or.inl rfl⟩ <| by
      intro _ _ _ reads late succeeds
      have changed := succeeds.change
      have targetBooked := reads.booked.change changed
      have appends := changed.appends reads.booked.identities
      exact ⟨targetBooked,
        reads.sameRead.trans
          (appends.sameRead late reads.booked targetBooked entrySignalId tsCode tradeDate)⟩
  exact read.sameRead

/-- The position at the cutoff 0 before and after a SELL of the next day. -/
theorem entryPositionAt_stable_sample :
    let store := Sample.store .decimal28 ⟨5, 0⟩
    let ledger := store.ledgerOf [Sample.submit (Sample.buyIntent 1 2 0) 1000 none 0 none]
    let later :=
      laterLedger store 0 ledger
        [Sample.submit (Sample.halfIntent 2 1 Sample.day) 1100 none Sample.day none]
    later.fills.length = 2 ∧
      (store.entryPositionAt later 1 "600000.SH" 0 1 =
          store.entryPositionAt ledger 1 "600000.SH" 0 1 ∨
        store.entryPositionAt ledger 1 "600000.SH" 0 1 = .error noEntryOrder ∧
          store.entryPositionAt later 1 "600000.SH" 0 1 = .error entryNotVisible) :=
  ⟨by decide +kernel,
    entryPositionAt_stable (reachable_ledgerOf _ _) (laterThan_laterLedger 0 _ _) 1 "600000.SH" 1⟩

/-- A BUY submitted after the cutoff changes the text of a rejection. -/
theorem later_buy_changes_rejection :
    let store := Sample.store .decimal28 ⟨5, 0⟩
    ∃ ledger later, store.Reachable ledger ∧ LaterThan store 0 ledger later ∧
      store.entryPositionAt later 1 "600000.SH" 0 0 ≠
        store.entryPositionAt ledger 1 "600000.SH" 0 0 :=
  ⟨_, _, reachable_ledgerOf _ [],
    laterThan_laterLedger 0 _ [Sample.submit (Sample.buyIntent 1 2 0) 1000 none 0 (some 5)],
    by decide +kernel⟩

end PaperBrokerStore

end RQuant.Paper
