import RQuant.Paper.ExactlyOnce
import RQuant.Paper.PointInTime
import RQuant.Paper.Reconcile

/-!
# Order timelines

What successful calls keep about each order: its fills are numbered in the order
they were made and add up to the filled quantity and the average price.  Every
receipt reads back and every SELL names an entry that has been filled.
-/

namespace RQuant.Paper

open Foundation List

variable {evaluatedOrder : PaperOrder}

namespace PaperBrokerStore

variable {store : PaperBrokerStore}

/-- The four things a successful call can have done. -/
inductive Settled (store : PaperBrokerStore) (ledger : Ledger) : Call → Ledger → Prop
  | unchanged {call : Call} : Settled store ledger call ledger
  | opened {request : SubmitIntent} {costs : ExecutionCostCalculation}
      {evaluatedOrder : PaperOrder} {fill : Option PaperFill}
      {filled result : Ledger}
      (facts : Opened store ledger request costs evaluatedOrder fill filled result) :
      Settled store ledger (.submit request) result
  | executed {request : ApplyExecution} {costs : ExecutionCostCalculation}
      {row : OrderRow} {intent : IntentRow} {sequence : ℕ}
      {averagePrice : ℚ} {filled result : Ledger}
      (facts : Executed store ledger request costs row intent sequence averagePrice filled result)
      (readBack : ReceiptSound store
        (executedReceiptRow store request costs row intent sequence
          averagePrice) request.executionId) :
      Settled store ledger (.apply request) result
  | closed {request : CloseOpenOrder} {row : OrderRow} {intent : IntentRow} {result : Ledger}
      (facts : Closed store ledger request row intent result)
      (readBack : ∀ order ∈ result.orders, order.orderId = request.orderId →
        order.toPaperOrder.validateOrder (store.expectedOrderId order.toPaperOrder) = .ok ()) :
      Settled store ledger (.close request) result

variable {ledger result filled : Ledger} {order : PaperOrder} {call : Call} {fills : List FillRow}
  {sequence : ℕ} {fill : FillRow} {costs : ExecutionCostCalculation} {request : ApplyExecution}
  {intent : IntentRow} {row : OrderRow} {averagePrice : ℚ}

/-- A replay changes nothing; any other call that succeeds opens, executes or closes an order.
-/
theorem Succeeds.settled (succeeds : store.Succeeds ledger call result)
    (audited : Audited store ledger) :
    Settled store ledger call result := by
  have resultAudited := audited.change succeeds.change
  obtain ⟨_, performed⟩ := succeeds
  cases call with
  | submit request =>
    have resultEq : (store.submitIntent ledger request).2 = result := congrArg Prod.snd performed
    rcases submitIntent_cases ledger request with
      unchanged | ⟨_, _, _, _, facts⟩
    · rw [unchanged] at resultEq
      rw [← resultEq]
      exact .unchanged
    · rw [resultEq] at facts
      exact .opened facts
  | apply request =>
    obtain ⟨receipt, applied, rfl⟩ := returned_of_answer performed
    rcases applyExecution_eq_ok applied with
      ⟨_, _, -, -, -, -, rfl⟩ |
        ⟨costs, row, intent, sequence, averagePrice, filled, facts, readBack⟩
    · exact .unchanged
    · have mem : executedReceiptRow store request costs row intent sequence
          averagePrice ∈ result.receipts := by
        rw [facts.result_eq]
        exact mem_concat_self
      have written := resultAudited.receipts.receiptRow_of_mem mem
      obtain ⟨stored, found, -, sound⟩ := executionReceipt_eq_some.mp readBack
      obtain rfl :
          executedReceiptRow store request costs row intent sequence averagePrice = stored :=
        Option.some.inj (written.symm.trans found)
      exact .executed facts sound
  | close request =>
    obtain ⟨order, closed, rfl⟩ := returned_of_answer performed
    have readBack : store.readOrder result request.orderId = .ok order := by
      unfold closeOpenOrder at closed
      split at closed
      · cases closed
      · obtain ⟨readBack, rfl⟩ := Prod.mk.inj closed
        exact readBack
    rcases closeOpenOrder_cases ledger request with
      unchanged | ⟨row, intent, facts⟩
    · rw [closed] at unchanged
      obtain rfl : result = ledger := unchanged
      exact .unchanged
    · rw [closed] at facts
      refine .closed facts ?_
      intro other mem sameId
      simp only [run_eq_ok, readOrder, orderFromRow, orRaise_eq_ok] at readBack
      obtain ⟨found, foundEq, valid, -⟩ := readBack
      obtain ⟨foundMem, -, foundId⟩ := mem_of_orderRow foundEq
      obtain rfl : other = found :=
        eq_of_key_eq resultAudited.identities.orderIds mem foundMem (sameId.trans foundId.symm)
      exact valid

/-- The fills of an order, in the order they were made, and what its row says
about them. -/
structure OrderTimeline (store : PaperBrokerStore) (order : PaperOrder) (fills : List FillRow) :
    Prop where
  valid : order.validateOrder (store.expectedOrderId order) = .ok ()
  sequences : fills.map (fun row => row.sequence) = range' 1 fills.length
  quantity : (fills.map fun row => row.quantity).sum = order.filledQuantity
  executed : fills.Pairwise fun left right => left.executedAt ≤ right.executedAt
  persisted : fills.Pairwise fun left right => left.persistedAt ≤ right.persistedAt
  updated : ∀ fill ∈ fills, fill.executedAt ≤ order.updatedAt ∧ fill.persistedAt ≤ order.updatedAt
  average : fills ≠ [] → ∃ price,
    store.arithmetic.quantize (store.weightedPrice fills) store.executionPriceTick = some price ∧
      order.averageFillPrice = some price

theorem walkTimeline_latest
    (walked : walkTimeline order previousExecutedAt previousPersistedAt rows =
      .ok (executedAt, persistedAt)) :
    (∀ previous ∈ previousExecutedAt, ∃ latest ∈ executedAt, previous ≤ latest) ∧
      (∀ previous ∈ previousPersistedAt, ∃ latest ∈ persistedAt, previous ≤ latest) ∧
      ∀ row ∈ rows, (∃ latest ∈ executedAt, row.executedAt ≤ latest) ∧
        ∃ latest ∈ persistedAt, row.persistedAt ≤ latest := by
  induction rows generalizing previousExecutedAt previousPersistedAt with
  | nil =>
    cases walked
    exact ⟨fun previous mem => ⟨previous, mem, le_rfl⟩,
      fun previous mem => ⟨previous, mem, le_rfl⟩, by simp⟩
  | cons head tail ih =>
    simp only [run_eq_ok, walkTimeline] at walked
    obtain ⟨-, executedOrdered, persistedOrdered, -, walked⟩ := walked
    obtain ⟨executed, persisted, rest⟩ := ih walked
    obtain ⟨lastExecuted, executedEq, headExecuted⟩ := executed _ rfl
    obtain ⟨lastPersisted, persistedEq, headPersisted⟩ := persisted _ rfl
    refine ⟨?_, ?_, ?_⟩
    · intro previous mem
      exact ⟨lastExecuted, executedEq, (executedOrdered previous mem).trans headExecuted⟩
    · intro previous mem
      exact ⟨lastPersisted, persistedEq, (persistedOrdered previous mem).trans headPersisted⟩
    · intro row mem
      rcases mem_cons.mp mem with rfl | tailMem
      · exact ⟨⟨lastExecuted, executedEq, headExecuted⟩,
          ⟨lastPersisted, persistedEq, headPersisted⟩⟩
      · exact rest row tailMem

theorem incrementalFillTimeline_next
    (walked : incrementalFillTimeline ledger order =
      .ok (sequence, previousExecutedAt, previousPersistedAt))
    (executedLater : ∀ previous ∈ previousExecutedAt, previous ≤ executedAt)
    (persistedLater : ∀ previous ∈ previousPersistedAt, previous ≤ persistedAt) :
    sequence = (ledger.orderFills order.orderId).length + 1 ∧
      ∀ fill ∈ ledger.orderFills order.orderId,
        fill.executedAt ≤ executedAt ∧ fill.persistedAt ≤ persistedAt ∧
          fill.sequence < sequence := by
  simp only [run_eq_ok, incrementalFillTimeline, Prod.mk.injEq, Prod.exists] at walked
  obtain ⟨sequences, -, _, _, walked, rfl, rfl, rfl⟩ := walked
  obtain ⟨-, -, latest⟩ := walkTimeline_latest walked
  have length :
      (timelineFills ledger order.orderId).length = (ledger.orderFills order.orderId).length :=
    (perm_sortOn _).length_eq
  refine ⟨by rw [length], ?_⟩
  intro fill mem
  have walkedFill : fill ∈ timelineFills ledger order.orderId := mem_sortOn.mpr mem
  obtain ⟨⟨_, executedEq, fillExecuted⟩, ⟨_, persistedEq, fillPersisted⟩⟩ := latest fill walkedFill
  have numbered : fill.sequence ∈ range' 1 (timelineFills ledger order.orderId).length := by
    rw [← sequences]
    exact mem_map_of_mem (f := fun row : FillRow => row.sequence) walkedFill
  rw [mem_range'_1] at numbered
  exact ⟨fillExecuted.trans (executedLater _ executedEq),
    fillPersisted.trans (persistedLater _ persistedEq), by omega⟩

theorem OrderTimeline.append {updated : PaperOrder} {price : ℚ}
    (timeline : OrderTimeline store order fills) (sequence : fill.sequence = fills.length + 1)
    (later : ∀ old ∈ fills, old.executedAt ≤ fill.executedAt ∧ old.persistedAt ≤ fill.persistedAt)
    (available : fill.executedAt ≤ fill.persistedAt)
    (valid : updated.validateOrder (store.expectedOrderId updated) = .ok ())
    (quantity : updated.filledQuantity = order.filledQuantity + fill.quantity)
    (updatedAt : updated.updatedAt = max order.updatedAt fill.persistedAt)
    (average : store.arithmetic.quantize (store.weightedPrice (fills ++ [fill]))
      store.executionPriceTick = some price)
    (averagePrice : updated.averageFillPrice = some price) :
    OrderTimeline store updated (fills ++ [fill]) where
  valid := valid
  sequences := by
    rw [map_append, timeline.sequences, length_append, length_singleton, range'_concat]
    simp [sequence, Nat.add_comm]
  quantity := by
    rw [map_append, sum_append, timeline.quantity, quantity]
    simp
  executed := by
    refine pairwise_append.mpr ⟨timeline.executed, by simp, ?_⟩
    intro old oldMem new newMem
    rw [mem_singleton.mp newMem]
    exact (later old oldMem).1
  persisted := by
    refine pairwise_append.mpr ⟨timeline.persisted, by simp, ?_⟩
    intro old oldMem new newMem
    rw [mem_singleton.mp newMem]
    exact (later old oldMem).2
  updated := by
    intro old mem
    rw [updatedAt]
    rcases mem_concat.mp mem with oldMem | rfl
    · obtain ⟨executed, persisted⟩ := timeline.updated old oldMem
      exact ⟨executed.trans (le_max_left _ _), persisted.trans (le_max_left _ _)⟩
    · exact ⟨available.trans (le_max_right _ _), le_max_right _ _⟩
  average := fun _ => ⟨price, average, averagePrice⟩

def FilledEntry (store : PaperBrokerStore) (ledger : Ledger) (intent : PaperOrderIntent) : Prop :=
  ∃ entrySignalId, intent.entrySignalId = some entrySignalId ∧
    ∃ entry ∈ ledger.intents, IsEntry store entrySignalId intent.tsCode entry ∧
      ∃ order ∈ ledger.orders.map OrderRow.identity,
        order.intentId = entry.intentId ∧ ∃ fill ∈ ledger.fills, fill.orderId = order.orderId

structure Timelines (store : PaperBrokerStore) (ledger : Ledger) : Prop where
  orders : ∀ order ∈ ledger.orders,
    OrderTimeline store order.toPaperOrder (ledger.orderFills order.orderId)
  receipts : ∀ row ∈ ledger.receipts, ReceiptSound store row row.executionId
  entries :
    ∀ intent ∈ ledger.intents, intent.payload.side = .sell → FilledEntry store ledger intent.payload

theorem timelines_openLedger : Timelines store store.openLedger where
  orders := by simp [openLedger]
  receipts := by simp [openLedger]
  entries := by simp [openLedger]

theorem FilledEntry.extends {intent : PaperOrderIntent} (entered : FilledEntry store ledger intent)
    (extended : Extends ledger result) (fills : ledger.fills <+: result.fills) :
    FilledEntry store result intent := by
  obtain ⟨entrySignalId, named, entry, entryMem, isEntry, order,
    orderMem, orderIntent, fill, fillMem, fillOrder⟩ := entered
  exact ⟨entrySignalId, named, entry, extended.intents.subset entryMem,
    isEntry, order, extended.orders.subset orderMem, orderIntent, fill,
    fills.subset fillMem, fillOrder⟩

theorem filledEntry_of_authorised {intent : PaperOrderIntent} {decisionTime : Time}
    {tradeDate : Date}
    (authorised :
      store.validateSellQuantityAuthority ledger intent decisionTime tradeDate = .ok ()) :
    FilledEntry store ledger intent := by
  unfold validateSellQuantityAuthority at authorised
  split at authorised
  swap
  · cases authorised
  rename_i authority entrySignalId hasAuthority hasEntry
  simp only [run_eq_ok] at authorised
  obtain ⟨-, _, positioned, -, -⟩ := authorised
  refine ⟨entrySignalId, hasEntry, ?_⟩
  unfold entryPositionAt at positioned
  split at positioned
  swap
  · cases positioned
  rename_i entry order rows
  simp only [run_eq_ok] at positioned
  obtain ⟨-, -, _, visibleEq, nonempty, -⟩ := positioned
  have rowMem : (entry, order) ∈ store.entryRows ledger entrySignalId intent.tsCode := by
    rw [rows]
    exact mem_singleton_self _
  obtain ⟨found, foundMem, orderMem⟩ := mem_flatMap.mp rowMem
  obtain ⟨kept, keptMem, paired⟩ := mem_map.mp orderMem
  obtain ⟨rfl, rfl⟩ := Prod.mk.inj paired
  obtain ⟨entryMem, isEntry⟩ := mem_filter.mp foundMem
  obtain ⟨orderMem, orderIntent⟩ := mem_filter.mp keptMem
  obtain ⟨fill, fillVisible⟩ := exists_mem_of_ne_nil _ nonempty
  have fillRead := mem_of_mem_visibleFills visibleEq fillVisible
  obtain ⟨fillMem, fillOrder⟩ := mem_filter.mp (mem_sortOn.mp fillRead)
  have entryColumns := of_decide_eq_true isEntry
  exact ⟨found, entryMem, entryColumns, kept, orderMem,
    of_decide_eq_true orderIntent, fill, fillMem, (of_decide_eq_true fillOrder).1⟩

/-! ## The step -/

theorem orderFills_append (fills : result.fills = ledger.fills ++ new) (orderId : Digest) :
    result.orderFills orderId =
      ledger.orderFills orderId ++ new.filter fun fill => fill.orderId = orderId := by
  rw [Ledger.orderFills, fills, filter_append]
  rfl

theorem Positions.orderFills_fresh (positions : Positions store ledger)
    (fresh : orderId ∉ ledger.orders.map (·.orderId)) :
    ledger.orderFills orderId = [] := by
  refine filter_of_none fun fill mem fillOrder => fresh ?_
  obtain ⟨_, _, belongs, -⟩ := positions.fills fill mem
  rw [← fillOrder, ← belongs.order_id]
  exact mem_map_of_mem belongs.order_mem

theorem settleOrder_updatedAt (order : PaperOrder) (fill : PaperFill) (persistedAt : Time) :
    (settleOrder order (some fill) persistedAt).updatedAt = max order.updatedAt persistedAt := by
  unfold settleOrder
  split
  · rename_i later
    exact (max_eq_right later.2.le).symm
  · rename_i settled
    exact (max_eq_left (not_lt.mp fun later => settled ⟨by simp, later⟩)).symm

/-- The first entries of an order's timeline, with the fill it opened with, if any. -/
theorem Opened.timeline {request : SubmitIntent} {fill : Option PaperFill}
    (opened : Opened store ledger request costs evaluatedOrder fill filled result)
    (exact : store.arithmetic = .exact) :
    OrderTimeline store (settleOrder evaluatedOrder fill request.persistenceTime)
      (fill.toList.map fun executed => recordedFill executed request.persistenceTime) := by
  have valid := opened.settledOrder_valid
  cases fill with
  | none =>
    have unfilled : evaluatedOrder.filledQuantity = 0 := by
      rcases evaluateIntent_cases opened.evaluated with
        ⟨-, unfilled⟩ | ⟨_, filledEq, -⟩
      · obtain ⟨_, rfl⟩ := unfilled.order_eq
        rfl
      · cases filledEq
    exact
      { valid := valid
        sequences := rfl
        quantity := unfilled.symm
        executed := List.Pairwise.nil
        persisted := List.Pairwise.nil
        updated := by simp
        average := fun nonempty => absurd rfl nonempty }
  | some executed =>
    have facts := opened.filledAtOnce
    have context := opened.fillContext
    have checked := prepareSubmission_eq_ok opened.prepared
    have priced := calculateExecutionCosts_priced checked.priced
    have filledQuantity : evaluatedOrder.filledQuantity = executed.quantity := by
      rw [facts.order_eq]
      rfl
    have averageFillPrice : evaluatedOrder.averageFillPrice = some costs.executedPrice := by
      rw [facts.order_eq]
      rfl
    have sequence : executed.sequence = 1 := congrArg PaperFill.sequence facts.fill_eq
    have price : executed.price = costs.executedPrice := congrArg PaperFill.price facts.fill_eq
    refine
      { valid := valid
        sequences := by simp [recordedFill, sequence]
        quantity := by simp [recordedFill, filledQuantity]
        executed := pairwise_singleton _ _
        persisted := pairwise_singleton _ _
        updated := ?_
        average := ?_ }
    · intro fill mem
      rw [settleOrder_updatedAt, mem_singleton.mp mem]
      exact ⟨context.persisted.trans (le_max_right _ _), le_max_right _ _⟩
    · intro _
      have weighted : store.weightedPrice [recordedFill executed request.persistenceTime] =
          costs.executedPrice := by
        have quantity_ne : (executed.quantity : ℚ) ≠ 0 := by exact_mod_cast facts.quantity_pos.ne'
        simp [weightedPrice, exact, recordedFill, mul_div_cancel_right₀ _ quantity_ne, price]
      refine ⟨costs.executedPrice, weighted ▸ priced.executedPrice_tick, ?_⟩
      rw [(settleOrder_keeps _ _ _).2.2.2.2.2, averageFillPrice]

section

variable (executed : Executed store ledger request costs row intent sequence averagePrice filled
  result)

include executed

theorem Executed.timeline
    (readBack : ReceiptSound store
      (executedReceiptRow store request costs row intent sequence averagePrice) request.executionId)
    (exact : store.arithmetic = .exact)
    (timeline : OrderTimeline store row.toPaperOrder (ledger.orderFills row.orderId)) :
    OrderTimeline store (incrementedOrder request row.toPaperOrder averagePrice)
      (ledger.orderFills row.orderId ++
        [recordedFill (incrementalFill store request costs sequence) request.persistenceTime]) := by
  obtain ⟨_, _, walked, executedLater, persistedLater⟩ := executed.executable.timeline
  obtain ⟨sequenceEq, later⟩ := incrementalFillTimeline_next walked executedLater persistedLater
  have rowId : row.orderId = request.orderId := (mem_of_orderRow executed.rowFound).2.2
  have orderFills : filled.orderFills request.orderId =
      ledger.orderFills row.orderId ++
        [recordedFill (incrementalFill store request costs sequence) request.persistenceTime] := by
    rw [orderFills_append (applyFill_fills executed.applied).2, rowId]
    simp [incrementalFill, draftFill, recordedFill]
  have quantity : ((filled.orderFills request.orderId).map fun fill => fill.quantity).sum =
      row.filledQuantity + request.quantity := by
    rw [orderFills, map_append, sum_append, timeline.quantity]
    simp [recordedFill, incrementalFill, draftFill]
  have averaged := executed.averaged
  rw [averageFillPrice, orRaise_eq_ok] at averaged
  refine timeline.append sequenceEq (fun old mem => ⟨(later old mem).1, (later old mem).2.1⟩)
    executed.fillContext.persisted
    (validateReceipt_eq_ok.mp readBack.valid).1 rfl rfl ?_ rfl
  rw [← orderFills, ← averaged, weightedPrice, quantity]
  simp [exact]

end

section

variable (timelines : Timelines store ledger)

include timelines

section

variable (audited : Audited store ledger)

include audited

theorem Timelines.opened {request : SubmitIntent} {fill : Option PaperFill}
    (exact : store.arithmetic = .exact)
    (opened : Opened store ledger request costs evaluatedOrder fill filled result) :
    Timelines store result := by
  have frame := opened.frame
  have extended := ((Change.opened opened).keeps audited.identities).toExtends
  have fillsPrefix : ledger.fills <+: result.fills := by
    rw [opened.fills_eq]
    exact prefix_append _ _
  have newFills :
      ∀ row ∈ fill.toList.map (fun executed => recordedFill executed request.persistenceTime),
        row.orderId = evaluatedOrder.orderId := by
    intro row mem
    obtain ⟨executed, executedMem, rfl⟩ := mem_map.mp mem
    obtain rfl : fill = some executed := Option.mem_toList.mp executedMem
    exact congrArg PaperFill.orderId opened.filledAtOnce.fill_eq
  constructor
  · intro order mem
    rw [orderFills_append opened.fills_eq]
    rw [opened.result_eq] at mem
    rcases mem_append.mp (frame.orders ▸ mem) with old | new
    · -- The new fill, if any, belongs to the new order.
      have different : order.orderId ≠ evaluatedOrder.orderId := fun same =>
        opened.newOrderId (same ▸ mem_map_of_mem old)
      rw [filter_of_none fun row rowMem sameOrder =>
        different (sameOrder.symm.trans (newFills row rowMem)), append_nil]
      exact timelines.orders order old
    · rw [mem_singleton.mp new]
      have sameId : (openedOrder request
          (settleOrder evaluatedOrder fill
            request.persistenceTime)).orderId = evaluatedOrder.orderId :=
        (settleOrder_keeps _ _ _).1
      have all_new : (fill.toList.map fun executed =>
            recordedFill executed request.persistenceTime).filter
              (fun row => row.orderId = evaluatedOrder.orderId) =
            fill.toList.map fun executed => recordedFill executed request.persistenceTime := by
        rw [filter_eq_self]
        intro row rowMem
        exact decide_eq_true (newFills row rowMem)
      rw [sameId, audited.positions.orderFills_fresh opened.newOrderId, all_new]
      exact opened.timeline exact
  · intro row mem
    rw [opened.result_eq] at mem
    rcases mem_concat.mp mem with old | rfl
    · exact timelines.receipts row (frame.receipts ▸ old)
    · exact opened.receipt_sound
  · intro intent mem sells
    rw [opened.result_eq] at mem
    rcases mem_append.mp (frame.intents ▸ mem) with old | new
    · exact (timelines.entries intent old sells).extends extended fillsPrefix
    · obtain rfl := mem_singleton.mp new
      exact (filledEntry_of_authorised (opened.authorised sells)).extends extended fillsPrefix

theorem Timelines.executed (exact : store.arithmetic = .exact)
    (executed : Executed store ledger request costs row intent sequence averagePrice filled result)
    (readBack : ReceiptSound store
      (executedReceiptRow store request costs row intent sequence
        averagePrice) request.executionId) :
    Timelines store result := by
  have frame := applyFill_frame executed.applied
  have extended := ((Change.executed executed).keeps audited.identities).toExtends
  have fillsEq := executed.fills_eq
  obtain ⟨rowMem, -, rowId⟩ := mem_of_orderRow executed.rowFound
  constructor
  · intro order mem
    rw [executed.result_eq] at mem
    obtain ⟨old, oldMem, changed⟩ := mem_updateKey.mp mem
    rw [frame.orders] at oldMem
    rw [orderFills_append fillsEq]
    rcases changed with ⟨sameId, rfl⟩ | ⟨otherId, rfl⟩
    · obtain rfl : old = row :=
        eq_of_key_eq audited.identities.orderIds oldMem rowMem (sameId.trans rowId.symm)
      have timeline := executed.timeline readBack exact (timelines.orders old rowMem)
      simpa [incrementedOrder, fillOrder, recordedFill, incrementalFill,
        draftFill, rowId] using timeline
    · have otherFill : [recordedFill (incrementalFill store request costs sequence)
          request.persistenceTime].filter (fun fill => fill.orderId = order.orderId) = [] := by
        simpa [recordedFill, incrementalFill, draftFill] using otherId.symm
      rw [otherFill, append_nil]
      exact timelines.orders order oldMem
  · intro receipt mem
    rw [executed.result_eq] at mem
    rcases mem_concat.mp mem with old | rfl
    · exact timelines.receipts receipt (frame.receipts ▸ old)
    · exact readBack
  · intro other mem sells
    rw [executed.result_eq] at mem
    refine (timelines.entries other (frame.intents ▸ mem) sells).extends extended ?_
    rw [fillsEq]
    exact prefix_append _ _

theorem Timelines.closed {request : CloseOpenOrder}
    (closed : Closed store ledger request row intent result)
    (readBack : ∀ order ∈ result.orders, order.orderId = request.orderId →
      order.toPaperOrder.validateOrder (store.expectedOrderId order.toPaperOrder) = .ok ()) :
    Timelines store result := by
  have extended := ((Change.closed closed).keeps audited.identities).toExtends
  obtain ⟨rowMem, -, rowId⟩ := mem_of_orderRow closed.rowFound
  constructor
  · intro order mem
    have valid := readBack order mem
    rw [closed.result_eq] at mem ⊢
    obtain ⟨old, oldMem, changed⟩ := mem_updateKey.mp mem
    rcases changed with ⟨sameId, rfl⟩ | ⟨-, rfl⟩
    · obtain rfl : old = row :=
        eq_of_key_eq audited.identities.orderIds oldMem rowMem (sameId.trans rowId.symm)
      have timeline := timelines.orders old oldMem
      refine
        { valid := valid sameId, sequences := timeline.sequences, quantity := timeline.quantity,
          executed := timeline.executed, persisted := timeline.persisted, updated := ?_,
          average := timeline.average }
      intro fill fillMem
      obtain ⟨executedAt, persistedAt⟩ := timeline.updated fill fillMem
      exact ⟨executedAt.trans (le_max_left _ _), persistedAt.trans (le_max_left _ _)⟩
    · exact timelines.orders order oldMem
  · rw [closed.result_eq]
    exact timelines.receipts
  · intro other mem sells
    have fills : result.fills = ledger.fills := by rw [closed.result_eq]
    rw [closed.result_eq] at mem
    exact (timelines.entries other mem sells).extends extended (by rw [fills])

theorem Timelines.settled (exact : store.arithmetic = .exact)
    (settled : Settled store ledger call result) :
    Timelines store result := by
  cases settled with
  | unchanged => exact timelines
  | opened facts => exact timelines.opened audited exact facts
  | executed facts readBack => exact timelines.executed audited exact facts readBack
  | closed facts readBack => exact timelines.closed audited facts readBack

end

end

end PaperBrokerStore

end RQuant.Paper
