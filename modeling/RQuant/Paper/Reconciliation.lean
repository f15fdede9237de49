import RQuant.Paper.Realized
import RQuant.Paper.Solvency
import RQuant.Paper.Timelines

/-!
# What the broker accepts reconciles

In exact arithmetic every ledger that calls lead to passes `reconcile`, as long
as no execution becomes available before its intent and no SELL is priced with
fees above cash and notional.  The calls themselves check neither.
-/

namespace RQuant.Paper

open Foundation List DecimalContext

variable {row : ReceiptRow} {result : Ledger} {fills : List FillRow} {call : Call} {lot : LotRow}

namespace PaperBrokerStore

variable {store : PaperBrokerStore}

/-- An incremental execution does not become available before the intent of its
order.  `submit_intent` writes both with one time. -/
def AvailableAfterIntent (store : PaperBrokerStore) (ledger : Ledger) : Call → Prop
  | .apply request =>
    ∀ order ∈ store.orderRow ledger request.orderId,
      ∀ intent ∈ ledger.intentRow order.intentId, intent.persistedAt ≤ request.persistenceTime
  | _ => True

instance (store : PaperBrokerStore) (ledger : Ledger) (call : Call) :
    Decidable (AvailableAfterIntent store ledger call) :=
  match call with
  | .apply _ => inferInstanceAs (Decidable (∀ _ ∈ _, ∀ _ ∈ _, _))
  | .submit _ => isTrue trivial
  | .close _ => isTrue trivial

/-- The two conditions that the audit relies on and no call checks. -/
def AuditSafe (store : PaperBrokerStore) (ledger : Ledger) (call : Call) : Prop :=
  AvailableAfterIntent store ledger call ∧ FeesCovered store ledger call

instance (store : PaperBrokerStore) (ledger : Ledger) (call : Call) :
    Decidable (AuditSafe store ledger call) :=
  inferInstanceAs (Decidable (_ ∧ _))

def FillsAvailable (ledger : Ledger) : Prop :=
  ∀ fill ∈ ledger.fills, ∃ order intent,
    FillOf ledger fill order intent ∧ intent.persistedAt ≤ fill.persistedAt

/-- Everything the audit looks at. -/
structure Reconcilable (store : PaperBrokerStore) (ledger : Ledger) : Prop where
  audited : Audited store ledger
  timelines : Timelines store ledger
  accumulated : Accumulated store ledger
  solvent : Solvent store ledger
  available : FillsAvailable ledger

variable {ledger : Ledger} {intent : IntentRow} {order : OrderRow} {item : AuditFill}
  {fill : PaperFill}

theorem FillsAvailable.append (available : FillsAvailable ledger) (extended : Extends ledger result)
    (fills : result.fills = ledger.fills ++ new)
    (added : ∀ fill ∈ new, ∃ order intent, FillOf result fill order intent ∧
      intent.persistedAt ≤ fill.persistedAt) :
    FillsAvailable result := by
  intro fill mem
  rw [fills] at mem
  rcases mem_append.mp mem with old | newMem
  · obtain ⟨order, intent, belongs, later⟩ := available fill old
    obtain ⟨kept, -, keptBelongs⟩ := belongs.grows extended.intents extended.orders
    exact ⟨kept, intent, keptBelongs, later⟩
  · exact added fill newMem

theorem FillsAvailable.settled (available : FillsAvailable ledger)
    (identities : Identities store ledger) (later : AvailableAfterIntent store ledger call)
    (settled : Settled store ledger call result) :
    FillsAvailable result := by
  cases settled with
  | unchanged => exact available
  | closed facts _ =>
    have fillsEq : result.fills = ledger.fills ++ [] := by
      rw [facts.result_eq, append_nil]
    exact available.append ((Change.closed facts).keeps identities).toExtends fillsEq (by simp)
  | @opened request costs evaluatedOrder fill filled _ facts =>
    refine available.append ((Change.opened facts).keeps identities).toExtends facts.fills_eq ?_
    intro row mem
    obtain ⟨executed, executedMem, rfl⟩ := mem_map.mp mem
    obtain rfl : fill = some executed := Option.mem_toList.mp executedMem
    exact ⟨_, _, facts.fillOf, le_rfl⟩
  | @executed request costs row intent sequence averagePrice filled _ facts
      _ =>
      have extended := ((Change.executed facts).keeps identities).toExtends
      refine available.append extended facts.fills_eq ?_
      intro fill mem
      rw [mem_singleton.mp mem]
      obtain ⟨kept, -, belongs⟩ := facts.fillContext.fillOf.grows extended.intents extended.orders
      exact ⟨kept, intent, belongs, later row facts.rowFound intent facts.intentFound⟩

theorem reconcilable_openLedger (exact : store.arithmetic = .exact) :
    Reconcilable store store.openLedger where
  audited := ⟨⟨identities_openLedger, positions_openLedger⟩, receipts_openLedger⟩
  timelines := timelines_openLedger
  accumulated := accumulated_openLedger
  solvent := ⟨⟨identities_openLedger, positions_openLedger⟩,
    store.initialCash.toRat_nonneg, by rw [exact]; rfl⟩
  available := by simp [FillsAvailable, openLedger]

theorem reconcilable_of_reachableBy (exact : store.arithmetic = .exact)
    (reachable : store.ReachableBy (AuditSafe store) ledger) :
    Reconcilable store ledger :=
  reachable.invariant (reconcilable_openLedger exact) <| by
    intro _ _ _ reconcilable safe succeeds
    have changed := succeeds.change
    have settled := succeeds.settled reconcilable.audited
    exact
      { audited := reconcilable.audited.change changed,
        timelines := reconcilable.timelines.settled reconcilable.audited exact settled,
        accumulated := reconcilable.accumulated.change changed,
        solvent := reconcilable.solvent.change safe.2 changed,
        available := reconcilable.available.settled reconcilable.audited.identities safe.1 settled }

theorem Identities.orderRow_of_mem (identities : Identities store ledger)
    (mem : order ∈ ledger.orders) :
    store.orderRow ledger order.orderId = some order := by
  have keys : (ledger.orders.map fun row => (row.accountId, row.orderId)).Nodup := by
    refine List.Nodup.of_map Prod.snd ?_
    rw [map_map]
    exact identities.orderIds
  obtain ⟨_, -, columns⟩ := identities.orders order mem
  have account : order.accountId = store.accountId := columns.accountId
  rw [orderRow, ← account]
  exact findKey_of_mem keys mem

theorem mem_auditOrders {item : AuditOrder} : item ∈ store.auditOrders ledger ↔
    item.row ∈ ledger.orders ∧ item.row.accountId = store.accountId ∧
      ledger.intentRow item.row.intentId = some item.intent := by
  simp only [auditOrders, mem_sortOn, mem_filterMap, mem_filter,
    decide_eq_true_eq, Option.bind_eq_bind, Option.bind_eq_some_iff,
    Option.pure_def, Option.some.injEq]
  constructor
  · rintro ⟨row, ⟨mem, account⟩, intent, found, rfl⟩
    exact ⟨mem, account, found⟩
  · rintro ⟨mem, account, found⟩
    exact ⟨item.row, ⟨mem, account⟩, item.intent, found, rfl⟩

theorem mem_auditFills : item ∈ store.auditFills ledger ↔
    item.row ∈ ledger.fills ∧ store.orderRow ledger item.row.orderId = some item.order ∧
      ledger.intentRow item.order.intentId = some item.intent := by
  simp only [auditFills, mem_sortOn, mem_filterMap, Option.bind_eq_bind,
    Option.bind_eq_some_iff, Option.pure_def, Option.some.injEq]
  constructor
  · rintro ⟨row, mem, order, orderFound, intent, intentFound, rfl⟩
    exact ⟨mem, orderFound, intentFound⟩
  · rintro ⟨mem, orderFound, intentFound⟩
    exact ⟨item.row, mem, item.order, orderFound, item.intent, intentFound, rfl⟩

theorem fillOf_of_mem_auditFills (mem : item ∈ store.auditFills ledger) :
    FillOf ledger item.row item.order item.intent := by
  obtain ⟨-, orderFound, intentFound⟩ := mem_auditFills.mp mem
  obtain ⟨orderMem, -, orderId⟩ := mem_of_orderRow orderFound
  obtain ⟨intentMem, intentId⟩ := mem_of_intentRow intentFound
  exact ⟨orderMem, orderId, intentMem, intentId⟩

theorem Booked.exists_auditFill (booked : Booked store ledger)
    {fill : FillRow} (mem : fill ∈ ledger.fills) :
    ∃ item ∈ store.auditFills ledger, item.row = fill := by
  obtain ⟨order, intent, belongs, -⟩ := booked.positions.fills fill mem
  refine ⟨⟨fill, order, intent⟩, mem_auditFills.mpr ⟨mem, ?_, ?_⟩, rfl⟩
  · rw [← belongs.order_id]
    exact booked.identities.orderRow_of_mem belongs.order_mem
  · rw [← belongs.intent_id]
    exact findKey_of_mem booked.identities.intentIds belongs.intent_mem

theorem Booked.auditFills_perm (booked : Booked store ledger) :
    ((store.auditFills ledger).map AuditFill.row).Perm ledger.fills := by
  refine ((perm_sortOn _).map AuditFill.row).trans ?_
  rw [map_filterMap_of_found]
  intro _ mem
  obtain ⟨item, itemMem, rfl⟩ := booked.exists_auditFill mem
  obtain ⟨-, orderFound, intentFound⟩ := mem_auditFills.mp itemMem
  exact ⟨item, by simp [orderFound, intentFound], rfl⟩

theorem Identities.exists_auditOrder (identities : Identities store ledger)
    (mem : intent ∈ ledger.intents) :
    ∃ item ∈ store.auditOrders ledger, item.intent = intent := by
  obtain ⟨order, orderMem, orderIntent⟩ := identities.ordered intent mem
  obtain ⟨_, -, columns⟩ := identities.orders order orderMem
  refine ⟨⟨order, intent⟩, mem_auditOrders.mpr ⟨orderMem, columns.accountId, ?_⟩, rfl⟩
  rw [orderIntent]
  exact findKey_of_mem identities.intentIds mem

section

variable (reconcilable : Reconcilable store ledger)

include reconcilable

theorem Reconcilable.auditOrderFills_eq (mem : order ∈ ledger.orders) :
    store.auditOrderFills ledger order.orderId = ledger.orderFills order.orderId :=
  sortOn_eq_of_perm (reconcilable.audited.auditFills_perm.filter _) <|
    (pairwise_map.mp ((reconcilable.timelines.orders order mem).sequences ▸ pairwise_lt_range')).imp
      fun smaller => Prod.Lex.toLex_lt_toLex.mpr (.inl smaller)

theorem Reconcilable.executionReceipt_eq (mem : row ∈ ledger.receipts) :
    store.executionReceipt ledger row.executionId = .ok (some row.receipt) :=
  executionReceipt_eq_some.mpr
    ⟨row, reconcilable.audited.receipts.receiptRow_of_mem mem, rfl,
      reconcilable.timelines.receipts row mem⟩

theorem Reconcilable.readableReceipt_eq (mem : row ∈ ledger.receipts) :
    store.readableReceipt ledger row.executionId = some row.receipt := by
  rw [readableReceipt, reconcilable.executionReceipt_eq mem]

end

theorem mem_receiptIds (receipts : Receipts store ledger) : executionId ∈ store.receiptIds ledger ↔
    ∃ row ∈ ledger.receipts, row.executionId = executionId := by
  simp only [receiptIds, mem_map, mem_filter, decide_eq_true_eq]
  constructor
  · rintro ⟨row, ⟨mem, -⟩, sameId⟩
    exact ⟨row, mem, sameId⟩
  · rintro ⟨row, mem, sameId⟩
    exact ⟨row, ⟨mem, receipts.account row mem⟩, sameId⟩

theorem Audited.auditReceiptIds_eq_nil (audited : Audited store ledger) :
    store.auditReceiptIds ledger = [] := by
  have receipts := audited.receipts
  rw [auditReceiptIds, reportUnless_eq_nil]
  constructor
  · intro executionId expected
    rw [mem_receiptIds receipts]
    rcases mem_append.mp expected with initial | filled
    · obtain ⟨item, mem, rfl⟩ := mem_map.mp initial
      obtain ⟨-, -, found⟩ := mem_auditOrders.mp mem
      obtain ⟨row, rowMem, receipt⟩ := receipts.intents item.intent (mem_of_intentRow found).1
      exact ⟨row, rowMem, receipt.executionId⟩
    · obtain ⟨item, mem, rfl⟩ := mem_map.mp filled
      obtain ⟨_, _, -, row, rowMem, receipt⟩ := receipts.fills item.row (mem_auditFills.mp mem).1
      exact ⟨row, rowMem, receipt.executionId⟩
  · intro executionId actual
    obtain ⟨row, mem, rfl⟩ := (mem_receiptIds receipts).mp actual
    rcases receipts.sources row mem with initial | filled
    · obtain ⟨intent, intentMem, sameId⟩ := mem_map.mp initial
      obtain ⟨item, itemMem, rfl⟩ := audited.identities.exists_auditOrder intentMem
      exact mem_append_left _ (mem_map.mpr ⟨item, itemMem, sameId⟩)
    · obtain ⟨_, fillMem, sameId⟩ := mem_map.mp filled
      obtain ⟨item, itemMem, rfl⟩ := audited.exists_auditFill fillMem
      exact mem_append_right _ (mem_map.mpr ⟨item, itemMem, sameId⟩)

theorem validateIntent_buy {intent : IntentFields} (valid : intent.validateIntent = .ok ())
    (buys : intent.side = .buy) :
    intent.entrySignalId = none := by
  simp only [run_eq_ok, IntentFields.validateIntent] at valid
  obtain ⟨-, -, -, -, absent, -⟩ := valid
  exact absent buys

theorem auditTimeline_eq_nil {order : PaperOrder}
    {previousExecutedAt previousPersistedAt : Option Time}
    (available : ∀ fill ∈ fills, fill.executedAt ≤ fill.persistedAt)
    (updated :
      ∀ fill ∈ fills, fill.executedAt ≤ order.updatedAt ∧ fill.persistedAt ≤ order.updatedAt)
    (executed : fills.Pairwise fun left right => left.executedAt ≤ right.executedAt)
    (persisted : fills.Pairwise fun left right => left.persistedAt ≤ right.persistedAt)
    (executedLater : ∀ previous ∈ previousExecutedAt, ∀ fill ∈ fills, previous ≤ fill.executedAt)
    (persistedLater :
      ∀ previous ∈ previousPersistedAt, ∀ fill ∈ fills, previous ≤ fill.persistedAt) :
    auditTimeline order previousExecutedAt previousPersistedAt fills = [] := by
  induction fills generalizing previousExecutedAt previousPersistedAt with
  | nil => rfl
  | cons head tail ih =>
    rw [pairwise_cons] at executed persisted
    have headUpdated := updated head (by simp)
    have tailPasses :
        auditTimeline order (some head.executedAt) (some head.persistedAt) tail = [] :=
      ih (fun fill mem => available fill (mem_cons_of_mem _ mem))
        (fun fill mem => updated fill (mem_cons_of_mem _ mem))
        executed.2 persisted.2
        (by rintro _ ⟨⟩; exact executed.1)
        (by rintro _ ⟨⟩; exact persisted.1)
    simp only [auditTimeline, append_eq_nil_iff, reportUnless_eq_nil]
    exact ⟨⟨⟨⟨⟨available head (by simp),
      fun previous known => executedLater previous known head (by simp)⟩,
      fun previous known => persistedLater previous known head (by simp)⟩,
      headUpdated.1⟩, headUpdated.2⟩, tailPasses⟩

theorem validateOrder_eq_ok {order : PaperOrder} (valid : order.validateOrder expectedId = .ok ()) :
    order.validateStatus = .ok () ∧ (0 < order.filledQuantity ↔ order.averageFillPrice ≠ none) := by
  simp only [run_eq_ok, PaperOrder.validateOrder] at valid
  obtain ⟨-, -, -, -, -, -, average, status, -, -⟩ := valid
  exact ⟨status, average⟩

theorem auditStatus_eq_nil {order : PaperOrder} (valid : order.validateStatus = .ok ()) :
    auditStatus order order.filledQuantity = [] := by
  unfold PaperOrder.validateStatus at valid
  unfold auditStatus
  cases status : order.status <;>
    simp only [run_eq_ok, status] at valid <;>
    simp only [reportUnless_eq_nil]
  case rejected => exact valid.1
  all_goals exact valid

theorem OrderTimeline.auditAverage_eq_ok {order : PaperOrder}
    (timeline : OrderTimeline store order fills) :
    store.auditAverage order fills = .ok [] := by
  obtain ⟨-, present⟩ := validateOrder_eq_ok timeline.valid
  cases fills with
  | nil =>
    have unfilled : order.filledQuantity = 0 := timeline.quantity.symm
    have absent : order.averageFillPrice = none := by
      by_contra known
      exact absurd (present.mpr known) (by omega)
    exact congrArg Except.ok (reportUnless_eq_nil.mpr absent)
  | cons head tail =>
    obtain ⟨_, average, priced⟩ := timeline.average (by simp)
    simp only [auditAverage, average, orRaise, ok_bind]
    exact congrArg Except.ok (reportUnless_eq_nil.mpr priced)

theorem Reconcilable.auditSellEntry_eq_nil (reconcilable : Reconcilable store ledger)
    (mem : intent ∈ ledger.intents) (order : PaperOrder) :
    store.auditSellEntry ledger intent.payload order = [] := by
  have identities := reconcilable.audited.identities
  unfold auditSellEntry
  cases side : intent.payload.side with
  | buy => rfl
  | sell =>
    obtain ⟨entrySignalId, named, entry, entryMem, isEntry, _,
      orderMem, orderIntent, fill, fillMem, fillOrder⟩ :=
      reconcilable.timelines.entries intent mem side
    obtain ⟨authority, sized, matched⟩ : ∃ authority,
        intent.payload.sellQuantityAuthority = some authority ∧ authority.Matches _ := by
      have valid := intent.payload.valid
      simp only [run_eq_ok, IntentFields.validateIntent] at valid
      obtain ⟨-, -, -, -, -, -, -, sized, rest⟩ := valid
      obtain ⟨authority, known⟩ := Option.ne_none_iff_exists'.mp (sized side)
      simp only [run_eq_ok, known] at rest
      exact ⟨authority, known, rest.2.1⟩
    have rows := entryRows_eq_singleton identities entryMem isEntry orderMem orderIntent
    obtain ⟨row, rowMem, rfl⟩ := mem_map.mp orderMem
    obtain ⟨owner, ownerMem, columns⟩ := identities.orders row rowMem
    obtain rfl : owner = entry :=
      eq_of_key_eq identities.intentIds ownerMem entryMem (columns.intentId.symm.trans orderIntent)
    have entryColumns := identities.intents owner entryMem
    have intentColumns := identities.intents intent mem
    have buys : owner.payload.side = .buy := entryColumns.side.symm.trans isEntry.2.2.2
    simp only [reconcileSellEntryProvenance, sized, named, rows,
      if_pos matched, reportUnless_eq_nil]
    exact
      ⟨buys, by rw [named, ← entryColumns.signalId, isEntry.2.2.1],
        by rw [entryColumns.payloadAccount, intentColumns.payloadAccount],
        by rw [← entryColumns.tsCode, isEntry.2.1],
        by rw [columns.accountId, intentColumns.payloadAccount],
        by rw [columns.tsCode, ← entryColumns.tsCode, isEntry.2.1],
        by rw [columns.side, buys],
        by rw [columns.entrySignalId, validateIntent_buy owner.payload.valid buys],
        fill, fillMem, fillOrder⟩

theorem OrderColumns.auditEntrySignal_eq_nil
    (columns : OrderColumns store intent order.identity) (orderId : Digest) :
    auditEntrySignal orderId order.entrySignalId intent.payload = [] := by
  have entry : order.entrySignalId = intent.payload.entrySignalId := columns.entrySignalId
  rw [auditEntrySignal, reportUnless_eq_nil, entry, expectedEntrySignalId]
  cases side : intent.payload.side with
  | buy => exact validateIntent_buy intent.payload.valid side
  | sell => rfl

theorem Reconcilable.auditInitialReceipt_eq_nil (reconcilable : Reconcilable store ledger)
    (mem : intent ∈ ledger.intents) (columns : OrderColumns store intent order.identity) :
    store.auditInitialReceipt ledger order.toPaperOrder intent = [] := by
  have intentColumns := reconcilable.audited.identities.intents intent mem
  obtain ⟨row, rowMem, initial⟩ := reconcilable.audited.receipts.intents intent mem
  have readable := reconcilable.readableReceipt_eq rowMem
  rw [initial.executionId] at readable
  have sameOrder : row.receipt.order.orderId = order.orderId :=
    initial.orderId.trans columns.orderId.symm
  simp only [auditInitialReceipt, readable, reportUnless_eq_nil]
  exact ⟨by rw [initial.intentId, intentColumns.intentId], sameOrder,
    by rw [initial.receiptFingerprint, initial.fingerprint]⟩

theorem Reconcilable.auditOrder_eq_ok (reconcilable : Reconcilable store ledger)
    {item : AuditOrder} (mem : item ∈ store.auditOrders ledger) :
    store.auditOrder ledger item = .ok [] := by
  have identities := reconcilable.audited.identities
  obtain ⟨rowMem, -, intentFound⟩ := mem_auditOrders.mp mem
  obtain ⟨intentMem, intentId⟩ := mem_of_intentRow intentFound
  obtain ⟨owner, ownerMem, columns⟩ := identities.orders item.row rowMem
  obtain rfl : owner = item.intent :=
    eq_of_key_eq identities.intentIds ownerMem intentMem (columns.intentId.symm.trans intentId.symm)
  have intentColumns := identities.intents _ intentMem
  have timeline := reconcilable.timelines.orders item.row rowMem
  have fillsEq := reconcilable.auditOrderFills_eq rowMem
  have sameIntent : store.auditOrderIntent item.row.toPaperOrder item.intent = [] := by
    rw [auditOrderIntent, reportUnless_eq_nil]
    exact ⟨intentColumns.intentId.symm.trans columns.intentId.symm,
      intentColumns.payloadAccount.trans columns.accountId.symm,
      columns.tsCode.symm, columns.side.symm, columns.orderType.symm,
      columns.quantity.symm, intentColumns.signalId,
      intentColumns.entrySignalId, intentColumns.tsCode, intentColumns.side⟩
  have times :
      auditTimeline item.row.toPaperOrder none none (ledger.orderFills item.row.orderId) = [] := by
    refine auditTimeline_eq_nil ?_ timeline.updated timeline.executed
      timeline.persisted (by simp) (by simp)
    intro _ fillMem
    exact reconcilable.audited.fill_persisted (mem_filter.mp fillMem).1
  have status : auditStatus item.row.toPaperOrder item.row.filledQuantity = [] :=
    auditStatus_eq_nil (validateOrder_eq_ok timeline.valid).1
  simp only [auditOrder, orderFromRow, timeline.valid, ok_bind, fillsEq,
    timeline.auditAverage_eq_ok, timeline.quantity, sameIntent,
    reconcilable.auditInitialReceipt_eq_nil intentMem columns, columns.auditEntrySignal_eq_nil,
    reconcilable.auditSellEntry_eq_nil intentMem, times, status, pure, Except.pure]
  simp [reportUnless, timeline.sequences]

/-! ## Fills pass -/

theorem Booked.auditFill_facts (booked : Booked store ledger)
    (mem : item ∈ store.auditFills ledger) :
    OrderColumns store item.intent item.order.identity ∧
      FillFacts store ledger item.order.identity item.intent item.row := by
  have belongs := fillOf_of_mem_auditFills mem
  obtain ⟨order, intent, otherBelongs, facts⟩ :=
    booked.positions.fills item.row (mem_auditFills.mp mem).1
  obtain ⟨rfl, rfl⟩ := otherBelongs.unique belongs booked.identities
  exact ⟨belongs.columns booked.identities, facts⟩

theorem Audited.fillReceipt (audited : Audited store ledger)
    (mem : item ∈ store.auditFills ledger) :
    ∃ row ∈ ledger.receipts, FillReceipt store item.intent item.row.toPaperFill row := by
  have belongs := fillOf_of_mem_auditFills mem
  obtain ⟨_, intent, otherBelongs, receipt⟩ :=
    audited.receipts.fills item.row (mem_auditFills.mp mem).1
  obtain ⟨rfl, rfl⟩ := otherBelongs.unique belongs audited.identities
  exact receipt

/-- The calculation of a readable receipt is made again without a report. -/
theorem FillReceipt.auditCosts_eq_ok (receipt : FillReceipt store intent fill row)
    (readable : store.readableReceipt ledger fill.executionId = some row.receipt) :
    store.auditCosts ledger intent.payload.side fill = .ok [] := by
  obtain ⟨_, _, _, _, fillEq⟩ := receipt.priced
  have described : CostsDescribe row.receipt.costCalculation intent.payload.side fill := by
    refine ⟨receipt.side, receipt.quantity, ?_, ?_⟩ <;> rw [fillEq] <;> rfl
  simp only [auditCosts, readable, if_pos described, receipt.recalculated]
  refine congrArg Except.ok (reportUnless_eq_nil.mpr ⟨trivial, ?_, ?_, ?_, ?_, ?_⟩) <;>
    rw [fillEq] <;> rfl

theorem Audited.auditCosts_ok (audited : Audited store ledger)
    (mem : item ∈ store.auditFills ledger) :
    ∃ errors,
      store.auditCosts ledger item.intent.payload.side item.row.toPaperFill = .ok errors := by
  obtain ⟨row, rowMem, receipt⟩ := audited.fillReceipt mem
  cases readable : store.readableReceipt ledger item.row.toPaperFill.executionId with
  | none => exact ⟨_, by simp only [auditCosts, readable]; rfl⟩
  | some stored =>
    have found := audited.receipts.receiptRow_of_mem rowMem
    have read : store.executionReceipt ledger row.executionId = .ok (some stored) := by
      rw [receipt.executionId]
      unfold readableReceipt at readable
      split at readable
      · rename_i receipt' read
        rw [read, readable]
      · cases readable
    obtain ⟨other, otherFound, rfl, -⟩ := executionReceipt_eq_some.mp read
    obtain rfl : row = other := Option.some.inj (found.symm.trans otherFound)
    exact ⟨[], receipt.auditCosts_eq_ok readable⟩

/-- The audit of a fill adds its reports and moves the two balances. -/
def AuditedWith (store : PaperBrokerStore) (ledger : Ledger) (item : AuditFill)
    (reports : List String) : Prop :=
  ∀ audit : FillAudit, store.auditFill ledger audit item =
    .ok
      { errors := audit.errors ++ reports
        cash := store.auditCash audit.cash item.order.side item.row.toPaperFill
        realizedPnl := store.auditRealized ledger audit.realizedPnl item.order.side
          item.row.toPaperFill }

theorem Audited.auditedWith (audited : Audited store ledger) (mem : item ∈ store.auditFills ledger)
    (recalculated :
      store.auditCosts ledger item.intent.payload.side item.row.toPaperFill = .ok costs) :
    AuditedWith store ledger item
      (store.auditFillReceipt ledger item.row.toPaperFill ++ costs ++ auditAvailability item ++
        auditEntrySignal item.row.orderId item.order.entrySignalId item.intent.payload ++
        auditHolding ledger item) := by
  intro _
  obtain ⟨columns, facts⟩ := audited.auditFill_facts mem
  have side : item.order.side = item.intent.payload.side := columns.side
  rw [← side] at recalculated
  simp only [auditFill, fillFromRow, facts.valid, ok_bind, recalculated, pure, Except.pure]

section

variable (booked : Booked store ledger)

include booked

theorem Booked.lot_of_buy (mem : item ∈ store.auditFills ledger)
    (buys : item.intent.payload.side = .buy) :
    ∃ lot, findKey LotRow.lotId item.row.fillId ledger.lots = some lot ∧
      Acquired store item.intent item.row lot := by
  have positions := booked.positions
  obtain ⟨-, facts⟩ := booked.auditFill_facts mem
  obtain ⟨lot, lotMem, lotId⟩ := facts.buys buys
  obtain ⟨fill, otherMem, _, intent, belongs, acquired⟩ := positions.lots lot lotMem
  obtain ⟨_, -, lotEq⟩ := acquired.lot_eq
  have acquiredId : lot.lotId = fill.fillId := congrArg LotRow.lotId lotEq
  obtain rfl : fill = item.row := eq_of_key_eq positions.fillIds otherMem (mem_auditFills.mp mem).1
    (acquiredId.symm.trans lotId)
  obtain ⟨-, rfl⟩ := belongs.unique (fillOf_of_mem_auditFills mem) booked.identities
  rw [← lotId]
  exact ⟨lot, findKey_of_mem positions.lotIds lotMem, acquired⟩

theorem Booked.auditLot_eq_nil (mem : item ∈ store.auditFills ledger)
    (buys : item.intent.payload.side = .buy) :
    auditLot ledger item = [] := by
  obtain ⟨lot, found, acquired⟩ := booked.lot_of_buy mem buys
  obtain ⟨_, -, lotEq⟩ := acquired.lot_eq
  have intentColumns := booked.identities.intents _ (fillOf_of_mem_auditFills mem).intent_mem
  have quantity : lot.originalQuantity = item.row.quantity := congrArg LotRow.originalQuantity lotEq
  have account : lot.accountId = item.intent.payload.accountId :=
    (congrArg LotRow.accountId lotEq).trans intentColumns.payloadAccount.symm
  simp only [auditLot, found, if_pos quantity, append_eq_nil_iff, reportUnless_eq_nil]
  exact ⟨⟨⟨congrArg LotRow.entrySignalId lotEq, account,
    congrArg LotRow.tsCode lotEq⟩, congrArg LotRow.persistedAt lotEq⟩,
    congrArg LotRow.buyExecutedAt lotEq, congrArg LotRow.buyPersistedAt lotEq,
    congrArg LotRow.buyFillSequence lotEq⟩

theorem Booked.lot_account (mem : lot ∈ ledger.lots) : lot.accountId = store.accountId := by
  obtain ⟨_, _, _, _, _, acquired⟩ := booked.positions.lots lot mem
  obtain ⟨_, -, lotEq⟩ := acquired.lot_eq
  exact congrArg LotRow.accountId lotEq

section

variable (mem : item ∈ store.auditFills ledger)

include mem

theorem Booked.consumed_of_mem (allocated : allocation ∈ fillAllocations ledger item.row.fillId) :
    allocation.2 ∈ ledger.lots ∧ Consumed store item.intent item.row allocation.2 allocation.1 := by
  have positions := booked.positions
  simp only [fillAllocations, mem_filterMap, mem_filter,
    decide_eq_true_eq, Option.bind_eq_bind, Option.bind_eq_some_iff,
    Option.pure_def, Option.some.injEq] at allocated
  obtain ⟨row, ⟨rowMem, rowFill⟩, lot, found, rfl⟩ := allocated
  obtain ⟨lotMem, lotId⟩ := mem_of_findKey found
  obtain ⟨fill, fillMem, _, intent, belongs, other, otherLot,
    consumed⟩ := positions.consumptions row rowMem
  obtain rfl : fill = item.row := eq_of_key_eq positions.fillIds fillMem (mem_auditFills.mp mem).1
    (consumed.fillId.symm.trans rowFill)
  obtain rfl : other = lot :=
    eq_of_key_eq positions.lotIds otherLot lotMem (consumed.lotId.symm.trans lotId.symm)
  obtain ⟨-, rfl⟩ := belongs.unique (fillOf_of_mem_auditFills mem) booked.identities
  exact ⟨lotMem, consumed⟩

/-- The consumptions of a SELL fill were made from lots of its position. -/
theorem Booked.auditAllocations_eq_nil (sells : item.intent.payload.side = .sell) :
    auditAllocations ledger item = [] := by
  have belongs := fillOf_of_mem_auditFills mem
  have intentColumns := booked.identities.intents _ belongs.intent_mem
  obtain ⟨-, facts⟩ := booked.auditFill_facts mem
  simp only [auditAllocations, append_eq_nil_iff, reportUnless_eq_nil, flatMap_eq_nil_iff]
  constructor
  · rw [← facts.sells sells, consumedBy,
      ← booked.positions.fillAllocations_fst item.row.fillId, map_map]
    rfl
  · intro _ allocated
    obtain ⟨lotMem, consumed⟩ := booked.consumed_of_mem mem allocated
    simp only [auditAllocation, append_eq_nil_iff, reportUnless_eq_nil]
    exact ⟨consumed.persistedAt, consumed.entrySignalId,
      (booked.lot_account lotMem).trans intentColumns.payloadAccount.symm, consumed.tsCode⟩

theorem Booked.auditHolding_eq_nil : auditHolding ledger item = [] := by
  obtain ⟨columns, -⟩ := booked.auditFill_facts mem
  have side : item.order.side = item.intent.payload.side := columns.side
  rw [auditHolding, side]
  cases payloadSide : item.intent.payload.side with
  | buy => exact booked.auditLot_eq_nil mem payloadSide
  | sell => exact booked.auditAllocations_eq_nil mem payloadSide

end

end

theorem Reconcilable.auditedWith_nil (reconcilable : Reconcilable store ledger)
    (mem : item ∈ store.auditFills ledger) :
    AuditedWith store ledger item [] := by
  have audited := reconcilable.audited
  obtain ⟨columns, facts⟩ := audited.auditFill_facts mem
  obtain ⟨row, rowMem, receipt⟩ := audited.fillReceipt mem
  have readable := reconcilable.readableReceipt_eq rowMem
  rw [receipt.executionId] at readable
  have sameReceipt : store.auditFillReceipt ledger item.row.toPaperFill = [] :=
    reportUnless_eq_nil.mpr ⟨row.receipt, readable, receipt.fill_eq⟩
  have available : auditAvailability item = [] := by
    obtain ⟨_, _, belongs, later⟩ := reconcilable.available item.row (mem_auditFills.mp mem).1
    obtain ⟨rfl, rfl⟩ := belongs.unique (fillOf_of_mem_auditFills mem) audited.identities
    simp only [auditAvailability, append_eq_nil_iff, reportUnless_eq_nil]
    exact ⟨facts.persisted, later⟩
  have auditedFill := audited.auditedWith mem (receipt.auditCosts_eq_ok readable)
  rw [sameReceipt, available, columns.auditEntrySignal_eq_nil,
    audited.auditHolding_eq_nil mem] at auditedFill
  exact auditedFill

theorem foldlM_auditFill {items : List AuditFill} {reports : AuditFill → List String}
    (passes : ∀ item ∈ items, AuditedWith store ledger item (reports item)) (audit : FillAudit) :
    items.foldlM (store.auditFill ledger) audit =
      .ok
        { errors := audit.errors ++ items.flatMap reports
          cash := items.foldl
            (fun cash item => store.auditCash cash item.order.side item.row.toPaperFill)
            audit.cash
          realizedPnl := items.foldl
            (fun realizedPnl item =>
              store.auditRealized ledger realizedPnl item.order.side item.row.toPaperFill)
            audit.realizedPnl } := by
  induction items generalizing audit with
  | nil => simp [pure, Except.pure]
  | cons head tail ih =>
    rw [foldlM_cons, passes head (by simp), ok_bind,
      ih fun item mem => passes item (mem_cons_of_mem _ mem)]
    simp

theorem Booked.fillSide_of_mem (booked : Booked store ledger)
    (mem : item ∈ store.auditFills ledger) :
    ledger.fillSide item.row = some item.order.side := by
  have belongs := fillOf_of_mem_auditFills mem
  obtain ⟨columns, -⟩ := booked.auditFill_facts mem
  rw [belongs.fillSide booked.identities]
  exact congrArg some columns.side.symm

def realizedAfterFill (store : PaperBrokerStore) (ledger : Ledger) (realizedPnl : ℚ)
    (fill : FillRow) : ℚ :=
  match ledger.fillSide fill with
  | some side => store.auditRealized ledger realizedPnl side fill.toPaperFill
  | none => realizedPnl

theorem Booked.auditRealized_fold (booked : Booked store ledger) (start : ℚ) :
    (store.auditFills ledger).foldl
        (fun realizedPnl item =>
          store.auditRealized ledger realizedPnl item.order.side item.row.toPaperFill) start =
      ((store.auditFills ledger).map AuditFill.row).foldl
        (store.realizedAfterFill ledger) start := by
  rw [foldl_map]
  apply foldl_ext
  intro realizedPnl item mem
  rw [realizedAfterFill, booked.fillSide_of_mem mem]

section

variable (reconcilable : Reconcilable store ledger)

include reconcilable

section

variable (exact : store.arithmetic = .exact)

include exact

theorem Reconcilable.cash_eq : ledger.account.cash =
    (store.auditFills ledger).foldl
      (fun cash item => store.auditCash cash item.order.side item.row.toPaperFill)
      ledger.account.initialCash := by
  have booked := reconcilable.accumulated.booked
  have commutes : RightCommutative (store.cashAfter ledger) := by
    constructor
    intro cash left right
    unfold cashAfter auditCash
    rcases ledger.fillSide left with _ | _ | _ <;>
      rcases ledger.fillSide right with _ | _ | _ <;> try rfl
    all_goals
      simp only [exact, exact_add, exact_sub]
      ring
  rw [booked.identities.initialCash, reconcilable.accumulated.cash,
    ← booked.auditFills_perm.foldl_eq, foldl_map]
  apply foldl_ext
  intro cash item mem
  rw [cashAfter, booked.fillSide_of_mem mem]

theorem Reconcilable.realizedPnl_eq : ledger.account.realizedPnl =
    (store.auditFills ledger).foldl
      (fun realizedPnl item =>
        store.auditRealized ledger realizedPnl item.order.side item.row.toPaperFill) 0 := by
  have booked := reconcilable.accumulated.booked
  have sameStep : ∀ realizedPnl, ∀ fill ∈ ledger.fills, (if ledger.fillSide fill = some .sell then
      store.realizedAfter ledger realizedPnl fill else realizedPnl) =
      store.realizedAfterFill ledger realizedPnl fill := by
    intro realizedPnl fill _
    unfold realizedAfterFill auditRealized realizedAfter
    cases ledger.fillSide fill with
    | none => rfl
    | some side =>
      cases side with
      | buy => rfl
      | sell =>
        simp only [exact, exact_add, exact_sub, if_pos]
        ring
  have commutes : RightCommutative (store.realizedAfterFill ledger) := by
    constructor
    intro realizedPnl left right
    unfold realizedAfterFill auditRealized
    rcases ledger.fillSide left with _ | _ | _ <;>
      rcases ledger.fillSide right with _ | _ | _ <;> try rfl
    simp only [exact, exact_add, exact_sub]
    ring
  rw [booked.auditRealized_fold, reconcilable.accumulated.realizedPnl, Ledger.fillsOf, foldl_filter]
  simp only [decide_eq_true_eq]
  rw [foldl_ext _ _ _ sameStep]
  exact (booked.auditFills_perm.foldl_eq _).symm

/-! ## The audit passes -/

theorem Reconcilable.auditAllFills_eq_ok : store.auditAllFills ledger =
    .ok
      { errors := [], cash := ledger.account.cash,
        realizedPnl := ledger.account.realizedPnl } := by
  have passes : ∀ item ∈ store.auditFills ledger, AuditedWith store ledger item [] :=
    fun item mem => reconcilable.auditedWith_nil mem
  rw [auditAllFills, foldlM_auditFill passes, ← reconcilable.cash_eq exact,
    ← reconcilable.realizedPnl_eq exact]
  simp

theorem Reconcilable.reconcile_eq_ok : store.reconcile ledger =
    .ok
      { accountId := store.accountId, orderCount := (store.auditOrders ledger).length,
        fillCount := (store.auditFills ledger).length,
        openLotQuantity := lotQuantity (store.accountLots ledger), cash := ledger.account.cash,
        realizedPnl := ledger.account.realizedPnl } := by
  have identities := reconcilable.audited.identities
  have receipts : (sortOn (fun executionId : Digest => executionId)
        (store.receiptIds ledger).dedup).mapM (store.auditReceipt ledger) =
      .ok
        ((sortOn (fun executionId : Digest => executionId)
          (store.receiptIds ledger).dedup).map fun _ => []) :=
    mapM_eq_ok fun executionId mem => by
      rw [mem_sortOn, mem_dedup, mem_receiptIds reconcilable.audited.receipts] at mem
      obtain ⟨_, rowMem, rfl⟩ := mem
      rw [auditReceipt, reconcilable.executionReceipt_eq rowMem]
  have orders : (store.auditOrders ledger).mapM (store.auditOrder ledger) =
      .ok ((store.auditOrders ledger).map fun _ => []) :=
    mapM_eq_ok fun item mem => reconcilable.auditOrder_eq_ok mem
  have lots : (store.accountLots ledger).flatMap (auditLotQuantity ledger) = [] := by
    rw [flatMap_eq_nil_iff]
    intro lot mem
    exact reportUnless_eq_nil.mpr
      (reconcilable.audited.positions.remaining lot (mem_filter.mp mem).1)
  have noReports :
      ∀ {α : Type} (items : List α), (items.map fun _ => ([] : List String)).flatten = [] := by
    intro α items
    simp
  simp only [reconcile, receipts, orders,
    reconcilable.auditAllFills_eq_ok exact, ok_bind, noReports,
    reconcilable.audited.auditReceiptIds_eq_nil, lots]
  rw [require_of identities.accountId, require_of identities.costSpecId,
    require_of store.accountId_ne, require_of reconcilable.solvent.nonneg]
  simp [reportUnless, require, ok_bind, pure, Except.pure]

end

end

/-- In exact arithmetic, when no execution becomes available before its intent
and no SELL is priced with fees above cash and notional, every ledger reached
passes `reconcile`. -/
theorem reachable_reconciles {ledger : Ledger} (exact : store.arithmetic = .exact)
    (reachable : store.ReachableBy (AuditSafe store) ledger) :
    ∃ reconciliation, store.reconcile ledger = .ok reconciliation ∧
      reconciliation.cash = ledger.account.cash ∧
      reconciliation.realizedPnl = ledger.account.realizedPnl := by
  have reconcilable := reconcilable_of_reachableBy exact reachable
  exact ⟨_, reconcilable.reconcile_eq_ok exact, rfl, rfl⟩

/-- A BUY filled in two parts and closed, and a partial SELL. -/
theorem reachable_reconciles_sample :
    let store := Sample.store .exact ⟨5, 0⟩
    let ledger :=
      store.ledgerAfter (AuditSafe store)
        [Sample.submit (Sample.buyIntent 1 3 0) 1000 (some 1) 0 none,
          Sample.execute 1101 8 1010 1 1 none,
          .close { orderId := 1101, status := .cancelled, decidedAt := 2, persistedAt := none },
          Sample.submit (Sample.halfIntent 2 1 Sample.day) 1100 none Sample.day none]
    ledger.fills.length = 3 ∧
      ∃ reconciliation, store.reconcile ledger = .ok reconciliation ∧
        reconciliation.cash = ledger.account.cash ∧
        reconciliation.realizedPnl = ledger.account.realizedPnl :=
  ⟨by decide +kernel, reachable_reconciles rfl (reachableBy_ledgerAfter _ _ _)⟩

/-- An intent persisted at 20 is executed at 15, available at once; and a SELL
whose commission exceeds cash and notional.  All calls succeed. -/
theorem accepted_ledgers_fail_audit :
    let early := Sample.store .exact ⟨5, 0⟩
    let overdrawn := Sample.store .exact ⟨1000, 0⟩
    (∃ ledger, early.Reachable ledger ∧ ∃ fillId,
      early.reconcile ledger =
        .error (.reconciliation ("fill " ++ hex fillId ++ " availability precedes its intent"))) ∧
      ∃ ledger, overdrawn.Reachable ledger ∧
        overdrawn.reconcile ledger = .error (.valueError "cash") :=
  ⟨⟨_,
      reachable_ledgerOf _
        [Sample.submit (Sample.buyIntent 1 2 100) 1000 none 10 (some 20),
          Sample.execute 1101 8 1000 1 15 (some 15)],
      110100008, by decide +kernel⟩,
    ⟨_,
      reachable_ledgerOf _
        [Sample.submit (Sample.buyIntent 1 99 0) 1000 none 0 none,
          Sample.submit (Sample.exitIntent 2 1 99 Sample.day) 100 (some 1) Sample.day none],
      by decide +kernel⟩⟩

end PaperBrokerStore

end RQuant.Paper
