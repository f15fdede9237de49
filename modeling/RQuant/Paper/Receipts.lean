import RQuant.Paper.Positions

/-!
# Execution receipts

Every intent and every fill has exactly one receipt.  A receipt written by
`submit_intent` always reads back; one written by `apply_execution` when its
updated order is valid, which a successful call has checked.
-/

namespace RQuant.Paper

open Foundation List

variable {filled result : Ledger} {receipt : PaperExecutionReceipt} {call : Call}

namespace PaperBrokerStore

variable {store : PaperBrokerStore}
  {row : ReceiptRow} {executionId : Digest} {ledger : Ledger} {fill : Option PaperFill}
  {request : SubmitIntent} {costs : ExecutionCostCalculation} {evaluatedOrder : PaperOrder}
  {intent : IntentRow} {sequence : ℕ} {averagePrice : ℚ}

/-- A parsed receipt has a valid order, fill and cost calculation that belong
together. -/
theorem validateReceipt_eq_ok : store.validateReceipt receipt = .ok () ↔
    receipt.order.validateOrder (store.expectedOrderId receipt.order) = .ok () ∧
      (∀ fill ∈ receipt.fill,
        fill.validateFill store.arithmetic (store.expectedFillId fill) = .ok ()) ∧
      receipt.costCalculation.validateComponentSum store.arithmetic = .ok () ∧
      receipt.validateExecution = .ok () := by
  unfold validateReceipt
  cases filled : receipt.fill with
  | none =>
    simp only [run_eq_ok]
    simp
  | some fill => simp only [run_eq_ok, Option.mem_some_iff, forall_eq']

/-- A stored receipt is valid and agrees with its columns and its request. -/
structure ReceiptSound (store : PaperBrokerStore) (row : ReceiptRow) (executionId : Digest) :
    Prop where
  valid : store.validateReceipt row.receipt = .ok ()
  columns : store.digests.requestFingerprint row.request = row.requestFingerprint ∧
    row.receipt.executionId = executionId ∧
    row.receipt.requestFingerprint = row.requestFingerprint ∧
    row.receipt.intentId = row.intentId ∧
    row.receipt.order.orderId = row.orderId ∧
    row.receipt.order.accountId = store.accountId ∧
    row.receipt.persistedAt = row.persistedAt
  costs : row.receipt.costSpecId = row.costSpecId ∧
    row.receipt.costContextFingerprint = row.costContextFingerprint ∧
    row.receipt.costCalculation.transferFee = row.transferFee ∧
    row.receipt.costCalculation.totalFees = row.totalFees ∧
    row.request.costEvidence = store.costEvidence row.receipt.costCalculation
  identity : row.request.executionId = row.receipt.executionId ∧
    row.request.persistedAt = row.receipt.persistedAt
  request : RequestMatches row.request row.receipt

theorem receiptFromRow_eq_ok : store.receiptFromRow row executionId = .ok receipt ↔
    receipt = row.receipt ∧ ReceiptSound store row executionId := by
  unfold receiptFromRow
  cases valid : store.validateReceipt row.receipt with
  | error raised =>
    simp only [bind_eq_ok, throw_ne_ok, false_and, exists_false, false_iff, not_and]
    rintro - sound
    rw [sound.valid] at valid
    cases valid
  | ok done =>
    simp only [run_eq_ok]
    constructor
    · rintro ⟨columns, costs, identity, request, rfl⟩
      exact ⟨rfl, valid, columns, costs, identity, request⟩
    · rintro ⟨rfl, sound⟩
      exact ⟨sound.columns, sound.costs, sound.identity, sound.request, rfl⟩

theorem executionReceipt_eq_some : store.executionReceipt ledger executionId = .ok (some receipt) ↔
    ∃ row, store.receiptRow ledger executionId = some row ∧
      receipt = row.receipt ∧ ReceiptSound store row executionId := by
  unfold executionReceipt
  cases found : store.receiptRow ledger executionId with
  | none => simp
  | some row =>
    simp only [run_eq_ok, Option.some.injEq, receiptFromRow_eq_ok]
    constructor
    · rintro ⟨_, ⟨rfl, sound⟩, rfl⟩
      exact ⟨row, rfl, rfl, sound⟩
    · rintro ⟨_, rfl, rfl, sound⟩
      exact ⟨_, ⟨rfl, sound⟩, rfl⟩

section

variable (opened : Opened store ledger request costs evaluatedOrder fill filled result)

include opened

theorem Opened.order_valid :
    evaluatedOrder.validateOrder (store.expectedOrderId evaluatedOrder) = .ok () := by
  rcases evaluateIntent_cases opened.evaluated with
    ⟨-, unfilled⟩ | ⟨_, -, filledAtOnce⟩
  · exact unfilled.valid
  · exact filledAtOnce.orderValid

theorem Opened.order_created : evaluatedOrder.createdAt = request.decisionTime ∧
    evaluatedOrder.accountId = store.accountId := by
  obtain ⟨_, _, _, _, rfl⟩ := opened.drafted
  exact ⟨rfl, rfl⟩

end

/-- The receipt row `submit_intent` writes. -/
def openedReceiptRow (store : PaperBrokerStore) (request : SubmitIntent)
    (costs : ExecutionCostCalculation) (evaluatedOrder : PaperOrder)
    (fill : Option PaperFill) : ReceiptRow :=
  store.storedReceipt (store.initialRequest request costs)
    (openedReceipt store request costs
      (settleOrder evaluatedOrder fill request.persistenceTime) fill)

theorem Opened.settledOrder_valid
    (opened : Opened store ledger request costs evaluatedOrder fill filled result) :
    (settleOrder evaluatedOrder fill request.persistenceTime).validateOrder
        (store.expectedOrderId (settleOrder evaluatedOrder fill request.persistenceTime)) =
      .ok () := by
  have valid := opened.order_valid
  unfold settleOrder
  split_ifs with later
  · change PaperOrder.validateOrder _ (store.expectedOrderId evaluatedOrder) = _
    simp only [run_eq_ok, PaperOrder.validateOrder] at valid ⊢
    obtain ⟨account, quantity, filled, price, bound, created, average,
      status, reason, orderId⟩ := valid
    exact ⟨account, quantity, filled, price, bound,
      created.trans later.2.le, average, status, reason, orderId⟩
  · exact valid

theorem Opened.receipt_sound
    (opened : Opened store ledger request costs evaluatedOrder fill filled result) :
    ReceiptSound store (openedReceiptRow store request costs evaluatedOrder fill)
      (store.resolvedExecutionId request) := by
  have checked := prepareSubmission_eq_ok opened.prepared
  have priced := calculateExecutionCosts_priced checked.priced
  obtain ⟨created, account⟩ := opened.order_created
  refine
    { valid := ?_, columns := ⟨rfl, rfl, rfl, rfl, rfl, ?_, rfl⟩,
      costs := ⟨rfl, rfl, rfl, rfl, rfl⟩, identity := ⟨rfl, rfl⟩, request := ⟨rfl, ?_, ?_⟩ }
  · refine validateReceipt_eq_ok.mpr
      ⟨opened.settledOrder_valid, ?_, priced.valid, opened.receiptValid⟩
    intro executed mem
    obtain rfl : fill = some executed := mem
    exact opened.filledAtOnce.fillValid
  · exact (settleOrder_keeps _ _ _).2.2.1.trans account
  · exact ((settleOrder_keeps _ _ _).2.2.2.1.trans created).symm
  · intro executed mem
    obtain rfl : fill = some executed := mem
    have executedAt : executed.executedAt = request.decisionTime :=
      congrArg PaperFill.executedAt opened.filledAtOnce.fill_eq
    rw [executedAt]
    exact ((settleOrder_keeps _ _ _).2.2.2.1.trans created).symm

section

variable (store : PaperBrokerStore)

/-- The receipt row `apply_execution` writes. -/
def executedReceiptRow (request : ApplyExecution)
    (costs : ExecutionCostCalculation) (row : OrderRow) (intent : IntentRow)
    (sequence : ℕ) (averagePrice : ℚ) : ReceiptRow :=
  store.storedReceipt (store.incrementalRequest request costs)
    (incrementalReceipt store request costs intent.payload sequence
      (incrementedOrder request row.toPaperOrder averagePrice))

structure InitialReceipt (intent : IntentRow) (row : ReceiptRow) : Prop where
  executionId : row.executionId = intent.initialExecutionId
  fingerprint : row.requestFingerprint = intent.initialExecutionRequestFingerprint
  receiptFingerprint : row.receipt.requestFingerprint = row.requestFingerprint
  intentId : row.receipt.intentId = intent.intentId
  orderId : row.receipt.order.orderId = store.digests.orderId store.accountId intent.intentId

/-- The receipt of a fill, with the calculation it was priced by. -/
structure FillReceipt (intent : IntentRow) (fill : PaperFill) (row : ReceiptRow) : Prop where
  executionId : row.executionId = fill.executionId
  fill_eq : row.receipt.fill = some fill
  side : row.receipt.costCalculation.orderInput.side = intent.payload.side
  quantity : row.receipt.costCalculation.orderInput.quantity = fill.quantity
  recalculated : calculateExecutionCosts store.arithmetic store.digests.toCostDigests
    store.spec row.receipt.costCalculation.orderInput
    row.receipt.costCalculation.instrumentContext = .ok row.receipt.costCalculation
  priced : ∃ orderId sequence executedAt snapshotId, fill =
    store.draftFill orderId fill.executionId sequence fill.quantity
      row.receipt.costCalculation executedAt snapshotId

/-- One receipt for every intent and every fill, and no other. -/
structure Receipts (ledger : Ledger) : Prop where
  ids : (ledger.receipts.map (·.executionId)).Nodup
  account : ∀ row ∈ ledger.receipts, row.accountId = store.accountId
  sources : ∀ row ∈ ledger.receipts, row.executionId ∈ ledger.intents.map (·.initialExecutionId) ∨
    row.executionId ∈ ledger.fills.map (·.executionId)
  intents : ∀ intent ∈ ledger.intents, ∃ row ∈ ledger.receipts, InitialReceipt store intent row
  fills : ∀ fill ∈ ledger.fills, ∃ order intent, FillOf ledger fill order intent ∧
    ∃ row ∈ ledger.receipts, FillReceipt store intent fill.toPaperFill row

end

theorem receipts_openLedger : Receipts store store.openLedger where
  ids := nodup_nil
  account := by simp [openLedger]
  sources := by simp [openLedger]
  intents := by simp [openLedger]
  fills := by simp [openLedger]

section

variable (receipts : Receipts store ledger)

include receipts

theorem Receipts.of_same (extended : Extends ledger result)
    (intentsEq : result.intents = ledger.intents) (fillsEq : result.fills = ledger.fills)
    (receiptsEq : result.receipts = ledger.receipts) :
    Receipts store result where
  ids := by
    rw [receiptsEq]
    exact receipts.ids
  account := by
    rw [receiptsEq]
    exact receipts.account
  sources := by
    rw [receiptsEq, intentsEq, fillsEq]
    exact receipts.sources
  intents := by
    rw [receiptsEq, intentsEq]
    exact receipts.intents
  fills := by
    intro fill mem
    rw [fillsEq] at mem
    obtain ⟨_, intent, belongs, row, rowMem, receipt⟩ := receipts.fills fill mem
    obtain ⟨kept, -, keptBelongs⟩ := belongs.grows extended.intents extended.orders
    exact ⟨kept, intent, keptBelongs, row, receiptsEq ▸ rowMem, receipt⟩

theorem Receipts.append (extended : Extends ledger result)
    (fillsPrefix : ledger.fills <+: result.fills)
    (receiptsEq : result.receipts = ledger.receipts ++ [row])
    (fresh : row.executionId ∉ ledger.receipts.map (·.executionId))
    (account : row.accountId = store.accountId)
    (source : row.executionId ∈ result.intents.map (·.initialExecutionId) ∨
      row.executionId ∈ result.fills.map (·.executionId))
    (intents : ∀ intent ∈ result.intents, intent ∈ ledger.intents ∨ InitialReceipt store intent row)
    (fills : ∀ fill ∈ result.fills, fill ∈ ledger.fills ∨
      ∃ order intent, FillOf result fill order intent ∧
        FillReceipt store intent fill.toPaperFill row) :
    Receipts store result where
  ids := by
    rw [receiptsEq]
    exact nodup_concat receipts.ids fresh
  account := by
    rw [receiptsEq]
    refine forall_mem_concat.mpr ⟨receipts.account, ?_⟩
    exact account
  sources := by
    rw [receiptsEq]
    intro other mem
    rcases mem_concat.mp mem with old | rfl
    · rcases receipts.sources other old with initial | filled
      · exact .inl ((extended.intents.map _).subset initial)
      · exact .inr ((fillsPrefix.map _).subset filled)
    · exact source
  intents := by
    rw [receiptsEq]
    intro intent mem
    rcases intents intent mem with old | new
    · obtain ⟨other, otherMem, receipt⟩ := receipts.intents intent old
      exact ⟨other, mem_append_left _ otherMem, receipt⟩
    · exact ⟨row, mem_concat_self, new⟩
  fills := by
    rw [receiptsEq]
    intro fill mem
    rcases fills fill mem with old | ⟨order, intent, belongs, receipt⟩
    · obtain ⟨order, intent, belongs, other, otherMem, receipt⟩ := receipts.fills fill old
      obtain ⟨kept, -, keptBelongs⟩ := belongs.grows extended.intents extended.orders
      exact ⟨kept, intent, keptBelongs, other, mem_append_left _ otherMem, receipt⟩
    · exact ⟨order, intent, belongs, row, mem_concat_self, receipt⟩

omit receipts in
theorem FillContext.fillReceipt {order : OrderRow} {fill : PaperFill} {tradeDate : Date}
    (context : FillContext store ledger order intent fill costs tradeDate availableDate persistedAt)
    (executionId : row.executionId = fill.executionId) (fillEq : row.receipt.fill = some fill)
    (costsEq : row.receipt.costCalculation = costs) :
    FillReceipt store intent fill row where
  executionId := executionId
  fill_eq := fillEq
  side := by
    rw [costsEq]
    exact context.pricedSide
  quantity := by
    rw [costsEq]
    exact context.pricedQuantity
  recalculated := by
    rw [costsEq]
    exact context.recalculated
  priced := by
    obtain ⟨sequence, snapshotId, draft⟩ := context.draft
    rw [costsEq]
    exact ⟨_, sequence, _, snapshotId, draft⟩

omit receipts in
theorem Opened.fills_eq
    (opened : Opened store ledger request costs evaluatedOrder fill filled result) :
    result.fills =
      ledger.fills ++
        fill.toList.map fun executed => recordedFill executed request.persistenceTime := by
  rw [opened.result_eq]
  cases fill with
  | none =>
    have applied := opened.applied
    cases applied
    exact (append_nil _).symm
  | some executed => exact (applyFill_fills opened.applied).2

omit receipts in
theorem Opened.fillOf {fill : PaperFill}
    (opened : Opened store ledger request costs evaluatedOrder (some fill) filled result) :
    FillOf result (recordedFill fill request.persistenceTime)
      (openedOrder request (settleOrder evaluatedOrder (some fill) request.persistenceTime))
      (openedIntent store request costs) := by
  have belongs := opened.fillContext.fillOf.of_frame opened.frame
  rw [opened.result_eq]
  exact { belongs with }

omit receipts in
theorem Executed.fills_eq {request : ApplyExecution} {row : OrderRow}
    (executed :
      Executed store ledger request costs row intent sequence averagePrice filled result) :
    result.fills =
      ledger.fills ++
        [recordedFill (incrementalFill store request costs sequence) request.persistenceTime] := by
  rw [executed.result_eq]
  exact (applyFill_fills executed.applied).2

theorem Receipts.opened
    (facts : Opened store ledger request costs evaluatedOrder fill filled result) :
    Receipts store result := by
  have frame := facts.frame
  have receiptsEq : result.receipts =
      ledger.receipts ++ [openedReceiptRow store request costs evaluatedOrder fill] := by
    rw [facts.result_eq]
    exact congrArg (· ++ _) frame.receipts
  have intentsEq : result.intents = ledger.intents ++ [openedIntent store request costs] := by
    rw [facts.result_eq]
    exact frame.intents
  have ordersEq : result.orders =
      ledger.orders ++
        [openedOrder request (settleOrder evaluatedOrder fill request.persistenceTime)] := by
    rw [facts.result_eq]
    exact frame.orders
  have extended : Extends ledger result := by
    refine ⟨by rw [intentsEq]; exact prefix_append _ _, ?_⟩
    rw [ordersEq, map_append]
    exact prefix_append _ _
  have fresh : store.resolvedExecutionId request ∉ ledger.receipts.map (·.executionId) := by
    have newReceipt := facts.newReceipt
    rwa [frame.receipts] at newReceipt
  have initial : InitialReceipt store (openedIntent store request costs)
      (openedReceiptRow store request costs evaluatedOrder fill) := by
    refine ⟨rfl, rfl, rfl, rfl, ?_⟩
    exact facts.openedOrder_columns.orderId
  have fills : ∀ row ∈ result.fills, row ∈ ledger.fills ∨
      ∃ order intent, FillOf result row order intent ∧
        FillReceipt store intent row.toPaperFill
          (openedReceiptRow store request costs evaluatedOrder fill) := by
    intro row mem
    rw [facts.fills_eq] at mem
    rcases mem_append.mp mem with old | new
    · exact .inl old
    obtain ⟨executed, executedMem, rfl⟩ := mem_map.mp new
    obtain rfl : fill = some executed := Option.mem_toList.mp executedMem
    have sameId : store.resolvedExecutionId request = executed.executionId :=
      congrArg PaperFill.executionId facts.filledAtOnce.fill_eq.symm
    exact .inr ⟨_, _, facts.fillOf, facts.fillContext.fillReceipt sameId rfl rfl⟩
  have fillsPrefix : ledger.fills <+: result.fills := by
    rw [facts.fills_eq]
    exact prefix_append _ _
  refine receipts.append extended fillsPrefix receiptsEq fresh rfl ?_ ?_ fills
  · refine .inl ?_
    rw [intentsEq, map_append]
    exact mem_concat_self
  · intro intent mem
    rw [intentsEq] at mem
    rcases mem_concat.mp mem with old | rfl
    · exact .inl old
    · exact .inr initial

theorem Receipts.executed {request : ApplyExecution} {row : OrderRow}
    (identities : Identities store ledger)
    (facts : Executed store ledger request costs row intent sequence averagePrice filled result) :
    Receipts store result := by
  have frame := applyFill_frame facts.applied
  have context := facts.fillContext
  have receiptsEq : result.receipts =
      ledger.receipts ++
        [executedReceiptRow store request costs row intent sequence averagePrice] := by
    rw [facts.result_eq]
    exact congrArg (· ++ _) frame.receipts
  have intentsEq : result.intents = ledger.intents := by
    rw [facts.result_eq]
    exact frame.intents
  have fillsEq := facts.fills_eq
  have orders := facts.orders_identity identities
  have extended : Extends ledger result := ⟨by rw [intentsEq], by rw [orders]⟩
  have fresh : request.executionId ∉ ledger.receipts.map (·.executionId) := by
    have newReceipt := facts.newReceipt
    rwa [frame.receipts] at newReceipt
  refine receipts.append extended (by rw [fillsEq]; exact prefix_append _ _)
    receiptsEq fresh rfl ?_ ?_ ?_
  · refine .inr ?_
    rw [fillsEq, map_append]
    exact mem_concat_self
  · intro _ mem
    rw [intentsEq] at mem
    exact .inl mem
  · intro _ mem
    rw [fillsEq] at mem
    rcases mem_concat.mp mem with old | rfl
    · exact .inl old
    · obtain ⟨kept, -, belongs⟩ := context.fillOf.grows extended.intents extended.orders
      exact .inr ⟨kept, intent, belongs, context.fillReceipt rfl rfl rfl⟩

theorem Receipts.change (identities : Identities store ledger)
    (changed : Change store ledger call result) :
    Receipts store result := by
  cases changed with
  | unchanged => exact receipts
  | opened facts => exact receipts.opened facts
  | executed facts => exact receipts.executed identities facts
  | closed facts =>
    have orders := facts.orders_identity identities
    refine receipts.of_same ⟨?_, by rw [orders]⟩ ?_ ?_ ?_ <;>
      rw [facts.result_eq]

end

end PaperBrokerStore

end RQuant.Paper
