import RQuant.Paper.Frame

/-!
# Identities of the ledger

Every reachable ledger has unique keys, intent rows that agree with their
payload, and one order for each intent, whose identity is the intent's.
-/

namespace RQuant.Paper

open Foundation List

variable {filled ledger result : Ledger} {costs : ExecutionCostCalculation}
  {fill : Option PaperFill} {evaluatedOrder : PaperOrder} {row : OrderRow}

namespace PaperBrokerStore

structure IntentColumns (store : PaperBrokerStore) (row : IntentRow) : Prop where
  intentId : row.intentId = store.digests.intentId row.payload.toIntentFields
  accountId : row.accountId = store.accountId
  payloadAccount : row.payload.accountId = store.accountId
  signalId : row.signalId = row.payload.signalId
  entrySignalId : row.entrySignalId = row.payload.entrySignalId
  tsCode : row.tsCode = row.payload.tsCode
  side : row.side = row.payload.side
  available : row.payload.availableAt ≤ row.persistedAt

structure OrderColumns (store : PaperBrokerStore) (intent : IntentRow) (order : OrderIdentity) :
    Prop where
  intentId : order.intentId = intent.intentId
  orderId : order.orderId = store.digests.orderId store.accountId intent.intentId
  accountId : order.accountId = store.accountId
  tsCode : order.tsCode = intent.payload.tsCode
  side : order.side = intent.payload.side
  orderType : order.orderType = intent.payload.orderType
  quantity : order.quantity = intent.payload.quantity
  entrySignalId : order.entrySignalId = intent.payload.entrySignalId

/-- Unique keys, and columns that agree across intents and orders. -/
structure Identities (store : PaperBrokerStore) (ledger : Ledger) : Prop where
  accountId : ledger.account.accountId = store.accountId
  initialCash : ledger.account.initialCash = store.initialCash.toRat
  costSpecId : ledger.account.costSpecId = store.digests.costSpecId store.spec
  intentIds : (ledger.intents.map (·.intentId)).Nodup
  initialExecutions : (ledger.intents.map (·.initialExecutionId)).Nodup
  signals : (ledger.intents.map fun row => (row.accountId, row.signalId)).Nodup
  orderIds : (ledger.orders.map (·.orderId)).Nodup
  orderIntents : (ledger.orders.map (·.intentId)).Nodup
  intents : ∀ row ∈ ledger.intents, IntentColumns store row
  orders : ∀ row ∈ ledger.orders, ∃ intent ∈ ledger.intents, OrderColumns store intent row.identity
  ordered : ∀ intent ∈ ledger.intents, ∃ row ∈ ledger.orders, row.intentId = intent.intentId

variable {store : PaperBrokerStore}

theorem identities_openLedger : Identities store store.openLedger where
  accountId := rfl
  initialCash := rfl
  costSpecId := rfl
  intentIds := nodup_nil
  initialExecutions := nodup_nil
  signals := nodup_nil
  orderIds := nodup_nil
  orderIntents := nodup_nil
  intents := by simp [openLedger]
  orders := by simp [openLedger]
  ordered := by simp [openLedger]

variable {intent : IntentRow} {entrySignalId : Digest} {tsCode : String}

theorem identity_of_update (identities : Identities store ledger)
    (found : store.orderRow ledger orderId = some row)
    (kept : (change row).identity = row.identity) :
    (updateKey (fun row : OrderRow => row.orderId) orderId change
        ledger.orders).map OrderRow.identity =
      ledger.orders.map OrderRow.identity := by
  obtain ⟨mem, -, rowId⟩ := mem_of_orderRow found
  apply map_updateKey
  intro other otherMem otherId
  obtain rfl : other = row :=
    eq_of_key_eq identities.orderIds otherMem mem (otherId.trans rowId.symm)
  exact kept

theorem Identities.of_same (identities : Identities store ledger)
    (accountId : result.account.accountId = ledger.account.accountId)
    (initialCash : result.account.initialCash = ledger.account.initialCash)
    (costSpecId : result.account.costSpecId = ledger.account.costSpecId)
    (intents : result.intents = ledger.intents)
    (orders : result.orders.map OrderRow.identity = ledger.orders.map OrderRow.identity) :
    Identities store result := by
  have projected : ∀ {β : Type} (project : OrderIdentity → β),
      result.orders.map (fun row => project row.identity) =
        ledger.orders.map (fun row => project row.identity) := by
    intro β project
    have mapped := congrArg (map project) orders
    rwa [map_map, map_map] at mapped
  constructor
  · rw [accountId]
    exact identities.accountId
  · rw [initialCash]
    exact identities.initialCash
  · rw [costSpecId]
    exact identities.costSpecId
  · rw [intents]
    exact identities.intentIds
  · rw [intents]
    exact identities.initialExecutions
  · rw [intents]
    exact identities.signals
  · have same := projected OrderIdentity.orderId
    exact same ▸ identities.orderIds
  · have same := projected OrderIdentity.intentId
    exact same ▸ identities.orderIntents
  · rw [intents]
    exact identities.intents
  · intro row mem
    have identityMem : row.identity ∈ ledger.orders.map OrderRow.identity :=
      orders ▸ mem_map_of_mem mem
    obtain ⟨old, oldMem, sameIdentity⟩ := mem_map.mp identityMem
    rw [intents, ← sameIdentity]
    exact identities.orders old oldMem
  · intro intent mem
    rw [intents] at mem
    obtain ⟨old, oldMem, oldIntent⟩ := identities.ordered intent mem
    have identityMem : old.identity ∈ result.orders.map OrderRow.identity :=
      orders ▸ mem_map_of_mem oldMem
    obtain ⟨row, rowMem, sameIdentity⟩ := mem_map.mp identityMem
    refine ⟨row, rowMem, ?_⟩
    rw [← oldIntent]
    exact congrArg OrderIdentity.intentId sameIdentity

section

variable (opened : Opened store ledger request costs evaluatedOrder fill filled result)

include opened

/-- Whether or not it fills at once, a new order is a draft of its intent. -/
theorem Opened.drafted : ∃ status reason filledQuantity fillPrice, evaluatedOrder =
    store.draftOrder request.intent request.decisionTime status reason
      filledQuantity fillPrice := by
  rcases evaluateIntent_cases opened.evaluated with
    ⟨-, unfilled⟩ | ⟨_, -, filledAtOnce⟩
  · obtain ⟨reason, orderEq⟩ := unfilled.order_eq
    exact ⟨_, reason, _, _, orderEq⟩
  · exact ⟨_, _, _, _, filledAtOnce.order_eq⟩

theorem Opened.openedIntent_columns : IntentColumns store (openedIntent store request costs) := by
  have checked := prepareSubmission_eq_ok opened.prepared
  exact ⟨rfl, rfl, checked.account, rfl, rfl, rfl, rfl, checked.persistedAvailable⟩

theorem Opened.openedOrder_columns : OrderColumns store (openedIntent store request costs)
    (openedOrder request (settleOrder evaluatedOrder fill request.persistenceTime)).identity := by
  obtain ⟨_, _, _, _, rfl⟩ := opened.drafted
  unfold openedOrder settleOrder
  split <;> exact ⟨rfl, rfl, rfl, rfl, rfl, rfl, rfl, rfl⟩

theorem Opened.frame : FillFrame
    (withOrder store ledger request costs
      (settleOrder evaluatedOrder fill request.persistenceTime)) filled := by
  have applied := opened.applied
  cases fill with
  | none =>
    cases applied
    exact ⟨rfl, rfl, rfl, rfl, rfl, rfl⟩
  | some fill => exact applyFill_frame applied

end

section

variable (identities : Identities store ledger)

include identities

theorem Identities.withOrder
    (intentColumns : IntentColumns store (openedIntent store request costs))
    (orderColumns :
      OrderColumns store (openedIntent store request costs) (openedOrder request order).identity)
    (newIntentId : store.submittedIntentId request ∉ ledger.intents.map (·.intentId))
    (newInitialExecution :
      store.resolvedExecutionId request ∉ ledger.intents.map (·.initialExecutionId))
    (newSignal : (store.accountId, request.intent.signalId) ∉
      ledger.intents.map fun row => (row.accountId, row.signalId))
    (newOrderId : order.orderId ∉ ledger.orders.map (·.orderId))
    (newOrderIntent : order.intentId ∉ ledger.orders.map (·.intentId)) :
    Identities store (PaperBrokerStore.withOrder store ledger request costs order) where
  accountId := identities.accountId
  initialCash := identities.initialCash
  costSpecId := identities.costSpecId
  intentIds := nodup_concat identities.intentIds newIntentId
  initialExecutions := nodup_concat identities.initialExecutions newInitialExecution
  signals := nodup_concat identities.signals newSignal
  orderIds := nodup_concat identities.orderIds newOrderId
  orderIntents := nodup_concat identities.orderIntents newOrderIntent
  intents := by
    refine forall_mem_concat.mpr ⟨identities.intents, ?_⟩
    exact intentColumns
  orders := by
    intro row mem
    rcases mem_concat.mp mem with old | rfl
    · obtain ⟨intent, intentMem, columns⟩ := identities.orders row old
      exact ⟨intent, mem_append_left _ intentMem, columns⟩
    · exact ⟨_, mem_concat_self, orderColumns⟩
  ordered := by
    intro intent mem
    rcases mem_concat.mp mem with old | rfl
    · obtain ⟨row, rowMem, rowIntent⟩ := identities.ordered intent old
      exact ⟨row, mem_append_left _ rowMem, rowIntent⟩
    · exact ⟨_, mem_concat_self, orderColumns.intentId⟩

theorem Executed.orders_identity {request : ApplyExecution} {sequence : ℕ}
    (executed :
      Executed store ledger request costs row intent sequence averagePrice filled result) :
    result.orders.map OrderRow.identity = ledger.orders.map OrderRow.identity := by
  rw [executed.result_eq]
  change (updateKey _ _ _ filled.orders).map _ = _
  rw [(applyFill_frame executed.applied).orders]
  exact identity_of_update identities executed.rowFound rfl

theorem Closed.orders_identity
    (closed : Closed store ledger request row intent result) :
    result.orders.map OrderRow.identity = ledger.orders.map OrderRow.identity := by
  rw [closed.result_eq]
  exact identity_of_update identities closed.rowFound rfl

theorem Identities.change {call : Call}
    (changed : Change store ledger call result) :
    Identities store result := by
  cases changed with
  | unchanged => exact identities
  | opened facts =>
    have frame := facts.frame
    rw [facts.result_eq]
    have opened := identities.withOrder facts.openedIntent_columns facts.openedOrder_columns
      facts.newIntentId facts.newInitialExecution facts.newSignal
      (by simpa using facts.newOrderId) (by simpa using facts.newOrderIntent)
    exact opened.of_same frame.accountId frame.initialCash frame.costSpecId frame.intents
      (congrArg (map OrderRow.identity) frame.orders)
  | executed facts =>
    have frame := applyFill_frame facts.applied
    have orders := facts.orders_identity identities
    rw [facts.result_eq] at orders ⊢
    exact identities.of_same frame.accountId frame.initialCash frame.costSpecId frame.intents orders
  | closed facts =>
    have orders := facts.orders_identity identities
    rw [facts.result_eq] at orders ⊢
    exact identities.of_same rfl rfl rfl rfl orders

end

def IsEntry (store : PaperBrokerStore) (entrySignalId : Digest) (tsCode : String)
    (intent : IntentRow) : Prop :=
  intent.accountId = store.accountId ∧ intent.tsCode = tsCode ∧
    intent.signalId = entrySignalId ∧ intent.side = .buy

theorem entryRows_eq_nil
    (absent : ∀ intent ∈ ledger.intents, ¬ IsEntry store entrySignalId tsCode intent) :
    store.entryRows ledger entrySignalId tsCode = [] := by
  rw [entryRows, filter_of_none, flatMap_nil]
  exact absent

theorem entryRows_eq_singleton (identities : Identities store ledger)
    (intentMem : intent ∈ ledger.intents)
    (entry : IsEntry store entrySignalId tsCode intent)
    (orderMem : order ∈ ledger.orders.map OrderRow.identity)
    (orderIntent : order.intentId = intent.intentId) :
    store.entryRows ledger entrySignalId tsCode = [(intent, order)] := by
  have onlyIntent : ledger.intents.filter (fun intent =>
        intent.accountId = store.accountId ∧ intent.tsCode = tsCode ∧
          intent.signalId = entrySignalId ∧ intent.side = .buy) =
        [intent] := by
    refine filter_eq_singleton identities.signals intentMem (decide_eq_true entry) ?_
    intro other _ otherEntry
    have otherEntry := of_decide_eq_true otherEntry
    rw [otherEntry.1, otherEntry.2.2.1, entry.1, entry.2.2.1]
  have orderIntents : ((ledger.orders.map OrderRow.identity).map OrderIdentity.intentId).Nodup := by
    rw [map_map]
    exact identities.orderIntents
  have onlyOrder : (ledger.orders.map OrderRow.identity).filter (fun order =>
        order.intentId = intent.intentId) = [order] := by
    refine filter_eq_singleton orderIntents orderMem (decide_eq_true orderIntent) ?_
    intro other _ otherIntent
    exact (of_decide_eq_true otherIntent).trans orderIntent.symm
  rw [entryRows, onlyIntent, flatMap_singleton, onlyOrder, map_singleton]

theorem Identities.exists_order (identities : Identities store ledger)
    (mem : intent ∈ ledger.intents) :
    ∃ order ∈ ledger.orders.map OrderRow.identity, order.intentId = intent.intentId := by
  obtain ⟨row, rowMem, rowIntent⟩ := identities.ordered intent mem
  exact ⟨row.identity, mem_map_of_mem rowMem, rowIntent⟩

end PaperBrokerStore

end RQuant.Paper
