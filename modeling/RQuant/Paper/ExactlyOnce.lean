import RQuant.Paper.Conservation
import RQuant.Paper.Receipts

/-!
# Exactly-once execution

An execution id is bound to the first request that used it.  Repeating that
request at any later time returns the stored answer and writes nothing; any
other request under the same id is refused.
-/

namespace RQuant.Paper

open Foundation List

/-- The two exceptions that report a reused identity. -/
def BrokerError.IsConflict : BrokerError → Prop
  | .duplicateIntentConflict _ => True
  | .duplicateExecutionConflict _ => True
  | _ => False

instance (raised : BrokerError) : Decidable raised.IsConflict := by
  unfold BrokerError.IsConflict
  split <;> infer_instance

/-- What a request asks for once its arguments have passed their checks, with
the defaults filled in and the costs priced. -/
inductive Evidence
  | submitted (intent : PaperOrderIntent) (execution : InitialExecution)
  | applied (execution : IncrementalExecution)
  deriving DecidableEq

def Evidence.request : Evidence → ExecutionRequest
  | .submitted _ execution => .initial execution
  | .applied execution => .incremental execution

/-- `submit_intent` returns an order, `apply_execution` a receipt. -/
def Evidence.answer : Evidence → PaperExecutionReceipt → Answer
  | .submitted _ _, receipt => .order receipt.order
  | .applied _, receipt => .receipt receipt

variable {costs : ExecutionCostCalculation} {orderId : Digest}

namespace PaperBrokerStore

variable {store : PaperBrokerStore}

/-- The evidence of a request, when its arguments pass their checks. -/
def evidence (store : PaperBrokerStore) (ledger : Ledger) : Call → Option Evidence
  | .submit request =>
    match store.prepareSubmission request with
    | .ok costs => some (.submitted request.intent (store.initialExecution request costs))
    | .error _ => none
  | .apply request =>
    match store.prepareExecution ledger request with
    | .ok (_, costs) => some (.applied (store.incrementalExecution request costs))
    | .error _ => none
  | .close _ => none

variable {ledger result filled : Ledger} {call : Call} {executionId : Digest}
  {receipt : PaperExecutionReceipt} {row : OrderRow} {intent : PaperOrderIntent}
  {existing : IntentRow}

theorem evidence_submit {request : SubmitIntent} {evidence : Evidence} :
    store.evidence ledger (.submit request) = some evidence ↔
      ∃ costs, store.prepareSubmission request = .ok costs ∧
        evidence = .submitted request.intent (store.initialExecution request costs) := by
  cases prepared : store.prepareSubmission request <;>
    simp [PaperBrokerStore.evidence, prepared, eq_comm]

theorem evidence_apply {request : ApplyExecution} {evidence : Evidence} :
    store.evidence ledger (.apply request) = some evidence ↔
      ∃ intent costs, store.prepareExecution ledger request = .ok (intent, costs) ∧
        evidence = .applied (store.incrementalExecution request costs) := by
  cases prepared : store.prepareExecution ledger request <;>
    simp [PaperBrokerStore.evidence, prepared, Prod.ext_iff, eq_comm]

/-- The ledgers reached by any calls, whether or not they raise. -/
def Issued (store : PaperBrokerStore) : Ledger → Ledger → Prop :=
  Reaches (fun ledger call result => (store.perform ledger call).2 = result) (fun _ _ => True)

/-- Intents, order identities and receipts are only added. -/
structure Keeps (ledger result : Ledger) : Prop extends Extends ledger result where
  receipts : ledger.receipts <+: result.receipts

theorem Keeps.refl (ledger : Ledger) : Keeps ledger ledger := ⟨⟨prefix_rfl, prefix_rfl⟩, prefix_rfl⟩

theorem Keeps.trans (left : Keeps first second) (right : Keeps second third) : Keeps first third :=
  ⟨⟨left.intents.trans right.intents, left.orders.trans right.orders⟩,
    left.receipts.trans right.receipts⟩

theorem Change.keeps (changed : Change store ledger call result)
    (identities : Identities store ledger) :
    Keeps ledger result := by
  rcases changed.grows_or_fills identities with
    grows | ⟨_, _, _, _, _, _, _, _, step⟩
  · exact ⟨grows.extends, grows.receipts⟩
  · have frame := applyFill_frame step.applied
    exact ⟨step.extends, step.grows.receipts.trans (frame.receipts ▸ step.settles.receipts)⟩

section

variable (keeps : Keeps ledger result)

include keeps

theorem Keeps.intentRow {intentId : Digest} {row : IntentRow}
    (found : ledger.intentRow intentId = some row) :
    result.intentRow intentId = some row := by
  obtain ⟨_, intents⟩ := keeps.intents
  rw [Ledger.intentRow, ← intents]
  exact findKey_append_of_some found

theorem Keeps.executionReceipt
    (stored : store.executionReceipt ledger executionId = .ok (some receipt)) :
    store.executionReceipt result executionId = .ok (some receipt) := by
  obtain ⟨row, found, receiptEq, sound⟩ := executionReceipt_eq_some.mp stored
  obtain ⟨_, receipts⟩ := keeps.receipts
  refine executionReceipt_eq_some.mpr ⟨row, ?_, receiptEq, sound⟩
  rw [receiptRow, ← receipts]
  exact findKey_append_of_some found

theorem Keeps.orderRow (found : store.orderRow ledger orderId = some row) :
    ∃ kept, store.orderRow result orderId = some kept ∧ kept.identity = row.identity := by
  have byIdentity : ∀ book : Ledger,
      findKey (fun order : OrderIdentity => (order.accountId, order.orderId))
          (store.accountId, orderId) (book.orders.map OrderRow.identity) =
        (store.orderRow book orderId).map OrderRow.identity :=
    fun book => findKey_map fun _ => rfl
  obtain ⟨_, orders⟩ := keeps.orders
  have before := byIdentity ledger
  rw [found, Option.map_some] at before
  have after := byIdentity result
  rw [← orders, findKey_append_of_some before] at after
  exact Option.map_eq_some_iff.mp after.symm

theorem Keeps.preflightIntent (found : store.preflightIntent ledger orderId = .ok intent) :
    store.preflightIntent result orderId = .ok intent := by
  obtain ⟨row, intentRow, rowFound, intentFound, rfl⟩ := preflightIntent_eq_ok found
  obtain ⟨kept, keptFound, sameIdentity⟩ := keeps.orderRow rowFound
  have sameIntent : kept.intentId = row.intentId := congrArg OrderIdentity.intentId sameIdentity
  have keptIntent : result.intentRow kept.intentId = some intentRow := by
    rw [sameIntent]
    exact keeps.intentRow intentFound
  simp [PaperBrokerStore.preflightIntent, keptFound, keptIntent, orRaise]

theorem Keeps.prepareExecution (before : store.prepareExecution ledger request = .ok prepared) :
    store.prepareExecution result request = .ok prepared := by
  unfold PaperBrokerStore.prepareExecution at before ⊢
  rw [bind_eq_ok] at before ⊢
  obtain ⟨_, checked, before⟩ := before
  rw [bind_eq_ok] at before
  obtain ⟨_, found, before⟩ := before
  refine ⟨_, checked, ?_⟩
  rw [keeps.preflightIntent found]
  exact before

theorem Keeps.evidence {evidence : Evidence} (before : store.evidence ledger call = some evidence) :
    store.evidence result call = some evidence := by
  cases call with
  | submit request => exact before
  | close request => cases before
  | apply request =>
    obtain ⟨intent, costs, prepared, rfl⟩ := evidence_apply.mp before
    exact evidence_apply.mpr ⟨intent, costs, keeps.prepareExecution prepared, rfl⟩

end

structure Recorded (store : PaperBrokerStore) (ledger : Ledger) (evidence : Evidence)
    (receipt : PaperExecutionReceipt) : Prop where
  stored : store.executionReceipt ledger evidence.request.executionId = .ok (some receipt)
  fingerprint : receipt.requestFingerprint = store.digests.requestFingerprint evidence.request
  submitted : ∀ intent execution, evidence = .submitted intent execution → ∃ existing,
    ledger.intentRow (store.digests.intentId intent.toIntentFields) = some existing ∧
      existing.payload = intent ∧
      existing.initialExecutionId = evidence.request.executionId ∧
      existing.initialExecutionRequestFingerprint =
        store.digests.requestFingerprint evidence.request
  applied : ∀ execution, evidence = .applied execution → receipt.order.orderId = execution.orderId

theorem Recorded.keeps {evidence : Evidence} (recorded : Recorded store ledger evidence receipt)
    (keeps : Keeps ledger result) :
    Recorded store result evidence receipt where
  stored := keeps.executionReceipt recorded.stored
  fingerprint := recorded.fingerprint
  submitted := by
    intro intent execution isSubmitted
    obtain ⟨existing, found, rest⟩ := recorded.submitted intent execution isSubmitted
    exact ⟨existing, keeps.intentRow found, rest⟩
  applied := recorded.applied

theorem Receipts.receiptRow_of_mem {row : ReceiptRow}
    (receipts : Receipts store ledger) (mem : row ∈ ledger.receipts) :
    store.receiptRow ledger row.executionId = some row := by
  have key : (ledger.receipts.map fun row => (row.accountId, row.executionId)).Nodup := by
    have ids := receipts.ids
    refine List.Nodup.of_map Prod.snd ?_
    rwa [map_map]
  rw [receiptRow, ← receipts.account row mem]
  exact findKey_of_mem key mem

theorem Receipts.initial_fingerprint {intent : IntentRow}
    (receipts : Receipts store ledger) (mem : intent ∈ ledger.intents)
    (stored : store.executionReceipt ledger intent.initialExecutionId = .ok (some receipt)) :
    receipt.requestFingerprint = intent.initialExecutionRequestFingerprint := by
  obtain ⟨_, rowMem, initial⟩ := receipts.intents intent mem
  obtain ⟨stored, found, rfl, -⟩ := executionReceipt_eq_some.mp stored
  have rowFound := receipts.receiptRow_of_mem rowMem
  rw [initial.executionId, found, Option.some.injEq] at rowFound
  rw [rowFound, initial.receiptFingerprint, initial.fingerprint]

theorem recorded_of_replayed {request : SubmitIntent} (receipts : Receipts store ledger)
    (replayed : Replayed store ledger request costs existing receipt) :
    Recorded store ledger (.submitted request.intent (store.initialExecution request costs))
      receipt where
  stored := replayed.receipt_eq
  fingerprint := by
    have stored := replayed.receipt_eq
    rw [← replayed.executionId] at stored
    rw [receipts.initial_fingerprint (mem_of_intentRow replayed.found).1
      stored, replayed.fingerprint]
    rfl
  submitted := by
    rintro intent execution ⟨⟩
    exact ⟨existing, replayed.found, replayed.payload, replayed.executionId, replayed.fingerprint⟩
  applied := by
    rintro execution ⟨⟩

theorem Opened.replayed
    (opened : Opened store ledger request costs evaluatedOrder fill filled result)
    (identities : Identities store result) (receipts : Receipts store result) :
    Replayed store result request costs (openedIntent store request costs)
      (openedReceiptRow store request costs evaluatedOrder fill).receipt where
  found := by
    have mem : openedIntent store request costs ∈ result.intents := by
      rw [opened.result_eq]
      change _ ∈ filled.intents
      rw [opened.frame.intents]
      exact mem_concat_self
    exact findKey_of_mem identities.intentIds mem
  payload := rfl
  executionId := rfl
  fingerprint := rfl
  receipt_eq := by
    have mem : openedReceiptRow store request costs evaluatedOrder fill ∈ result.receipts := by
      rw [opened.result_eq]
      exact mem_concat_self
    exact executionReceipt_eq_some.mpr
      ⟨_, receipts.receiptRow_of_mem mem, rfl, opened.receipt_sound⟩

theorem Executed.recorded {request : ApplyExecution} {intent : IntentRow} {sequence : ℕ}
    (executed : Executed store ledger request costs row intent sequence averagePrice filled result)
    (receipts : Receipts store result)
    (readBack : store.executionReceipt result request.executionId = .ok (some receipt)) :
    Recorded store result (.applied (store.incrementalExecution request costs)) receipt := by
  have mem : executedReceiptRow store request costs row intent sequence
      averagePrice ∈ result.receipts := by
    rw [executed.result_eq]
    exact mem_concat_self
  have written := receipts.receiptRow_of_mem mem
  obtain ⟨stored, found, rfl, -⟩ := executionReceipt_eq_some.mp readBack
  obtain rfl : executedReceiptRow store request costs row intent sequence averagePrice = stored :=
    Option.some.inj (written.symm.trans found)
  have sameOrder : row.orderId = request.orderId := (mem_of_orderRow executed.rowFound).2.2
  refine ⟨readBack, rfl, by rintro intent execution ⟨⟩, ?_⟩
  rintro execution ⟨⟩
  exact sameOrder

theorem recorded_of_success {answer : Answer} (identities : Identities store ledger)
    (receipts : Receipts store ledger) (resultIdentities : Identities store result)
    (resultReceipts : Receipts store result)
    (executes : store.executionIdOf call = some executionId)
    (performed : store.perform ledger call = (.ok answer, result)) :
    ∃ evidence receipt,
      store.evidence result call = some evidence ∧ evidence.request.executionId = executionId ∧
        Recorded store result evidence receipt ∧
        answer = evidence.answer receipt := by
  cases call with
  | close request => cases executes
  | submit request =>
    cases executes
    obtain ⟨order, submitted, rfl⟩ := returned_of_answer performed
    obtain ⟨costs, prepared, cases⟩ := submitIntent_eq_ok submitted
    rcases cases with
      ⟨_, receipt, replayed, rfl, rfl⟩ | ⟨evaluatedOrder, fill, filled, rfl, opened⟩
    · exact ⟨_, receipt, evidence_submit.mpr ⟨costs, prepared, rfl⟩, rfl,
        recorded_of_replayed receipts replayed, rfl⟩
    · have replayed := opened.replayed resultIdentities resultReceipts
      exact ⟨_, _, evidence_submit.mpr ⟨costs, prepared, rfl⟩, rfl,
        recorded_of_replayed resultReceipts replayed, rfl⟩
  | apply request =>
    cases executes
    obtain ⟨receipt, applied, rfl⟩ := returned_of_answer performed
    rcases applyExecution_eq_ok applied with
      ⟨intent, costs, prepared, stored, sameOrder, sameRequest, rfl⟩ |
        ⟨costs, row, intent, sequence, averagePrice, filled, executed, readBack⟩
    · refine ⟨_, receipt, evidence_apply.mpr ⟨intent, costs, prepared, rfl⟩, rfl,
        ⟨stored, sameRequest, by rintro intent execution ⟨⟩, ?_⟩, rfl⟩
      rintro execution ⟨⟩
      exact sameOrder
    · have keeps := (Change.executed executed).keeps identities
      exact ⟨_, receipt,
        evidence_apply.mpr ⟨_, costs, keeps.prepareExecution executed.prepared, rfl⟩,
        rfl, executed.recorded resultReceipts readBack, rfl⟩

/-! ## Requests under a recorded execution id -/

theorem Replayed.transaction (replayed : Replayed store ledger request costs existing receipt) :
    store.submitTransaction ledger request costs = .ok (receipt.order, ledger) := by
  have fingerprint := replayed.fingerprint
  unfold initialFingerprint at fingerprint
  simp [submitTransaction, replayed.found, replayIntent, replayed.payload,
    replayed.executionId, fingerprint, replayed.receipt_eq, require, ok_bind, pure, Except.pure]

section

variable {evidence : Evidence} (recorded : Recorded store ledger evidence receipt)

include recorded

theorem Recorded.replay (asked : store.evidence ledger call = some evidence) :
    store.perform ledger call = (.ok (evidence.answer receipt), ledger) := by
  cases call with
  | close request => cases asked
  | submit request =>
    obtain ⟨costs, prepared, rfl⟩ := evidence_submit.mp asked
    obtain ⟨existing, found, payload, executionId, fingerprint⟩ :=
      recorded.submitted request.intent _ rfl
    have replayed : Replayed store ledger request costs existing receipt :=
      ⟨found, payload, executionId, fingerprint, recorded.stored⟩
    rw [perform, submitIntent_eq prepared, replayed.transaction]
    rfl
  | apply request =>
    obtain ⟨intent, costs, prepared, rfl⟩ := evidence_apply.mp asked
    have stored :
        store.executionReceipt ledger request.executionId = .ok (some receipt) := recorded.stored
    have sameOrder := recorded.applied _ rfl
    have sameRequest := recorded.fingerprint
    have transaction : store.applyTransaction ledger request = .ok (.inl receipt) := by
      simp only [applyTransaction, prepared, stored, ok_bind]
      rw [require_of ⟨sameOrder, sameRequest⟩]
      rfl
    rw [perform, applyExecution, transaction]
    rfl

/-- An execution id that was used for another request is refused. -/
theorem Recorded.submit_conflict (identities : Identities store ledger)
    (receipts : Receipts store ledger) (prepared : store.prepareSubmission request = .ok costs)
    (sameId : store.resolvedExecutionId request = evidence.request.executionId)
    (different : .submitted request.intent (store.initialExecution request costs) ≠ evidence)
    (collisionFree : store.digests.requestFingerprint (store.initialRequest request costs) =
        store.digests.requestFingerprint evidence.request →
      store.initialRequest request costs = evidence.request) :
    ∃ raised, raised.IsConflict ∧ store.submitIntent ledger request = (.error raised, ledger) := by
  have stored := recorded.stored
  rw [← sameId] at stored
  rw [submitIntent_eq prepared]
  cases found : ledger.intentRow (store.submittedIntentId request) with
  | none =>
    refine ⟨.duplicateExecutionConflict
      "initial execution_id is already bound to a different intent", trivial, ?_⟩
    simp [submitTransaction, found, openIntent, stored, ok_bind, error_bind, require, atomically]
  | some existing =>
    by_cases payload : existing.payload = request.intent
    swap
    · refine ⟨.duplicateIntentConflict
        ("intent_id " ++ hex (store.submittedIntentId request) ++
          " already has different content"), trivial, ?_⟩
      simp [submitTransaction, found, replayIntent, payload, error_bind, require, atomically]
    by_cases executionId : existing.initialExecutionId = store.resolvedExecutionId request
    swap
    · refine ⟨.duplicateExecutionConflict
        "intent is already bound to a different initial execution_id", trivial, ?_⟩
      simp [submitTransaction, found, replayIntent, payload, executionId,
        ok_bind, error_bind, require, atomically]
    -- The recorded receipt is the one of this very intent.
    have existingMem := (mem_of_intentRow found).1
    have sameFingerprint : existing.initialExecutionRequestFingerprint =
        store.digests.requestFingerprint evidence.request := by
      rw [← executionId] at stored
      rw [← receipts.initial_fingerprint existingMem stored]
      exact recorded.fingerprint
    have fingerprint : existing.initialExecutionRequestFingerprint ≠
        store.digests.requestFingerprint (store.initialRequest request costs) := by
      intro equal
      have sameRequest := collisionFree (equal.symm.trans sameFingerprint)
      cases evidence with
      | applied execution => cases sameRequest
      | submitted intent execution =>
        cases sameRequest
        obtain ⟨other, otherFound, otherPayload, otherId, -⟩ := recorded.submitted intent _ rfl
        obtain rfl : other = existing :=
          eq_of_key_eq identities.initialExecutions (mem_of_intentRow otherFound).1 existingMem
            (otherId.trans executionId.symm)
        rw [payload] at otherPayload
        exact different (by rw [otherPayload])
    refine ⟨.duplicateExecutionConflict
      "initial execution_id is already bound to different immutable content", trivial, ?_⟩
    simp [submitTransaction, found, replayIntent, payload, executionId,
      fingerprint, ok_bind, error_bind, require, atomically]

theorem Recorded.apply_conflict
    (prepared : store.prepareExecution ledger request = .ok (intent, costs))
    (sameId : request.executionId = evidence.request.executionId)
    (different : .applied (store.incrementalExecution request costs) ≠ evidence)
    (collisionFree : store.digests.requestFingerprint (store.incrementalRequest request costs) =
        store.digests.requestFingerprint evidence.request →
      store.incrementalRequest request costs = evidence.request) :
    ∃ raised, raised.IsConflict ∧
      store.applyExecution ledger request = (.error raised, ledger) := by
  have stored := recorded.stored
  rw [← sameId] at stored
  have fingerprint : ¬ (receipt.order.orderId = request.orderId ∧
      receipt.requestFingerprint =
        store.digests.requestFingerprint (store.incrementalRequest request costs)) := by
    rintro ⟨-, equal⟩
    have sameRequest := collisionFree (equal.symm.trans recorded.fingerprint)
    cases evidence with
    | submitted intent execution => cases sameRequest
    | applied execution =>
      cases sameRequest
      exact different rfl
  refine ⟨.duplicateExecutionConflict
    "execution_id is already bound to different immutable content", trivial, ?_⟩
  rw [applyExecution, applyTransaction, prepared]
  simp only [stored, ok_bind, require_of_not fingerprint, error_bind]

end

theorem Recorded.conflict {evidence other : Evidence}
    (recorded : Recorded store ledger evidence receipt) (identities : Identities store ledger)
    (receipts : Receipts store ledger) (asked : store.evidence ledger call = some other)
    (sameId : other.request.executionId = evidence.request.executionId)
    (different : other ≠ evidence)
    (collisionFree : store.digests.requestFingerprint other.request =
        store.digests.requestFingerprint evidence.request →
      other.request = evidence.request) :
    ∃ raised, raised.IsConflict ∧ store.perform ledger call = (.error raised, ledger) := by
  cases call with
  | close request => cases asked
  | submit request =>
    obtain ⟨costs, prepared, rfl⟩ := evidence_submit.mp asked
    obtain ⟨raised, conflict, refused⟩ :=
      recorded.submit_conflict identities receipts prepared sameId different collisionFree
    exact ⟨raised, conflict, by rw [perform, refused]; rfl⟩
  | apply request =>
    obtain ⟨_, costs, prepared, rfl⟩ := evidence_apply.mp asked
    obtain ⟨raised, conflict, refused⟩ :=
      recorded.apply_conflict prepared sameId different collisionFree
    exact ⟨raised, conflict, by rw [perform, refused]; rfl⟩

theorem perform_of_no_evidence (executes : store.executionIdOf call = some executionId)
    (refused : store.evidence ledger call = none) :
    ∃ raised, store.perform ledger call = (.error raised, ledger) := by
  cases call with
  | close request => cases executes
  | submit request =>
    cases prepared : store.prepareSubmission request with
    | error raised => exact ⟨raised, by rw [perform, submitIntent_of_error prepared]; rfl⟩
    | ok costs =>
      rw [evidence_submit.mpr ⟨costs, prepared, rfl⟩] at refused
      cases refused
  | apply request =>
    cases prepared : store.prepareExecution ledger request with
    | error raised =>
      refine ⟨raised, ?_⟩
      rw [perform, applyExecution, applyTransaction, prepared]
      rfl
    | ok outcome =>
      rw [evidence_apply.mpr ⟨outcome.1, outcome.2, prepared, rfl⟩] at refused
      cases refused

/-- Money and holdings are untouched. -/
structure SameBooks (ledger result : Ledger) : Prop where
  account : result.account = ledger.account
  fills : result.fills = ledger.fills
  lots : result.lots = ledger.lots
  consumptions : result.consumptions = ledger.consumptions

/-- A call writes a receipt for its own execution id only, at most one fill with
that id, and touches money and holdings only with that fill. -/
inductive AtMostOneEffect (store : PaperBrokerStore) (ledger : Ledger) (call : Call)
    (result : Ledger) : Prop
  | none (receipts : result.receipts = ledger.receipts) (books : SameBooks ledger result)
  | recorded (row : ReceiptRow) (executes : store.executionIdOf call = some row.executionId)
      (receipts : result.receipts = ledger.receipts ++ [row])
      (unfilled : row.receipt.fill = .none)
      (books : SameBooks ledger result)
  | filled (row : ReceiptRow) (fill : FillRow)
      (executes : store.executionIdOf call = some row.executionId)
      (receipts : result.receipts = ledger.receipts ++ [row])
      (receiptFill : row.receipt.fill = some fill.toPaperFill)
      (fillId : fill.executionId = row.executionId)
      (fills : result.fills = ledger.fills ++ [fill])

theorem Change.atMostOneEffect (changed : Change store ledger call result) :
    AtMostOneEffect store ledger call result := by
  cases changed with
  | unchanged => exact .none rfl ⟨rfl, rfl, rfl, rfl⟩
  | closed facts =>
    rw [facts.result_eq]
    exact .none rfl ⟨rfl, rfl, rfl, rfl⟩
  | @opened request costs evaluatedOrder fill filled _ facts =>
    have receipts : result.receipts =
        ledger.receipts ++ [openedReceiptRow store request costs evaluatedOrder fill] := by
      rw [facts.result_eq]
      exact congrArg (· ++ _) facts.frame.receipts
    cases fill with
    | none =>
      refine .recorded _ rfl receipts rfl ?_
      have applied := facts.applied
      cases applied
      rw [facts.result_eq]
      exact ⟨rfl, rfl, rfl, rfl⟩
    | some executed =>
      have sameId : executed.executionId = store.resolvedExecutionId request :=
        congrArg PaperFill.executionId facts.filledAtOnce.fill_eq
      exact .filled _ (recordedFill executed request.persistenceTime) rfl
        receipts rfl sameId facts.fills_eq
  | @executed request costs row intent sequence averagePrice filled _ facts =>
    have receipts : result.receipts =
        ledger.receipts ++
          [executedReceiptRow store request costs row intent sequence averagePrice] := by
      rw [facts.result_eq]
      exact congrArg (· ++ _) (applyFill_frame facts.applied).receipts
    exact .filled _
      (recordedFill (incrementalFill store request costs sequence)
        request.persistenceTime) rfl receipts rfl rfl facts.fills_eq

/-- What holds of a ledger whatever calls have been issued. -/
structure Audited (store : PaperBrokerStore) (ledger : Ledger) : Prop extends
    Booked store ledger where
  receipts : Receipts store ledger

theorem Audited.change (audited : Audited store ledger)
    (changed : Change store ledger call result) :
    Audited store result :=
  ⟨audited.toBooked.change changed, audited.receipts.change audited.identities changed⟩

theorem audited_of_issued (issued : store.Issued store.openLedger ledger) : Audited store ledger :=
  issued.invariant ⟨⟨identities_openLedger, positions_openLedger⟩, receipts_openLedger⟩
    fun {source call _} audited _ performed =>
      audited.change (performed ▸ perform_change source call)

theorem Issued.keeps (issued : store.Issued ledger later) (audited : Audited store ledger) :
    Audited store later ∧ Keeps ledger later := by
  induction issued with
  | refl => exact ⟨audited, Keeps.refl ledger⟩
  | @tail middle last _ lastCall ih =>
    obtain ⟨call, -, rfl⟩ := lastCall
    obtain ⟨middleAudited, kept⟩ := ih
    have changed : Change store middle call _ := perform_change middle call
    exact ⟨middleAudited.change changed, kept.trans (changed.keeps middleAudited.identities)⟩

/-- How a request is answered whose execution id another request has taken. -/
structure AnsweredAsReuse (store : PaperBrokerStore) (ledger : Ledger) (call : Call)
    (answer : Answer) (other : Call) : Prop where
  refused : store.evidence ledger other = none →
    ∃ raised, store.perform ledger other = (.error raised, ledger)
  repeated : store.evidence ledger other = store.evidence ledger call →
    store.perform ledger other = (.ok answer, ledger)
  conflicting : ∀ original asked, store.evidence ledger call = some original →
    store.evidence ledger other = some asked →
    asked ≠ original →
      -- The two requests do not collide under the digest.
      (store.digests.requestFingerprint asked.request =
          store.digests.requestFingerprint original.request →
        asked.request = original.request) →
      ∃ raised, raised.IsConflict ∧ store.perform ledger other = (.error raised, ledger)

/-- In every ledger that any calls lead to, an execution id has at most one
fill, one receipt and one effect; after its first success a request is answered
from the receipt for good, and no other request can use its execution id. -/
theorem execution_exactly_once {ledger : Ledger} (issued : store.Issued store.openLedger ledger) :
    (ledger.fills.map (·.executionId)).Nodup ∧ (ledger.receipts.map (·.executionId)).Nodup ∧
      (∀ call, AtMostOneEffect store ledger call (store.perform ledger call).2) ∧
      ∀ call executionId answer result later, store.executionIdOf call = some executionId →
        store.perform ledger call = (.ok answer, result) →
        store.Issued result later →
          store.perform later call = (.ok answer, later) ∧
            ∀ other, store.executionIdOf other = some executionId →
              AnsweredAsReuse store later call answer other := by
  have audited := audited_of_issued issued
  refine ⟨audited.positions.executionIds, audited.receipts.ids,
    fun call => (perform_change ledger call).atMostOneEffect, ?_⟩
  intro call executionId answer result later executes performed run
  have resultAudited : Audited store result := by
    have changed : Change store ledger call (store.perform ledger call).2 :=
      perform_change ledger call
    rw [performed] at changed
    exact audited.change changed
  obtain ⟨evidence, _, asked, sameId, recorded, rfl⟩ :=
    recorded_of_success audited.identities audited.receipts
      resultAudited.identities resultAudited.receipts executes performed
  obtain ⟨laterAudited, kept⟩ := run.keeps resultAudited
  have laterAsked := kept.evidence asked
  have laterRecorded := recorded.keeps kept
  refine ⟨laterRecorded.replay laterAsked, ?_⟩
  intro other otherExecutes
  refine ⟨perform_of_no_evidence otherExecutes, ?_, ?_⟩
  · intro sameEvidence
    exact laterRecorded.replay (sameEvidence.trans laterAsked)
  · intro original otherAsked originalEq otherEq different collisionFree
    obtain rfl : evidence = original := Option.some.inj (laterAsked.symm.trans originalEq)
    have otherId : otherAsked.request.executionId = executionId := by
      cases other with
      | close request => cases otherEq
      | submit request =>
        obtain ⟨costs, -, rfl⟩ := evidence_submit.mp otherEq
        exact Option.some.inj otherExecutes
      | apply request =>
        obtain ⟨_, costs, -, rfl⟩ := evidence_apply.mp otherEq
        exact Option.some.inj otherExecutes
    exact laterRecorded.conflict laterAudited.identities laterAudited.receipts
      otherEq (otherId.trans sameId.symm) different collisionFree

def issue (store : PaperBrokerStore) (ledger : Ledger) (calls : List Call) : Ledger :=
  calls.foldl (fun ledger call => (store.perform ledger call).2) ledger

theorem issued_issue (ledger : Ledger) (calls : List Call) :
    store.Issued ledger (store.issue ledger calls) := by
  induction calls generalizing ledger with
  | nil => exact Relation.ReflTransGen.refl
  | cons call rest ih =>
    exact Relation.ReflTransGen.head ⟨call, trivial, rfl⟩ (ih (store.perform ledger call).2)

theorem perform_eq_of_isSome (succeeded : (store.perform ledger call).1.toOption.isSome = true) :
    ∃ answer, store.perform ledger call = (.ok answer, store.issue ledger [call]) := by
  cases outcome : (store.perform ledger call).1 with
  | error raised =>
    rw [outcome] at succeeded
    cases succeeded
  | ok answer => exact ⟨answer, Prod.ext outcome rfl⟩

/-- A BUY filled in two parts: its submission can be repeated afterwards, and
its execution id cannot be used for another fill. -/
theorem execution_exactly_once_sample :
    let store := Sample.store .exact ⟨5, 0⟩
    let buy := Sample.submit (Sample.buyIntent 1 2 0) 1000 (some 1) 0 none
    let bought := store.issue store.openLedger [buy]
    let later := store.issue bought [Sample.execute 1101 8 1000 1 1 none]
    let reuse := Sample.execute 1101 10101 1000 1 1 none
    later.fills.length = 2 ∧
      ∃ answer, store.perform store.openLedger buy = (.ok answer, bought) ∧
        store.perform later buy = (.ok answer, later) ∧
        ∃ raised, raised.IsConflict ∧ store.perform later reuse = (.error raised, later) := by
  intro store buy bought later reuse
  refine ⟨by decide +kernel, ?_⟩
  obtain ⟨answer, performed⟩ : ∃ answer,
      store.perform store.openLedger buy = (.ok answer, bought) :=
    perform_eq_of_isSome (by decide +kernel)
  obtain ⟨-, -, -, once⟩ := execution_exactly_once (store.issued_issue store.openLedger [])
  obtain ⟨repeated, reused⟩ :=
    once buy 10101 answer bought later (by decide +kernel) performed (issued_issue _ _)
  refine ⟨answer, performed, repeated, ?_⟩
  have original : (store.evidence later buy).isSome = true := by
    decide +kernel
  have asked : (store.evidence later reuse).isSome = true := by
    decide +kernel
  obtain ⟨_, originalEq⟩ := Option.isSome_iff_exists.mp original
  obtain ⟨_, askedEq⟩ := Option.isSome_iff_exists.mp asked
  obtain ⟨_, -, rfl⟩ := evidence_submit.mp originalEq
  obtain ⟨_, _, -, rfl⟩ := evidence_apply.mp askedEq
  refine (reused reuse (by decide +kernel)).conflicting _ _ originalEq askedEq (by simp) ?_
  intro collides
  have digestsEqual : (10101 * 10 + 1 : Digest) = 10101 * 10 := collides
  exact absurd digestsEqual (by decide)

/-- Under a taken execution id, an unknown order id is not reported as a
conflict. -/
theorem reused_id_unknown_order :
    let store := Sample.store .exact ⟨5, 0⟩
    let buy := Sample.submit (Sample.buyIntent 1 2 0) 1000 (some 1) 0 none
    let bought := store.issue store.openLedger [buy]
    let reuse := Sample.execute 7 10101 1000 1 1 none
    (store.perform store.openLedger buy).1.toOption.isSome = true ∧
      store.executionIdOf reuse = store.executionIdOf buy ∧
      ∃ raised, ¬ raised.IsConflict ∧ (store.perform bought reuse).1 = .error raised :=
  ⟨by decide +kernel, by decide +kernel, .keyError ("unknown paper order: " ++ hex 7), by decide,
    by decide +kernel⟩

end PaperBrokerStore

end RQuant.Paper
