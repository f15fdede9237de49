import RQuant.Signal.Store

/-!
# The delivery outbox

Routing creates one outbox row for each target of a signal.  Workers claim due
rows under a lease; leases that ran out are recovered.  Every call that hands
rows back validates them, so a row it could not read rolls the call back.
-/

namespace RQuant.Signal

open Foundation SignalBusStore

namespace OutboxRow

def expire (reason : String) (at_ : Time) (row : OutboxRow) : OutboxRow :=
  { row with status := .expired, nextAttemptAt := none, lastError := some reason, updatedAt := at_ }

def lease (worker : String) (at_ deadline : Time) (row : OutboxRow) : OutboxRow :=
  { row with
    status := .leased, attemptCount := row.attemptCount + 1, nextAttemptAt := none,
    leaseOwner := some worker, leaseStartedAt := some at_, leaseUntil := some deadline,
    updatedAt := at_ }

section

variable (status : OutboxStatus) (nextAttemptAt : Option Time) (lastError : Option String)

def settle (at_ : Time) (row : OutboxRow) : OutboxRow :=
  { row with
    status, nextAttemptAt, leaseOwner := none, leaseStartedAt := none, leaseUntil := none,
    lastError, updatedAt := at_ }

def giveBack (at_ : Time) (row : OutboxRow) : OutboxRow :=
  { row.settle status nextAttemptAt lastError at_ with
    attemptCount := row.attemptCount - 1 }

end

/-- Note that the outcome of the running attempt is unknown. -/
def noteUnknown (reason : String) (at_ : Time) (row : OutboxRow) : OutboxRow :=
  { row with
    lastError := some ("delivery outcome unknown: " ++ reason)
    updatedAt := at_ }

section

variable (row : OutboxRow)

/-- The columns an `OutboxRecord` is read from. -/
def record : OutboxRecord where
  outboxId := row.outboxId
  signalId := row.signalId
  target := row.target
  status := row.status
  expiresAt := row.expiresAt
  attemptCount := row.attemptCount
  nextAttemptAt := row.nextAttemptAt
  leaseOwner := row.leaseOwner.map strip
  leaseUntil := row.leaseUntil
  lastError := row.lastError.map strip
  createdAt := row.createdAt
  updatedAt := row.updatedAt

/-- `ORDER BY global_sequence, recipient_id, channel, outbox_id`. -/
def listingKey : ℕ ×ₗ String ×ₗ String ×ₗ Digest :=
  toLex (row.globalSequence, toLex (row.target.recipientId,
    toLex (row.target.channel.text, row.outboxId)))

/-- `ORDER BY recipient_id, channel, outbox_id`. -/
def targetKey : String ×ₗ String ×ₗ Digest :=
  toLex (row.target.recipientId, toLex (row.target.channel.text, row.outboxId))

def claimKey : Time ×ₗ ℕ ×ₗ Time ×ₗ Digest :=
  toLex (row.nextAttemptAt.getD row.createdAt, toLex (row.globalSequence,
    toLex (row.createdAt, row.outboxId)))

def recoveryKey : Time ×ₗ ℕ ×ₗ Digest :=
  toLex (row.leaseUntil.getD 0, toLex (row.globalSequence, row.outboxId))

end

def Lapsed (now : Time) (row : OutboxRow) : Prop := row.status.Waiting ∧ row.expiresAt ≤ now
deriving Decidable

def Due (now : Time) (row : OutboxRow) : Prop :=
  row.status.Waiting ∧ now < row.expiresAt ∧ ∀ next ∈ row.nextAttemptAt, next ≤ now
deriving Decidable

def Overdue (now : Time) (row : OutboxRow) : Prop :=
  row.status = .leased ∧ ∃ deadline ∈ row.leaseUntil, deadline ≤ now
deriving Decidable

end OutboxRow

/-- How a delivery attempt ended. -/
inductive CompletionOutcome where
  | succeeded (providerReceipt : String)
  | failed (error : String)
  deriving DecidableEq

/-- The status, next attempt and error a finished attempt leaves. -/
def RetryPolicy.settlement (policy : RetryPolicy) (expiresAt : Time) (attemptNo : ℕ)
    (completed : Time) :
    CompletionOutcome → OutboxStatus × Option Time × Option String
  | .succeeded _ => (.succeeded, none, none)
  | .failed error =>
    let retryAt := completed + policy.retryDelay attemptNo
    if expiresAt ≤ completed ∨ expiresAt ≤ retryAt then
      (.expired, none, some ("delivery window expired after failure: " ++ error))
    else if policy.maxAttempts ≤ attemptNo then
      (.deadLetter, none, some error)
    else (.retry, some retryAt, some error)

/-- The row of `delivery_attempt` for a finished attempt. -/
def CompletionOutcome.attempt (outcome : CompletionOutcome) (outboxId : Digest) (attemptNo : ℕ)
    (startedAt completedAt : Time) : AttemptRow :=
  match outcome with
  | .succeeded providerReceipt => {
      outboxId := outboxId
      attemptNo := attemptNo
      startedAt := startedAt
      completedAt := completedAt
      success := true
      providerReceipt := some providerReceipt
      error := none }
  | .failed error => {
      outboxId := outboxId
      attemptNo := attemptNo
      startedAt := startedAt
      completedAt := completedAt
      success := false
      providerReceipt := none
      error := some error }

def OutboxRow.finish (policy : RetryPolicy) (attemptNo : ℕ) (completedAt : Time)
    (outcome : CompletionOutcome) (read : OutboxRow) :
    OutboxRow → OutboxRow :=
  let settled := policy.settlement read.expiresAt attemptNo completedAt outcome
  OutboxRow.settle settled.1 settled.2.1 settled.2.2 completedAt

/-- Give back the attempt of a row that was never made. -/
def OutboxRow.release (reason : String) (releasedAt : Time) (read : OutboxRow) :
    OutboxRow → OutboxRow :=
  let expired := read.expiresAt ≤ releasedAt
  OutboxRow.giveBack (if expired then .expired else .retry)
    (if expired then none else some releasedAt)
    (some ("not attempted: " ++ strip reason)) releasedAt

/-- The error a recovered lease leaves; evidence of an unknown outcome is kept
behind it. -/
def recoveryError (recoveredAt : Time) (row : OutboxRow) : String :=
  let base :=
    if row.expiresAt ≤ recoveredAt then
      "delivery outcome unknown after signal expiry"
    else "delivery outcome unknown after lease expiry"
  match row.lastError with
  | none => base
  | some noted =>
    if "delivery outcome unknown:".toList.isPrefixOf noted.toList then
      base ++ ": " ++ noted
    else base

/-- End a lease that ran out, by what was read of its row; it is never
retried. -/
def OutboxRow.recover (recoveredAt : Time) (read : OutboxRow) : OutboxRow → OutboxRow :=
  OutboxRow.settle (if read.expiresAt ≤ recoveredAt then .expired else .deadLetter)
    none (some (recoveryError recoveredAt read)) recoveredAt

namespace SignalBusStore

variable (store : SignalBusStore)

def outboxFromRow (row : OutboxRow) : Except BusError OutboxRecord := do
  require (∀ owner ∈ row.leaseOwner, ¬ Blank owner)
    (.value "lease_owner should have at least 1 character")
  require (∀ error ∈ row.lastError, ¬ Blank error)
    (.value "last_error should have at least 1 character")
  row.record.validateRecord store.digests
  pure row.record

def rowsForOutboxIds (outbox : List OutboxRow) (outboxIds : List Digest) : List OutboxRow :=
  sortOn OutboxRow.listingKey (outbox.filter fun row => row.outboxId ∈ outboxIds)

def outboxRecord (outboxId : Digest) (bus : SignalBus) : Except BusError (Option OutboxRecord) :=
  match findKey OutboxRow.outboxId outboxId bus.outbox with
  | none => .ok none
  | some row => do
    let record ← store.outboxFromRow row
    pure (some record)

/-- `outbox_records`, of one signal and one status when they are given. -/
def outboxRecords (signalId : Option Digest) (status : Option OutboxStatus)
    (bus : SignalBus) : Except BusError (List OutboxRecord) :=
  (sortOn OutboxRow.listingKey (bus.outbox.filter fun row =>
    signalId.all (fun wanted => row.signalId = wanted) &&
      status.all (fun wanted => row.status = wanted))).mapM
    store.outboxFromRow

def outboxRow (outboxId : Digest) (outbox : List OutboxRow) : Except BusError OutboxRow :=
  orRaise (.missing ("outbox '" ++ hex outboxId ++ "' does not exist"))
    (findKey OutboxRow.outboxId outboxId outbox)

section

variable (envelope : EnvelopeRow) (signal : SignalEnvelope) (routedAt : Time)

def routedRow (target : DeliveryTarget) : OutboxRow :=
  let expired := signal.expiresAt ≤ routedAt
  { outboxId := store.digests.deliveryKey envelope.signalId target
    signalId := envelope.signalId
    globalSequence := envelope.globalSequence
    target := target
    status := if expired then .expired else .pending
    expiresAt := signal.expiresAt
    attemptCount := 0
    nextAttemptAt := none
    leaseOwner := none
    leaseStartedAt := none
    leaseUntil := none
    lastError := if expired then some "signal expired before routing" else none
    createdAt := if expired then signal.availableAt else routedAt
    updatedAt := routedAt }

/-- One target of `_route_in_transaction`: a known target only expires, a new
one is inserted. -/
def routeTarget (outbox : List OutboxRow) (target : DeliveryTarget) :
    Except BusError (List OutboxRow) :=
  let outboxId := store.digests.deliveryKey envelope.signalId target
  match findKey OutboxRow.outboxId outboxId outbox with
  | some existing =>
    if signal.expiresAt ≤ routedAt ∧ existing.status.Waiting then
      .ok (updateKey OutboxRow.outboxId outboxId
        (OutboxRow.expire "signal expired before routing" routedAt) outbox)
    else .ok outbox
  | none =>
    insertUnique (fun row : OutboxRow => (row.signalId, row.target))
      (.integrity "UNIQUE constraint failed: delivery_outbox")
      outbox (store.routedRow envelope signal routedAt target)

end

section

variable (signalId : Digest)

section

variable (targets : List DeliveryTarget)

def routeInTransaction (routedAt : Time)
    (bus : SignalBus) : Except BusError (List OutboxRow × SignalBus) := do
  let envelope ←
    orRaise (.missing ("signal '" ++ hex signalId ++ "' does not exist"))
      (findKey EnvelopeRow.signalId signalId bus.envelopes)
  let signal ← store.parseStoredSignal envelope
  require (signal.availableAt ≤ routedAt) (.value "signal cannot be routed before available_at")
  let outbox ← targets.foldlM (store.routeTarget envelope signal routedAt) bus.outbox
  let rows := sortOn OutboxRow.targetKey <| outbox.filter fun row =>
    row.signalId = signalId ∧ row.target ∈ targets
  pure (rows, { bus with outbox := outbox })

def preflightStoredLegacySignal (bus : SignalBus) : Except BusError Unit := do
  let _ ← store.signal signalId bus
  pure ()

def requireFrozenTargets (bus : SignalBus) : Except BusError Unit :=
  match findKey RouteReceiptRow.signalId signalId bus.receipts with
  | none => .ok ()
  | some frozen =>
    require (canonicalDeliveryTargets frozen.targetManifest = targets)
      (.conflict "targets conflict with the frozen target manifest")

/-- `SignalBusStore.route`. -/
def route (now : Time) : SignalBus → Except BusError (List OutboxRecord) × SignalBus :=
  writeTransaction fun bus => do
    let uniqueTargets := canonicalDeliveryTargets targets
    store.preflightStoredLegacySignal signalId bus
    if uniqueTargets = [] then
      pure ([], bus)
    else do
      requireFrozenTargets signalId uniqueTargets bus
      let (rows, routed) ← store.routeInTransaction signalId uniqueTargets now bus
      let records ← rows.mapM store.outboxFromRow
      pure (records, routed)

end

end

/-- The rows a claim works on: waiting rows past their expiry are ended
first. -/
def expireLapsed (now : Time) (outbox : List OutboxRow) : List OutboxRow :=
  outbox.map fun row =>
    if row.Lapsed now then
      row.expire "signal expired before delivery claim" now
    else row

def claimCandidates (now : Time) (limit : ℕ) (outbox : List OutboxRow) : List OutboxRow :=
  (sortOn OutboxRow.claimKey (outbox.filter fun row => row.Due now)).take limit

def claimDue (workerId : String) (now leaseFor : Time) (limit : ℕ) :
    SignalBus → Except BusError (List OutboxRecord) × SignalBus :=
  writeTransaction fun bus => do
    let worker := strip workerId
    require (worker ≠ "") (.value "worker_id must not be empty")
    require (0 < leaseFor) (.value "lease_for must be positive")
    require (1 ≤ limit) (.value "limit must be positive")
    let open_ := expireLapsed now bus.outbox
    let candidates := claimCandidates now limit open_
    let claimed := updateEach OutboxRow.outboxId
      (fun row => OutboxRow.lease worker now (min (now + leaseFor) row.expiresAt))
      candidates open_
    let records ←
      (rowsForOutboxIds claimed (candidates.map OutboxRow.outboxId)).mapM store.outboxFromRow
    pure (records, { bus with outbox := claimed })

/-! ## Completing -/

/-- The checks every report on a running lease starts with. -/
def verifyLeaseHolder (workerId : String) (attemptNo : ℕ) (row : OutboxRow) :
    Except BusError Unit := do
  require (row.status = .leased) (.lease "outbox does not have an active lease")
  require (row.leaseOwner = some workerId) (.lease "lease owner does not match worker")
  require (row.attemptCount = attemptNo) (.lease "attempt number does not match active lease")

def requireTime : Option Time → Except BusError Time :=
  orRaise (.value "stored datetime is unexpectedly NULL")

/-- `_verify_lease`; the start of the lease is what its caller reads next. -/
def verifyLease (workerId : String) (attemptNo : ℕ) (completedAt : Time)
    (row : OutboxRow) : Except BusError Time := do
  verifyLeaseHolder workerId attemptNo row
  let startedAt ← requireTime row.leaseStartedAt
  let leaseUntil ← requireTime row.leaseUntil
  require (startedAt ≤ completedAt) (.lease "completion precedes lease start")
  require (completedAt < leaseUntil) (.lease "delivery lease has expired")
  pure startedAt

section

variable (outboxId : Digest) (workerId : String) (attemptNo : ℕ)

def complete (completedAt : Time) (outcome : CompletionOutcome) (bus : SignalBus) :
    Except BusError (OutboxRecord × SignalBus) := do
  let row ← outboxRow outboxId bus.outbox
  let startedAt ← verifyLease workerId attemptNo completedAt row
  require (1 ≤ attemptNo) (.integrity "CHECK constraint failed: attempt_no >= 1")
  let attempts ←
    insertUnique (fun attempt : AttemptRow => (attempt.outboxId, attempt.attemptNo))
      (.integrity "UNIQUE constraint failed: delivery_attempt")
      bus.attempts (outcome.attempt outboxId attemptNo startedAt completedAt)
  let outbox := updateKey OutboxRow.outboxId outboxId
    (row.finish store.policy attemptNo completedAt outcome) bus.outbox
  let updated ← outboxRow outboxId outbox
  let record ← store.outboxFromRow updated
  pure (record, { bus with outbox := outbox, attempts := attempts })

def completeSuccess (completedAt : Time) (providerReceipt : String) :
    SignalBus → Except BusError OutboxRecord × SignalBus :=
  writeTransaction fun bus => do
    require (¬ Blank providerReceipt) (.value "provider_receipt must not be empty")
    store.complete outboxId workerId attemptNo completedAt (.succeeded providerReceipt) bus

def completeFailure (completedAt : Time) (error : String) :
    SignalBus → Except BusError OutboxRecord × SignalBus :=
  writeTransaction fun bus => do
    require (¬ Blank error) (.value "error must not be empty")
    store.complete outboxId workerId attemptNo completedAt (.failed error) bus

def releaseUnattempted (releasedAt : Time) (reason : String) :
    SignalBus → Except BusError OutboxRecord × SignalBus :=
  writeTransaction fun bus => do
    require (¬ Blank reason) (.value "reason must not be empty")
    let row ← outboxRow outboxId bus.outbox
    verifyLeaseHolder workerId attemptNo row
    let startedAt ← requireTime row.leaseStartedAt
    require (startedAt ≤ releasedAt) (.lease "release precedes lease start")
    require (1 ≤ row.attemptCount) (.integrity "CHECK constraint failed: attempt_count >= 0")
    let outbox := updateKey OutboxRow.outboxId outboxId (row.release reason releasedAt) bus.outbox
    let updated ← outboxRow outboxId outbox
    let record ← store.outboxFromRow updated
    pure (record, { bus with outbox := outbox })

end

def unknownFromRow (row : UnknownRow) : UnknownRow :=
  { row with
    workerId := strip row.workerId, reason := strip row.reason,
    providerReceipt := row.providerReceipt.map strip }

def recordUnknownDelivery (outboxId : Digest) (workerId : String) (attemptNo : ℕ)
    (observedAt : Time) (reason : String) (providerReceipt : Option String) :
    SignalBus → Except BusError UnknownRow × SignalBus :=
  writeTransaction fun bus => do
    require (¬ Blank reason) (.value "reason must not be empty")
    require (∀ receipt ∈ providerReceipt, ¬ Blank receipt)
      (.value "provider_receipt must not be empty when present")
    require (1 ≤ attemptNo) (.value "attempt_no should be greater than or equal to 1")
    require (¬ Blank workerId) (.value "worker_id should have at least 1 character")
    let row : UnknownRow := {
      outboxId := outboxId
      attemptNo := attemptNo
      workerId := workerId
      observedAt := observedAt
      reason := strip reason
      providerReceipt := providerReceipt.map strip }
    let evidence := unknownFromRow row
    let leased ← outboxRow outboxId bus.outbox
    verifyLeaseHolder workerId attemptNo leased
    let startedAt ← requireTime leased.leaseStartedAt
    require (startedAt ≤ observedAt) (.lease "unknown outcome precedes lease start")
    match findKey (fun kept : UnknownRow => (kept.outboxId, kept.attemptNo))
        (outboxId, attemptNo) bus.unknowns with
    | some existing => do
      let restored := unknownFromRow existing
      require (restored = evidence) (.lease "unknown delivery evidence is immutable")
      pure (restored, bus)
    | none =>
      pure (evidence, { bus with
        unknowns := bus.unknowns ++ [row]
        outbox := updateKey OutboxRow.outboxId outboxId
          (OutboxRow.noteUnknown (strip reason) observedAt) bus.outbox })

def recoverExpiredLeases (now : Time) :
    SignalBus → Except BusError (List OutboxRecord) × SignalBus :=
  writeTransaction fun bus => do
    let overdue := sortOn OutboxRow.recoveryKey (bus.outbox.filter fun row => row.Overdue now)
    let recovered := updateEach OutboxRow.outboxId (OutboxRow.recover now) overdue bus.outbox
    let records ←
      (rowsForOutboxIds recovered (overdue.map OutboxRow.outboxId)).mapM store.outboxFromRow
    pure (records, { bus with outbox := recovered })

end SignalBusStore

end RQuant.Signal
