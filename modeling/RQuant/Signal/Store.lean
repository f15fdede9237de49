import RQuant.Signal.Contracts

/-!
# The signal bus store

The tables of the bus, the retry policy its deliveries share, and the
ingestion of signals.  A transaction body returns the tables it commits; a
raise inside it rolls back, so a call answers together with the tables it
leaves.
-/

namespace RQuant.Signal

open Foundation

/-- `signal_envelope`. -/
structure EnvelopeRow where
  globalSequence : ℕ
  (signalId payloadHash : Digest)
  payload : SignalEnvelope
  receivedAt : Time
  deriving DecidableEq

/-- `signal_quarantine`. -/
structure QuarantineRow where
  (signalId payloadHash : Digest)
  payload : SignalEnvelope
  receivedAt : Time
  reason : String
  deriving DecidableEq

/-- `delivery_outbox`. -/
structure OutboxRow where
  (outboxId signalId : Digest)
  globalSequence : ℕ
  target : DeliveryTarget
  status : OutboxStatus
  expiresAt : Time
  attemptCount : ℕ
  nextAttemptAt : Option Time
  leaseOwner : Option String
  (leaseStartedAt leaseUntil : Option Time)
  lastError : Option String
  (createdAt updatedAt : Time)
  deriving DecidableEq

/-- `delivery_attempt`. -/
structure AttemptRow where
  outboxId : Digest
  attemptNo : ℕ
  (startedAt completedAt : Time)
  success : Bool
  (providerReceipt error : Option String)
  deriving DecidableEq

/-- `delivery_unknown`. -/
structure UnknownRow where
  outboxId : Digest
  attemptNo : ℕ
  workerId : String
  observedAt : Time
  reason : String
  providerReceipt : Option String
  deriving DecidableEq

/-- `signal_route_source`. -/
structure RouteSourceRow where
  sourceId : String
  (generationId strategySpecFingerprint routingPolicyFingerprint : Digest)
  (firstSequence observedHighWatermark lastSequence : ℕ)
  lastSignalId : Option Digest
  (registeredAt updatedAt : Time)
  deriving DecidableEq

/-- `signal_route_receipt`. -/
structure RouteReceiptRow where
  sourceId : String
  sourceSequence : ℕ
  (signalId decisionFingerprint : Digest)
  disposition : RouteReceiptDisposition
  reasonCode : Option String
  targetManifestHash : Digest
  targetManifest : List DeliveryTarget
  routedAt : Time
  deriving DecidableEq

/-- `signal_route_source_rotation`. -/
structure RotationRow where
  sourceId : String
  (previousGenerationId previousSourceGenerationId previousStrategySpecFingerprint : Digest)
  archivedSourceId : String
  (routedThroughSequence abandonedSequences : ℕ)
  rotatedAt : Time
  archivedSourcePruned : Bool
  deriving DecidableEq

/-- The tables of one signal bus.  `envelopeSequence` is the counter behind
the automatic `global_sequence`, and `highWatermark` the metadata value
`signal_high_watermark`. -/
structure SignalBus where
  envelopes : List EnvelopeRow
  (envelopeSequence highWatermark : ℕ)
  quarantines : List QuarantineRow
  outbox : List OutboxRow
  attempts : List AttemptRow
  unknowns : List UnknownRow
  sources : List RouteSourceRow
  receipts : List RouteReceiptRow
  rotations : List RotationRow
  deriving DecidableEq

def SignalBus.initial : SignalBus where
  envelopes := []
  envelopeSequence := 0
  highWatermark := 0
  quarantines := []
  outbox := []
  attempts := []
  unknowns := []
  sources := []
  receipts := []
  rotations := []

/-- The retry policy, checked by the constructor and persisted with the
store. -/
structure RetryPolicy where
  (retryBaseDelay retryMaxDelay : Time)
  maxAttempts : ℕ
  retryBaseDelay_pos : 0 < retryBaseDelay
  retryMaxDelay_le : retryBaseDelay ≤ retryMaxDelay
  maxAttempts_pos : 1 ≤ maxAttempts

def RetryPolicy.default : RetryPolicy where
  retryBaseDelay := 5000000
  retryMaxDelay := 300000000
  maxAttempts := 5
  retryBaseDelay_pos := by decide
  retryMaxDelay_le := by decide
  maxAttempts_pos := by decide

def RetryPolicy.retryDelay (policy : RetryPolicy) (attemptNo : ℕ) : Time :=
  min (policy.retryBaseDelay * 2 ^ (attemptNo - 1)) policy.retryMaxDelay

structure SignalBusStore where
  digests : SignalDigests
  policy : RetryPolicy

/-- `_write_transaction`: commit on return, roll back on a raise. -/
def writeTransaction {α : Type}
    (body : SignalBus → Except BusError (α × SignalBus)) (bus : SignalBus) :
    Except BusError α × SignalBus :=
  match body bus with
  | .ok (answer, committed) => (.ok answer, committed)
  | .error raised => (.error raised, bus)

variable {after bus : SignalBus}

section Transactions

variable {α : Type}

theorem writeTransaction_cases (called : writeTransaction body bus = (outcome, after)) :
    (after = bus ∧ ∃ raised, outcome = .error raised) ∨
      ∃ answer, outcome = .ok answer ∧ body bus = .ok (answer, after) := by
  unfold writeTransaction at called
  split at called
  · rename_i answer committed executed
    cases called
    exact Or.inr ⟨answer, rfl, executed⟩
  · rename_i raised _
    cases called
    exact Or.inl ⟨rfl, raised, rfl⟩

theorem body_of_writeTransaction (called : writeTransaction body bus = (.ok answer, after)) :
    body bus = .ok (answer, after) := by
  rcases writeTransaction_cases called with ⟨_, _, raised⟩ | ⟨_, same, executed⟩
  · cases raised
  · cases same
    exact executed

end Transactions

namespace SignalBusStore

variable (store : SignalBusStore)

/-- `parse_stored_signal`: the payload must match the columns beside it. -/
def parseStoredSignal (row : EnvelopeRow) : Except BusError SignalEnvelope := do
  require (row.payloadHash = store.digests.payloadHash row.payload)
    (.integrity "stored signal payload hash does not match payload_json")
  require (row.payload.signalId = row.signalId)
    (.integrity "stored signal_id does not match signal payload")
  pure row.payload

/-- `SignalBusStore.signal` by identity. -/
def signal (signalId : Digest) (bus : SignalBus) : Except BusError (Option SignalEnvelope) :=
  match findKey EnvelopeRow.signalId signalId bus.envelopes with
  | none => .ok none
  | some row => do
    let signal ← store.parseStoredSignal row
    pure (some signal)

section

variable (signal : SignalEnvelope) (receivedAt : Time)

/-- Quarantine a payload, once for each payload hash. -/
def quarantine (reason : String) (bus : SignalBus) : SignalBus :=
  let row : QuarantineRow := {
    signalId := signal.signalId
    payloadHash := store.digests.payloadHash signal
    payload := signal
    receivedAt := receivedAt
    reason := reason
  }
  if bus.quarantines.any fun kept =>
      kept.signalId = row.signalId ∧ kept.payloadHash = row.payloadHash then
    bus
  else { bus with quarantines := bus.quarantines ++ [row] }

/-- Store a new signal under the next global sequence. -/
def acceptSignal (bus : SignalBus) : SignalBus :=
  let sequence := bus.envelopeSequence + 1
  let row : EnvelopeRow := {
    globalSequence := sequence
    signalId := signal.signalId
    payloadHash := store.digests.payloadHash signal
    payload := signal
    receivedAt := receivedAt
  }
  { bus with
    envelopes := bus.envelopes ++ [row]
    envelopeSequence := sequence
    highWatermark :=
      if bus.highWatermark < sequence then sequence else bus.highWatermark }

def ingestInTransaction (bus : SignalBus) : RouterReceipt × SignalBus :=
  match findKey EnvelopeRow.signalId signal.signalId bus.envelopes with
  | some existing =>
    if existing.payloadHash = store.digests.payloadHash signal ∧ existing.payload = signal then
      ({ signalId := signal.signalId, disposition := .duplicate,
         globalSequence := some existing.globalSequence, reason := none, receivedAt }, bus)
    else
      let reason := "signal_id already exists with different canonical payload"
      ({ signalId := signal.signalId, disposition := .quarantined, globalSequence := none,
         reason := some reason, receivedAt },
        store.quarantine signal receivedAt reason bus)
  | none =>
    let accepted := store.acceptSignal signal receivedAt bus
    ({ signalId := signal.signalId, disposition := .accepted,
       globalSequence := some accepted.envelopeSequence, reason := none, receivedAt }, accepted)

end

/-- `SignalBusStore.ingest`. -/
def ingest (signal : SignalEnvelopeFamily) (receivedAt : Time) :
    SignalBus → Except BusError RouterReceipt × SignalBus :=
  writeTransaction fun bus => do
    let signal ← requireLegacySignalWrite "SignalBusStore.ingest" signal
    pure (store.ingestInTransaction signal receivedAt bus)

end SignalBusStore

end RQuant.Signal
