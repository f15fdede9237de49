import RQuant.Signal.Outbox

/-!
# The route ledger

Every strategy source numbers its signals; the ledger commits them in order,
one receipt for each.  A release gives a source a new generation: its row and
receipts are archived, and archives beyond the last two are pruned.
-/

namespace RQuant.Signal

open Foundation

def archivedGenerationsKept : ℕ := 2

/-- The deployment generation that published a strategy specification, for
every generation but the current one.  Each release opens the store with its
own. -/
abbrev PreviousGenerations := Digest → Option Digest

structure RouteSourceBindingRequest where
  descriptor : RouteSourceDescriptor
  routingPolicyFingerprint : Digest
  observedAt : Time
  deriving DecidableEq

/-- The arguments of `commit_source_route`. -/
structure SourceRouteCommit where
  descriptor : RouteSourceDescriptor
  routingPolicyFingerprint : Digest
  sourceSequence : ℕ
  signal : SignalEnvelopeFamily
  decisionKind : RouteDecisionKind
  decisionFingerprint : Digest
  reasonCode : Option String
  targets : List DeliveryTarget
  routedAt : Time
  deriving DecidableEq

namespace SourceRouteCommit

section

variable (commit : SourceRouteCommit)

def canonicalTargets : List DeliveryTarget :=
  canonicalDeliveryTargets commit.targets

def reason : Option String := commit.reasonCode.map strip

def binding : RouteSourceBindingRequest where
  descriptor := commit.descriptor
  routingPolicyFingerprint := commit.routingPolicyFingerprint
  observedAt := commit.routedAt

end

/-- `_SourceRouteCommitRequest.validate_decision` and its field checks. -/
def validateDecision (digests : SignalDigests) (commit : SourceRouteCommit) :
    Except BusError Unit := do
  require (1 ≤ commit.sourceSequence)
    (.value "source_sequence should be greater than or equal to 1")
  require (∀ reason ∈ commit.reasonCode, ¬ Blank reason)
    (.value "reason_code should have at least 1 character")
  require (commit.decisionKind = .route → commit.canonicalTargets ≠ [] ∧ commit.reason = none)
    (.value "ROUTE requires targets and forbids reason_code")
  require
    (commit.decisionKind = .noTarget → commit.canonicalTargets = [] ∧ commit.reason.isSome = true)
    (.value "NO_TARGET requires reason_code and forbids targets")
  require
    (commit.decisionFingerprint =
      digests.routingDecision commit.routingPolicyFingerprint
        commit.decisionKind commit.canonicalTargets commit.reason)
    (.value "decision_fingerprint does not match routing decision")

end SourceRouteCommit

structure SignalRouteCommitResult where
  receipt : SignalRouteReceipt
  duplicate : Bool
  deriving DecidableEq

/-- `RouteSourceBinding`: the source row its cursor is read from, and whether
the watermark moved. -/
structure RouteSourceBinding where
  source : RouteSourceRow
  watermarkAdvanced : Bool
  deriving DecidableEq

def archivedSourceId (sourceId : String) (generationId : Digest) : String :=
  sourceId ++ "#rotated-" ++ hex generationId

section

variable (request : RouteSourceBindingRequest)

def RouteSourceBindingRequest.freshSource : RouteSourceRow where
  sourceId := request.descriptor.sourceId
  generationId := request.descriptor.generationId
  strategySpecFingerprint := request.descriptor.strategySpecFingerprint
  routingPolicyFingerprint := request.routingPolicyFingerprint
  firstSequence := request.descriptor.firstSequence
  observedHighWatermark := request.descriptor.highWatermark
  lastSequence := request.descriptor.firstSequence - 1
  lastSignalId := none
  registeredAt := request.observedAt
  updatedAt := request.observedAt

/-- Whether a bind steps a source forward to a new generation, and from which
deployment generation. -/
def RouteSourceBindingRequest.rotatesFrom (previous : PreviousGenerations)
    (row : RouteSourceRow) : Option Digest :=
  if row.generationId = request.descriptor.generationId then none
  else match previous row.strategySpecFingerprint with
    | none => none
    | some previousGenerationId =>
      if (previous request.descriptor.strategySpecFingerprint).isSome then
        none
      else if
          row.routingPolicyFingerprint ≠ request.routingPolicyFingerprint ∨
            row.firstSequence ≠ request.descriptor.firstSequence then
        none
      else some previousGenerationId

def RouteSourceRow.archive (row : RouteSourceRow) (archivedId : String) (at_ : Time) :
    RouteSourceRow :=
  { row with sourceId := archivedId, updatedAt := at_ }

def RouteReceiptRow.rename (sourceId archivedId : String)
    (receipt : RouteReceiptRow) : RouteReceiptRow :=
  if receipt.sourceId = sourceId then { receipt with sourceId := archivedId }
  else receipt

def RouteSourceBindingRequest.rotation (previousGenerationId : Digest)
    (row : RouteSourceRow) : RotationRow where
  sourceId := request.descriptor.sourceId
  previousGenerationId := previousGenerationId
  previousSourceGenerationId := row.generationId
  previousStrategySpecFingerprint := row.strategySpecFingerprint
  archivedSourceId := archivedSourceId request.descriptor.sourceId row.generationId
  routedThroughSequence := row.lastSequence
  abandonedSequences := row.observedHighWatermark - row.lastSequence
  rotatedAt := request.observedAt
  archivedSourcePruned := false

end

namespace SignalBus

/-- The unpruned rotations of a source, newest first. -/
def openRotations (bus : SignalBus) (sourceId : String) : List RotationRow :=
  (bus.rotations.filter fun rotation =>
    rotation.sourceId = sourceId ∧ rotation.archivedSourcePruned = false).reverse

/-- Delete one archived ledger and mark its rotation. -/
def pruneArchive (bus : SignalBus) (rotation : RotationRow) : SignalBus :=
  { bus with
    receipts := bus.receipts.filter fun receipt => receipt.sourceId ≠ rotation.archivedSourceId
    sources := bus.sources.filter fun source => source.sourceId ≠ rotation.archivedSourceId
    rotations := bus.rotations.map fun kept =>
      if kept.sourceId = rotation.sourceId ∧
          kept.previousSourceGenerationId = rotation.previousSourceGenerationId then
        { kept with archivedSourcePruned := true }
      else kept }

def pruneRotatedSources (bus : SignalBus) (sourceId : String) : SignalBus :=
  ((bus.openRotations sourceId).drop archivedGenerationsKept).foldl pruneArchive bus

/-- The number of the last stored signal, as the durable rows show it. -/
def maxGlobalSequence (bus : SignalBus) : ℕ :=
  (bus.envelopes.map EnvelopeRow.globalSequence).foldl max 0

end SignalBus

section

variable (request : RouteSourceBindingRequest)

/-- The rotation inside `_rotate_previous_generation_source`. -/
def rotateSource (previousGenerationId : Digest) (row : RouteSourceRow) (bus : SignalBus) :
    Except BusError (RouteSourceRow × SignalBus) := do
  let sourceId := request.descriptor.sourceId
  let archivedId := archivedSourceId sourceId row.generationId
  require (findKey RouteSourceRow.sourceId archivedId bus.sources = none)
    (.conflict ("source '" ++ sourceId ++ "' generation archive already exists"))
  let receipts := bus.receipts.map (RouteReceiptRow.rename sourceId archivedId)
  require (receipts.map fun receipt => (receipt.sourceId, receipt.sourceSequence)).Nodup
    (.integrity "UNIQUE constraint failed: signal_route_receipt")
  let rotations ←
    insertUnique
      (fun rotation : RotationRow => (rotation.sourceId, rotation.previousSourceGenerationId))
      (.integrity "UNIQUE constraint failed: signal_route_source_rotation")
      bus.rotations (request.rotation previousGenerationId row)
  let sources :=
    (bus.sources ++ [row.archive archivedId request.observedAt]).filter
      fun source => source.sourceId ≠ sourceId
  let rotated : SignalBus := { bus with
    sources := sources ++ [request.freshSource], receipts, rotations }
  let pruned := rotated.pruneRotatedSources sourceId
  let source ←
    orRaise (.conflict "rotated route source is unavailable")
      (findKey RouteSourceRow.sourceId sourceId pruned.sources)
  pure (source, pruned)

def RouteSourceBindingRequest.requireUnchanged (row : RouteSourceRow) : Except BusError Unit := do
  let changed := fun label : String =>
    BusError.conflict ("source '" ++ request.descriptor.sourceId ++ "' " ++ label ++ " changed")
  require (row.generationId = request.descriptor.generationId) (changed "generation")
  require (row.strategySpecFingerprint = request.descriptor.strategySpecFingerprint)
    (changed "strategy spec")
  require (row.routingPolicyFingerprint = request.routingPolicyFingerprint)
    (changed "routing policy")
  require (row.firstSequence = request.descriptor.firstSequence) (changed "first sequence")

def advanceWatermark (row : RouteSourceRow)
    (bus : SignalBus) : Except BusError (RouteSourceBinding × SignalBus) := do
  request.requireUnchanged row
  require (row.observedHighWatermark ≤ request.descriptor.highWatermark)
    (.sequence ("source high watermark regressed from " ++
      toString row.observedHighWatermark ++ " to " ++
      toString request.descriptor.highWatermark))
  require (row.lastSequence ≤ request.descriptor.highWatermark)
    (.sequence "source high watermark is behind the committed cursor")
  if request.descriptor.highWatermark = row.observedHighWatermark then
    pure ({ source := row, watermarkAdvanced := false }, bus)
  else
    let advance := fun source : RouteSourceRow =>
      { source with
        observedHighWatermark := request.descriptor.highWatermark, updatedAt := request.observedAt }
    pure ({ source := advance row, watermarkAdvanced := true },
      { bus with
        sources := updateKey RouteSourceRow.sourceId
          request.descriptor.sourceId advance bus.sources })

end

def bindRouteSourceInTransaction
    (previous : PreviousGenerations) (request : RouteSourceBindingRequest)
    (bus : SignalBus) : Except BusError (RouteSourceBinding × SignalBus) :=
  match findKey RouteSourceRow.sourceId request.descriptor.sourceId bus.sources with
  | none =>
    .ok ({ source := request.freshSource, watermarkAdvanced := true },
      { bus with sources := bus.sources ++ [request.freshSource] })
  | some row =>
    match request.rotatesFrom previous row with
    | some previousGenerationId => do
      let (source, rotated) ← rotateSource request previousGenerationId row bus
      pure ({ source := source, watermarkAdvanced := true }, rotated)
    | none => advanceWatermark request row bus

/-- `bind_route_source_observed`. -/
def bindRouteSource (previous : PreviousGenerations) (request : RouteSourceBindingRequest) :
    SignalBus → Except BusError RouteSourceBinding × SignalBus :=
  writeTransaction (bindRouteSourceInTransaction previous request)

namespace SignalBusStore

variable (store : SignalBusStore)

def routeReceiptFromRow (row : RouteReceiptRow) : Except BusError SignalRouteReceipt := do
  require (store.digests.manifestHash row.targetManifest = row.targetManifestHash)
    (.value "stored target manifest hash does not match its payload")
  let receipt : SignalRouteReceipt := {
    sourceId := row.sourceId
    sourceSequence := row.sourceSequence
    signalId := row.signalId
    decisionFingerprint := row.decisionFingerprint
    disposition := row.disposition
    reasonCode := row.reasonCode
    targetManifestHash := row.targetManifestHash
    targets := row.targetManifest
    targetCount := row.targetManifest.length
    routedAt := row.routedAt }
  receipt.validateTargets
  pure receipt

/-- A sequence that already has its receipt: the same decision is confirmed,
another one is refused. -/
def confirmCommitted (commit : SourceRouteCommit) (signal : SignalEnvelope)
    (existing : RouteReceiptRow) (bus : SignalBus) :
    Except BusError (SignalRouteCommitResult × SignalBus) := do
  let stored ← store.routeReceiptFromRow existing
  require
    (stored.signalId = signal.signalId ∧ stored.decisionFingerprint = commit.decisionFingerprint ∧
      stored.targetManifestHash = store.digests.manifestHash commit.canonicalTargets ∧
      stored.reasonCode = commit.reason)
    (.conflict "source sequence was already routed with a different decision")
  let ingested := store.ingestInTransaction signal commit.routedAt bus
  require (ingested.1.disposition ≠ .quarantined)
    (.conflict "source sequence signal payload conflicts with the stored signal")
  pure ({ receipt := stored, duplicate := true }, ingested.2)

section

variable (commit : SourceRouteCommit) (signal : SignalEnvelope)

/-- What a new commit is checked against before anything is written. -/
def requireCommittable (source : RouteSourceRow) (bus : SignalBus) : Except BusError Unit := do
  require (findKey RouteReceiptRow.signalId signal.signalId bus.receipts = none)
    (.conflict "signal identity is already owned by another source receipt")
  require (commit.sourceSequence = source.lastSequence + 1)
    (.sequence ("expected runner sequence " ++ toString (source.lastSequence + 1) ++ ", got " ++
      toString commit.sourceSequence))
  require (commit.sourceSequence ≤ commit.descriptor.highWatermark)
    (.sequence "source sequence exceeds the declared high watermark")
  require (signal.availableAt ≤ commit.routedAt)
    (.value "future signal cannot be committed to the route ledger")
  let existingTargets :=
    (bus.outbox.filter fun row => row.signalId = signal.signalId).map OutboxRow.target
  require
    (existingTargets = [] ∨
      (existingTargets ⊆ commit.canonicalTargets ∧ commit.canonicalTargets ⊆ existingTargets))
    (.conflict "existing outbox targets conflict with the frozen target manifest")
  require (commit.decisionKind = .noTarget → existingTargets = [])
    (.conflict "no-target decision conflicts with existing outbox targets")

def committedReceipt : RouteReceiptRow where
  sourceId := commit.descriptor.sourceId
  sourceSequence := commit.sourceSequence
  signalId := signal.signalId
  decisionFingerprint := commit.decisionFingerprint
  disposition :=
    match commit.decisionKind with
    | .noTarget => .noTarget
    | .route => if signal.expiresAt ≤ commit.routedAt then .expired else .routed
  reasonCode := commit.reason
  targetManifestHash := store.digests.manifestHash commit.canonicalTargets
  targetManifest := commit.canonicalTargets
  routedAt := commit.routedAt

def routeCommitted (bus : SignalBus) : Except BusError SignalBus := do
  let ingested := store.ingestInTransaction signal commit.routedAt bus
  require (ingested.1.disposition ≠ .quarantined) (.conflict "signal payload was quarantined")
  match commit.decisionKind with
  | .noTarget => pure ingested.2
  | .route => do
    let routed ←
      store.routeInTransaction signal.signalId commit.canonicalTargets commit.routedAt ingested.2
    pure routed.2

def commitNew (source : RouteSourceRow) (bus : SignalBus) :
    Except BusError (SignalRouteCommitResult × SignalBus) := do
  requireCommittable commit signal source bus
  let routed ← store.routeCommitted commit signal bus
  let row := store.committedReceipt commit signal
  let receipts ←
    insertUnique (fun receipt : RouteReceiptRow => (receipt.sourceId, receipt.sourceSequence))
      (.integrity "UNIQUE constraint failed: signal_route_receipt")
      routed.receipts row
  let advance := fun stored : RouteSourceRow =>
    { stored with
      lastSequence := commit.sourceSequence, lastSignalId := some signal.signalId,
      updatedAt := commit.routedAt }
  let receipt ← store.routeReceiptFromRow row
  pure ({ receipt := receipt, duplicate := false },
    { routed with
      receipts := receipts
      sources := updateKey RouteSourceRow.sourceId
        commit.descriptor.sourceId advance routed.sources })

end

/-- `SignalBusStore.commit_source_route`. -/
def commitSourceRoute (previous : PreviousGenerations) (commit : SourceRouteCommit) :
    SignalBus → Except BusError SignalRouteCommitResult × SignalBus :=
  writeTransaction fun bus => do
    let signal ← requireLegacySignalWrite "SignalBusStore.commit_source_route" commit.signal
    commit.validateDecision store.digests
    let (binding, bound) ← bindRouteSourceInTransaction previous commit.binding bus
    match findKey (fun receipt : RouteReceiptRow => (receipt.sourceId, receipt.sourceSequence))
        (commit.descriptor.sourceId, commit.sourceSequence) bound.receipts with
    | some existing => store.confirmCommitted commit signal existing bound
    | none => store.commitNew commit signal binding.source bound

end SignalBusStore

/-! ## Paging -/

structure SignalBusRoutedRecord where
  globalSequence : ℕ
  (signalId payloadHash : Digest)
  signal : SignalEnvelope
  receivedAt : Time
  receipt : SignalRouteReceipt
  deriving DecidableEq

namespace SignalBusStore

variable (store : SignalBusStore)

section

variable (afterSequence throughSequence limit : ℕ) (bus : SignalBus)

/-- The join of stored signals and their receipts, in a window. -/
def routedRows : List (EnvelopeRow × RouteReceiptRow) :=
  ((sortOn EnvelopeRow.globalSequence (bus.envelopes.filter fun envelope =>
      afterSequence < envelope.globalSequence ∧
        envelope.globalSequence ≤ throughSequence)).flatMap fun envelope =>
    (bus.receipts.filter fun receipt =>
      receipt.signalId = envelope.signalId).map (envelope, ·)).take limit

/-- One record of a page, with the checks of its contract. -/
def routedRecord (envelope : EnvelopeRow) (receipt : RouteReceiptRow) :
    Except BusError SignalBusRoutedRecord := do
  let receipt ← store.routeReceiptFromRow receipt
  require (envelope.payload.signalId = envelope.signalId)
    (.value "signal_id does not match signal payload")
  require (envelope.payloadHash = store.digests.payloadHash envelope.payload)
    (.value "payload_hash does not match payload_json")
  require (receipt.signalId = envelope.signalId)
    (.value "route receipt signal_id does not match signal payload")
  pure {
    globalSequence := envelope.globalSequence
    signalId := envelope.signalId
    payloadHash := envelope.payloadHash
    signal := envelope.payload
    receivedAt := envelope.receivedAt
    receipt := receipt }

/-- The records of a page; the sequence may not skip. -/
def routedRecords (expected : ℕ) : List (EnvelopeRow × RouteReceiptRow) →
    Except BusError (List SignalBusRoutedRecord)
  | [] => .ok []
  | (envelope, receipt) :: rest => do
    require (envelope.globalSequence = expected)
      (.sourceSequence ("routed signal sequence gap: expected " ++
        toString expected ++ ", observed " ++
        toString envelope.globalSequence))
    let record ← store.routedRecord envelope receipt
    let records ← routedRecords (expected + 1) rest
    pure (record :: records)

def routedSignalsAfterGlobalSequence :
    Except BusError (List SignalBusRoutedRecord) := do
  require (afterSequence ≤ throughSequence)
    (.value "through_sequence must be an integer at least after_sequence")
  require (1 ≤ limit) (.value "limit must be a positive integer")
  require (throughSequence ≤ bus.highWatermark)
    (.sourceSequence "requested high watermark exceeds the signal bus high watermark")
  -- the limit is a parameter of the statement, an integer of 64 bits
  require (limit < 2 ^ 63) (.overflow "Python int too large to convert to SQLite INTEGER")
  let rows := routedRows afterSequence throughSequence limit bus
  require (afterSequence < throughSequence → rows ≠ [])
    (.sourceSequence "routed signal sequence is missing below the requested high watermark")
  store.routedRecords (afterSequence + 1) rows

end

end SignalBusStore

end RQuant.Signal
