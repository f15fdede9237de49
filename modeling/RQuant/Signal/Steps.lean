import RQuant.Signal.Moves

/-!
# Inversion of the calls

Each call is inverted into what it checked and wrote, with the groups of tables
it leaves alone; `outboxChange_of_step` says for every call which moves it makes
in the outbox.
-/

namespace RQuant.Signal

open Foundation List OutboxChange
open SignalBusStore hiding signal digests

structure SameSignals (before after : SignalBus) : Prop where
  envelopes : after.envelopes = before.envelopes
  envelopeSequence : after.envelopeSequence = before.envelopeSequence
  highWatermark : after.highWatermark = before.highWatermark

structure SameLedger (before after : SignalBus) : Prop where
  sources : after.sources = before.sources
  receipts : after.receipts = before.receipts
  rotations : after.rotations = before.rotations

structure SameDeliveries (before after : SignalBus) : Prop where
  outbox : after.outbox = before.outbox
  attempts : after.attempts = before.attempts
  unknowns : after.unknowns = before.unknowns

theorem SameSignals.refl (bus : SignalBus) : SameSignals bus bus := ⟨rfl, rfl, rfl⟩

theorem SameLedger.refl (bus : SignalBus) : SameLedger bus bus := ⟨rfl, rfl, rfl⟩

theorem SameDeliveries.refl (bus : SignalBus) : SameDeliveries bus bus := ⟨rfl, rfl, rfl⟩

variable {after bus : SignalBus}

variable {call : BusCall} {now receivedAt : Time} {before first second third : SignalBus}
  {kinds : MoveKind → Prop} {done : Unit} {previous : PreviousGenerations} {workerId : String}
  {store : SignalBusStore} {signal : SignalEnvelope} {limit : ℕ} {records : List OutboxRecord}

theorem SameSignals.trans (left : SameSignals first second) (right : SameSignals second third) :
    SameSignals first third :=
  ⟨right.envelopes.trans left.envelopes, right.envelopeSequence.trans left.envelopeSequence,
    right.highWatermark.trans left.highWatermark⟩

theorem SameDeliveries.trans
    (left : SameDeliveries first second) (right : SameDeliveries second third) :
    SameDeliveries first third :=
  ⟨right.outbox.trans left.outbox, right.attempts.trans left.attempts,
    right.unknowns.trans left.unknowns⟩

/-- What ingestion does to the tables: nothing, a quarantine, or a new signal
under the next sequence. -/
inductive Ingested (store : SignalBusStore)
    (signal : SignalEnvelope) (receivedAt : Time) (before : SignalBus) :
    RouterDisposition → SignalBus → Prop where
  | accepted (missing : findKey EnvelopeRow.signalId signal.signalId before.envelopes = none) :
      Ingested store signal receivedAt before .accepted
        (store.acceptSignal signal receivedAt before)
  | duplicate {existing : EnvelopeRow}
      (found : findKey EnvelopeRow.signalId signal.signalId before.envelopes = some existing)
      (same : existing.payload = signal) :
      Ingested store signal receivedAt before .duplicate before
  | quarantined (quarantines : List QuarantineRow) :
      Ingested store signal receivedAt before .quarantined
        { before with quarantines := quarantines }

theorem SignalBusStore.ingested (store : SignalBusStore)
    (signal : SignalEnvelope) (receivedAt : Time) (bus : SignalBus) :
    Ingested store signal receivedAt bus
      (store.ingestInTransaction signal receivedAt bus).1.disposition
      (store.ingestInTransaction signal receivedAt bus).2 := by
  unfold ingestInTransaction
  split
  · rename_i existing found
    split
    · rename_i same
      exact Ingested.duplicate found same.2
    · simp only [quarantine]
      split
      · exact Ingested.quarantined bus.quarantines
      · exact Ingested.quarantined _
  · rename_i missing
    exact Ingested.accepted missing

namespace Ingested

section

variable (ingested : Ingested store signal receivedAt before disposition after)

include ingested

theorem sameDeliveries : SameDeliveries before after := by
  cases ingested <;> exact ⟨rfl, rfl, rfl⟩

theorem sameLedger : SameLedger before after := by
  cases ingested <;> exact ⟨rfl, rfl, rfl⟩

end

end Ingested

namespace SignalBusStore

variable {store : SignalBusStore}
  {bus after : SignalBus} {signalId : Digest} {targets : List DeliveryTarget}

theorem ingest_cases {signal : SignalEnvelopeFamily} {receivedAt : Time}
    {outcome : Except BusError RouterReceipt}
    (called : store.ingest signal receivedAt bus = (outcome, after)) :
    after = bus ∨
      ∃ legacy disposition, signal = .legacy legacy ∧
        Ingested store legacy receivedAt bus disposition after := by
  rcases writeTransaction_cases called with ⟨same, _⟩ | ⟨_, _, body⟩
  · exact .inl same
  · cases signal with
    | current envelope => simp [requireLegacySignalWrite] at body
    | legacy envelope =>
      simp only [requireLegacySignalWrite, ok_bind, pure_eq_ok] at body
      have ingested := store.ingested envelope receivedAt bus
      rw [body] at ingested
      exact .inr ⟨envelope, _, rfl, ingested⟩

theorem routeInTransaction_eq_ok
    (unique : (bus.outbox.map OutboxRow.outboxId).Nodup)
    (routed : store.routeInTransaction signalId targets routedAt bus = .ok (rows, after)) :
    ∃ envelope change added, findKey EnvelopeRow.signalId signalId bus.envelopes = some envelope ∧
      envelope.payload.availableAt ≤ routedAt ∧
      RoutedOutbox store envelope envelope.payload routedAt targets bus.outbox
        after.outbox change added ∧
      after = { bus with outbox := after.outbox } := by
  simp only [run_eq_ok, routeInTransaction, orRaise_eq_ok, parseStoredSignal,
    Prod.mk.injEq] at routed
  obtain ⟨envelope, found, _, ⟨_, _, rfl⟩, available, outbox, folded, _, rfl⟩ := routed
  obtain ⟨change, added, routedOutbox⟩ := RoutedOutbox.of_foldlM unique folded
  exact ⟨envelope, change, added, found, available, routedOutbox, rfl⟩

theorem requireFrozenTargets_eq_ok : requireFrozenTargets signalId targets bus = .ok done ↔
    ∀ frozen, findKey RouteReceiptRow.signalId signalId bus.receipts = some frozen →
      canonicalDeliveryTargets frozen.targetManifest = targets := by
  unfold requireFrozenTargets
  split
  · rename_i missing
    simp [missing]
  · rename_i frozen found
    rw [require_eq_ok, found]
    constructor
    · rintro same _ ⟨rfl⟩
      exact same
    · exact fun same => same frozen rfl

/-- A direct route leaves everything alone or routes targets that no receipt
contradicts. -/
theorem route_cases
    (unique : (bus.outbox.map OutboxRow.outboxId).Nodup)
    (called : store.route signalId targets now bus = (outcome, after)) :
    after = bus ∨
      ∃ envelope change added,
        (∀ frozen, findKey RouteReceiptRow.signalId signalId bus.receipts = some frozen →
          canonicalDeliveryTargets frozen.targetManifest = canonicalDeliveryTargets targets) ∧
        findKey EnvelopeRow.signalId signalId bus.envelopes = some envelope ∧
        envelope.payload.availableAt ≤ now ∧
        RoutedOutbox store envelope envelope.payload now
          (canonicalDeliveryTargets targets) bus.outbox after.outbox change
          added ∧
        after = { bus with outbox := after.outbox } := by
  rcases writeTransaction_cases called with ⟨same, _⟩ | ⟨_, _, body⟩
  · exact .inl same
  · simp only [run_eq_ok] at body
    obtain ⟨_, body⟩ := body
    split at body
    · simp only [pure_eq_ok, Prod.mk.injEq] at body
      exact .inl body.2.symm
    · simp only [run_eq_ok, requireFrozenTargets_eq_ok, Prod.mk.injEq] at body
      obtain ⟨frozen, ⟨_, _⟩, routed, _, _, _, rfl⟩ := body
      obtain ⟨envelope, change, added, found, available, routedOutbox, frame⟩ :=
        routeInTransaction_eq_ok unique routed
      exact .inr ⟨envelope, change, added, frozen, found, available, routedOutbox, frame⟩

end SignalBusStore

section

variable (request : RouteSourceBindingRequest)

/-- The tables between a rotation and the pruning it triggers. -/
def RouteSourceBindingRequest.rotatedBus (previousGenerationId : Digest)
    (row : RouteSourceRow) (bus : SignalBus) : SignalBus :=
  let sourceId := request.descriptor.sourceId
  let archivedId := archivedSourceId sourceId row.generationId
  { bus with
    sources := (bus.sources ++ [row.archive archivedId request.observedAt]).filter
      (fun source => source.sourceId ≠ sourceId) ++ [request.freshSource]
    receipts := bus.receipts.map (RouteReceiptRow.rename sourceId archivedId)
    rotations := bus.rotations ++ [request.rotation previousGenerationId row] }

/-- The columns a bind of a known source compares. -/
structure RouteSourceBindingRequest.Matches (row : RouteSourceRow) : Prop where
  generation : row.generationId = request.descriptor.generationId
  strategySpec : row.strategySpecFingerprint = request.descriptor.strategySpecFingerprint
  routingPolicy : row.routingPolicyFingerprint = request.routingPolicyFingerprint
  firstSequence : row.firstSequence = request.descriptor.firstSequence
  watermark : row.observedHighWatermark ≤ request.descriptor.highWatermark
  cursor : row.lastSequence ≤ request.descriptor.highWatermark

def RouteSourceBindingRequest.observe (row : RouteSourceRow) : RouteSourceRow :=
  { row with
    observedHighWatermark := request.descriptor.highWatermark, updatedAt := request.observedAt }

end

/-- What a bind does to the tables: register a source, rotate it, or observe
its watermark. -/
inductive BoundSource (previous : PreviousGenerations) (request : RouteSourceBindingRequest)
    (before : SignalBus) : RouteSourceRow → SignalBus → Prop where
  | registered
      (missing :
        findKey RouteSourceRow.sourceId request.descriptor.sourceId before.sources = none) :
      BoundSource previous request before request.freshSource
        { before with sources := before.sources ++ [request.freshSource] }
  | rotated {row source : RouteSourceRow} {previousGenerationId : Digest}
      (found :
        findKey RouteSourceRow.sourceId request.descriptor.sourceId before.sources = some row)
      (rotates : request.rotatesFrom previous row = some previousGenerationId)
      (noArchive : findKey RouteSourceRow.sourceId
        (archivedSourceId request.descriptor.sourceId row.generationId)
        before.sources = none)
      (fresh : (request.descriptor.sourceId, row.generationId) ∉
        before.rotations.map fun rotation =>
          (rotation.sourceId, rotation.previousSourceGenerationId))
      (reread : findKey RouteSourceRow.sourceId request.descriptor.sourceId
        ((request.rotatedBus previousGenerationId row
          before).pruneRotatedSources request.descriptor.sourceId).sources =
        some source) :
      BoundSource previous request before source
        ((request.rotatedBus previousGenerationId row
          before).pruneRotatedSources request.descriptor.sourceId)
  | unchanged {row : RouteSourceRow}
      (found :
        findKey RouteSourceRow.sourceId request.descriptor.sourceId before.sources = some row)
      (stays : request.rotatesFrom previous row = none)
      (unchanged : request.Matches row)
      (level : request.descriptor.highWatermark = row.observedHighWatermark) :
      BoundSource previous request before row before
  | advanced {row : RouteSourceRow}
      (found :
        findKey RouteSourceRow.sourceId request.descriptor.sourceId before.sources = some row)
      (stays : request.rotatesFrom previous row = none)
      (unchanged : request.Matches row) :
      BoundSource previous request before (request.observe row)
        { before with
          sources := updateKey RouteSourceRow.sourceId
            request.descriptor.sourceId request.observe before.sources }

theorem bindRouteSourceInTransaction_eq_ok
    (bound : bindRouteSourceInTransaction previous request before = .ok (binding, after)) :
    BoundSource previous request before binding.source after := by
  unfold bindRouteSourceInTransaction at bound
  split at bound
  · rename_i missing
    cases bound
    exact BoundSource.registered missing
  · rename_i row found
    split at bound
    · rename_i previousGenerationId rotates
      simp only [run_eq_ok, rotateSource, insertUnique_eq_ok, orRaise_eq_ok, Prod.mk.injEq] at bound
      obtain ⟨⟨source, _⟩, ⟨noArchive, _, _, ⟨fresh, rfl⟩, _, reread, rfl, rfl⟩, rfl, rfl⟩ := bound
      exact BoundSource.rotated found rotates noArchive fresh reread
    · rename_i stays
      simp only [run_eq_ok, advanceWatermark, RouteSourceBindingRequest.requireUnchanged] at bound
      obtain ⟨⟨generation, strategySpec, routingPolicy, firstSequence⟩,
        watermark, cursor, written⟩ := bound
      have unchanged : request.Matches row :=
        ⟨generation, strategySpec, routingPolicy, firstSequence, watermark, cursor⟩
      split at written
      · rename_i level
        simp only [pure_eq_ok, Prod.mk.injEq] at written
        obtain ⟨rfl, rfl⟩ := written
        exact BoundSource.unchanged found stays unchanged level
      · simp only [pure_eq_ok, Prod.mk.injEq] at written
        obtain ⟨rfl, rfl⟩ := written
        exact BoundSource.advanced found stays unchanged

theorem SignalBus.pruneRotatedSources_induction {motive : SignalBus → Prop} (sourceId : String)
    (initially : motive bus)
    (kept : ∀ {current} rotation, motive current → rotation ∈ bus.openRotations sourceId →
      motive (current.pruneArchive rotation)) :
    motive (bus.pruneRotatedSources sourceId) := by
  unfold pruneRotatedSources
  have all : ∀ rotation ∈ (bus.openRotations sourceId).drop archivedGenerationsKept,
      rotation ∈ bus.openRotations sourceId :=
    fun rotation mem => mem_of_mem_drop mem
  revert all initially
  generalize (bus.openRotations sourceId).drop archivedGenerationsKept = stale
  intro initially all
  have run : ∀ current, motive current → motive (stale.foldl SignalBus.pruneArchive current) := by
    induction stale with
    | nil => exact fun _ holds => holds
    | cons rotation rest ih =>
      intro current holds
      exact ih (fun other mem => all other (mem_cons_of_mem _ mem)) _
        (kept rotation holds (all rotation (by simp)))
  exact run bus initially

theorem SignalBus.pruneRotatedSources_same (bus : SignalBus) (sourceId : String) :
    SameSignals bus (bus.pruneRotatedSources sourceId) ∧
      SameDeliveries bus (bus.pruneRotatedSources sourceId) := by
  apply pruneRotatedSources_induction sourceId
    (motive := fun current => SameSignals bus current ∧ SameDeliveries bus current)
  · exact ⟨SameSignals.refl bus, SameDeliveries.refl bus⟩
  · rintro current _ ⟨signals, deliveries⟩ _
    exact ⟨{ signals with }, { deliveries with }⟩

namespace BoundSource

theorem same (bound : BoundSource previous request before source after) :
    SameSignals before after ∧ SameDeliveries before after := by
  cases bound with
  | registered | advanced => exact ⟨⟨rfl, rfl, rfl⟩, ⟨rfl, rfl, rfl⟩⟩
  | @rotated row _ previousGenerationId =>
    set rotated := request.rotatedBus previousGenerationId row before
    have signals : SameSignals before rotated := ⟨rfl, rfl, rfl⟩
    have deliveries : SameDeliveries before rotated := ⟨rfl, rfl, rfl⟩
    have pruned := rotated.pruneRotatedSources_same request.descriptor.sourceId
    exact ⟨signals.trans pruned.1, deliveries.trans pruned.2⟩
  | unchanged => exact ⟨SameSignals.refl _, SameDeliveries.refl _⟩

end BoundSource

/-! ## Committing a sequence -/

def SignalBus.outboxTargets (bus : SignalBus) (signalId : Digest) : List DeliveryTarget :=
  (bus.outbox.filter fun row => row.signalId = signalId).map OutboxRow.target

/-- What a request to commit was checked for. -/
structure SourceRouteCommit.Decided (commit : SourceRouteCommit) : Prop where
  sequence_pos : 1 ≤ commit.sourceSequence
  routed : commit.decisionKind = .route → commit.canonicalTargets ≠ [] ∧ commit.reason = none
  dropped :
    commit.decisionKind = .noTarget → commit.canonicalTargets = [] ∧ commit.reason.isSome = true

section

variable (commit : SourceRouteCommit) (signal : SignalEnvelope) (source : RouteSourceRow)

/-- What a new sequence was checked for against the ledger. -/
structure SourceRouteCommit.Committable (bus : SignalBus) : Prop where
  unowned : findKey RouteReceiptRow.signalId signal.signalId bus.receipts = none
  next : commit.sourceSequence = source.lastSequence + 1
  declared : commit.sourceSequence ≤ commit.descriptor.highWatermark
  available : signal.availableAt ≤ commit.routedAt
  targets : bus.outboxTargets signal.signalId = [] ∨
    (bus.outboxTargets signal.signalId ⊆ commit.canonicalTargets ∧
      commit.canonicalTargets ⊆ bus.outboxTargets signal.signalId)
  untargeted : commit.decisionKind = .noTarget → bus.outboxTargets signal.signalId = []

def SourceRouteCommit.advance : RouteSourceRow :=
  { source with
    lastSequence := commit.sourceSequence, lastSignalId := some signal.signalId,
    updatedAt := commit.routedAt }

end

/-- What committing does after the source is bound: confirm a sequence that is
in the ledger, or ingest, route and record a new one. -/
inductive CommittedRoute (store : SignalBusStore)
    (commit : SourceRouteCommit) (signal : SignalEnvelope)
    (source : RouteSourceRow) (bound : SignalBus) : SignalBus → Prop where
  | confirmed {ingested : SignalBus} {disposition : RouterDisposition} {existing : RouteReceiptRow}
      (found : findKey (fun receipt : RouteReceiptRow => (receipt.sourceId, receipt.sourceSequence))
        (commit.descriptor.sourceId, commit.sourceSequence) bound.receipts = some existing)
      (same : existing.signalId = signal.signalId)
      (ingest : Ingested store signal commit.routedAt bound disposition ingested)
      (clean : disposition ≠ .quarantined) :
      CommittedRoute store commit signal source bound ingested
  | recorded {ingested routed : SignalBus} {disposition : RouterDisposition}
      (fresh : (commit.descriptor.sourceId, commit.sourceSequence) ∉
        bound.receipts.map fun receipt => (receipt.sourceId, receipt.sourceSequence))
      (committable : commit.Committable signal source bound)
      (ingest : Ingested store signal commit.routedAt bound disposition ingested)
      (clean : disposition ≠ .quarantined)
      (untargeted : commit.decisionKind = .noTarget → routed = ingested)
      (targeted : commit.decisionKind = .route →
        ∃ rows, store.routeInTransaction signal.signalId commit.canonicalTargets
          commit.routedAt ingested = .ok (rows, routed)) :
      CommittedRoute store commit signal source bound
        { routed with
          receipts := routed.receipts ++ [store.committedReceipt commit signal]
          sources := updateKey RouteSourceRow.sourceId
            commit.descriptor.sourceId (commit.advance signal) routed.sources }

namespace SignalBusStore

variable {store : SignalBusStore}
  {commit : SourceRouteCommit} {signal : SignalEnvelope} {source : RouteSourceRow}
  {bus bound after : SignalBus} {result : SignalRouteCommitResult}

theorem requireCommittable_eq_ok : requireCommittable commit signal source bus = .ok done ↔
    commit.Committable signal source bus := by
  simp only [run_eq_ok, requireCommittable]
  constructor
  · rintro ⟨unowned, next, declared, available, targets, untargeted⟩
    exact ⟨unowned, next, declared, available, targets, untargeted⟩
  · rintro ⟨unowned, next, declared, available, targets, untargeted⟩
    exact ⟨unowned, next, declared, available, targets, untargeted⟩

theorem routeReceiptFromRow_eq_ok (read : store.routeReceiptFromRow row = .ok receipt) :
    receipt.signalId = row.signalId := by
  simp only [run_eq_ok, routeReceiptFromRow] at read
  obtain ⟨_, _, rfl⟩ := read
  rfl

theorem commitNew_eq_ok
    (missing : findKey (fun receipt : RouteReceiptRow => (receipt.sourceId, receipt.sourceSequence))
      (commit.descriptor.sourceId, commit.sourceSequence) bound.receipts = none)
    (committed : store.commitNew commit signal source bound = .ok (result, after)) :
    CommittedRoute store commit signal source bound after := by
  simp only [run_eq_ok, commitNew, routeCommitted, requireCommittable_eq_ok, insertUnique_eq_ok,
    Prod.mk.injEq] at committed
  obtain ⟨committable, _, ⟨clean, written⟩, _, ⟨_, rfl⟩, _, _, _, rfl⟩ := committed
  refine CommittedRoute.recorded (findKey_eq_none.mp missing) committable
    (store.ingested signal commit.routedAt bound) clean ?_ ?_
  · intro dropped
    rw [dropped] at written
    exact (pure_eq_ok.mp written).symm
  · intro kind
    rw [kind] at written
    simp only [run_eq_ok] at written
    obtain ⟨⟨rows, _⟩, routing, rfl⟩ := written
    exact ⟨rows, routing⟩

/-- A commit leaves everything alone, or binds its source and then confirms or
records its sequence. -/
theorem commitSourceRoute_cases
    (called : store.commitSourceRoute previous commit bus = (outcome, after)) :
    after = bus ∨
      ∃ signal source bound, commit.signal = .legacy signal ∧ commit.Decided ∧
        BoundSource previous commit.binding bus source bound ∧
        CommittedRoute store commit signal source bound after := by
  rcases writeTransaction_cases called with ⟨same, _⟩ | ⟨_, _, body⟩
  · exact .inl same
  · cases family : commit.signal with
    | current envelope => simp [family, requireLegacySignalWrite, error_bind] at body
    | legacy signal =>
      simp only [run_eq_ok, family, requireLegacySignalWrite, ok_bind,
        SourceRouteCommit.validateDecision]
        at body
      obtain ⟨⟨positive, _, routed, dropped, _⟩, ⟨binding, bound⟩, boundOk, rest⟩ := body
      refine .inr ⟨signal, binding.source, bound, rfl, ⟨positive, routed, dropped⟩,
        bindRouteSourceInTransaction_eq_ok boundOk, ?_⟩
      split at rest
      · rename_i existing found
        simp only [run_eq_ok, confirmCommitted, Prod.mk.injEq] at rest
        obtain ⟨_, read, same, clean, _, rfl⟩ := rest
        exact CommittedRoute.confirmed found ((routeReceiptFromRow_eq_ok read).symm.trans same.1)
          (store.ingested signal commit.routedAt bound) clean
      · rename_i missing
        exact commitNew_eq_ok missing rest

end SignalBusStore

def BusCall.Kinds : BusCall → MoveKind → Prop
  | .ingest .., _ => False
  | .bindRouteSource .., _ => False
  | .route .., kind => kind = .expire
  | .commitSourceRoute .., kind => kind = .expire
  | .claimDue .., kind => kind = .expire ∨ kind = .lease
  | .completeSuccess .., kind => kind = .finish
  | .completeFailure .., kind => kind = .finish
  | .releaseUnattempted .., kind => kind = .giveBack
  | .recordUnknownDelivery .., kind => kind = .note
  | .recoverExpiredLeases .., kind => kind = .recover

namespace OutboxChange

variable (unique : (bus.outbox.map OutboxRow.outboxId).Nodup)

include unique

theorem of_sameDeliveries (same : SameDeliveries bus after) :
    ∃ change added finished, OutboxChange store kinds bus after change added finished :=
  ⟨id, [], [], of_same unique same.outbox same.attempts⟩

theorem of_committed (allowed : kinds .expire)
    (binding : BoundSource previous commit.binding bus source bound)
    (committed : CommittedRoute store commit signal source bound after) :
    ∃ change added finished, OutboxChange store kinds bus after change added finished := by
  have boundSame := binding.same.2
  cases committed with
  | confirmed _ _ ingest => exact of_sameDeliveries unique (boundSame.trans ingest.sameDeliveries)
  | recorded _ _ ingest _ untargeted targeted =>
    have ingestedSame := boundSame.trans ingest.sameDeliveries
    cases kind : commit.decisionKind with
    | noTarget =>
      rw [untargeted kind]
      exact of_sameDeliveries unique { ingestedSame with }
    | route =>
      obtain ⟨_, routing⟩ := targeted kind
      rw [← ingestedSame.outbox] at unique
      obtain ⟨_, change, added, _, _, routedOutbox, frame⟩ :=
        routeInTransaction_eq_ok unique routing
      rw [ingestedSame.outbox] at routedOutbox
      refine ⟨change, added, [], of_routed allowed ?_ routedOutbox⟩
      rw [frame]
      exact ingestedSame.attempts

theorem of_completed (allowed : kinds .finish)
    (completed :
      store.complete outboxId workerId attemptNo completedAt outcome bus = .ok (record, after)) :
    ∃ change added finished, OutboxChange store kinds bus after change added finished := by
  obtain ⟨row, startedAt, found, held, _, readable, rfl⟩ := complete_eq_ok completed
  obtain rfl := (mem_of_findKey found).2
  have move : RowMove store row .finish (row.finish store.policy attemptNo completedAt outcome row)
      [outcome.attempt row.outboxId attemptNo startedAt completedAt] :=
    RowMove.finish held readable
  refine ⟨_, [], _, of_updateKey unique found rfl rfl ?_ allowed move (fun _ => rfl) fun _ => rfl⟩
  intro attempt mem
  rw [mem_singleton] at mem
  subst mem
  cases outcome <;> rfl

theorem of_claimed (expires : kinds .expire) (leases : kinds .lease)
    (claimed : store.claimDue workerId now leaseFor limit bus = (.ok records, after)) :
    ∃ change added finished, OutboxChange store kinds bus after change added finished := by
  obtain ⟨claimedIds, _, _, _, due, _, frame, read⟩ := claimDue_eq_ok unique claimed
  have sameOutbox := congrArg SignalBus.outbox frame
  refine ⟨_, [], [], of_map unique sameOutbox (by rw [frame]) ?_⟩
  intro row mem
  unfold SignalBusStore.claimChange
  by_cases taken : row.outboxId ∈ claimedIds
  · refine .inr ⟨.lease, leases, ?_⟩
    rw [if_pos taken]
    refine RowMove.lease (due row mem taken).1 ?_
    refine readable_of_mapM read (mem_rowsForOutboxIds.mpr ⟨?_, taken⟩)
    rw [sameOutbox]
    refine mem_map.mpr ⟨row, mem, ?_⟩
    exact if_pos taken
  · rw [if_neg taken]
    by_cases lapsed : row.Lapsed now
    · rw [if_pos lapsed]
      exact .inr ⟨.expire, expires, RowMove.expire lapsed.1⟩
    · exact .inl (if_neg lapsed)

theorem of_recovered (allowed : kinds .recover)
    (recovered : store.recoverExpiredLeases now bus = (.ok records, after)) :
    OutboxChange store kinds bus after
      (fun row => if row.Overdue now then row.recover now row else row)
      [] [] := by
  obtain ⟨frame, _, listed, read⟩ := recoverExpiredLeases_eq_ok unique recovered
  have sameOutbox := congrArg SignalBus.outbox frame
  refine of_map unique sameOutbox (by rw [frame]) ?_
  intro row mem
  by_cases overdue : row.Overdue now
  · refine .inr ⟨.recover, allowed, ?_⟩
    rw [if_pos overdue]
    refine RowMove.recover overdue ?_
    refine readable_of_mapM read (mem_rowsForOutboxIds.mpr ⟨?_, (listed row mem).mpr overdue⟩)
    rw [sameOutbox]
    exact mem_map.mpr ⟨row, mem, if_pos overdue⟩
  · exact .inl (if_neg overdue)

end OutboxChange

/-- What a call did: nothing, or one of the changes that calls commit. -/
inductive BusEffect (store : SignalBusStore) (bus : SignalBus) : BusCall → SignalBus → Prop where
  | unchanged {call : BusCall} : BusEffect store bus call bus
  | ingested {signal : SignalEnvelope} {receivedAt : Time}
      {disposition : RouterDisposition} {after : SignalBus}
      (ingested : Ingested store signal receivedAt bus disposition after) :
      BusEffect store bus (.ingest (.legacy signal) receivedAt) after
  | routed {signalId : Digest} {targets : List DeliveryTarget} {now : Time}
      {envelope : EnvelopeRow} {change : OutboxRow → OutboxRow}
      {added : List OutboxRow} {after : SignalBus}
      (frozen : ∀ receipt, findKey RouteReceiptRow.signalId signalId bus.receipts = some receipt →
        canonicalDeliveryTargets receipt.targetManifest = canonicalDeliveryTargets targets)
      (found : findKey EnvelopeRow.signalId signalId bus.envelopes = some envelope)
      (available : envelope.payload.availableAt ≤ now)
      (routed : RoutedOutbox store envelope envelope.payload now
        (canonicalDeliveryTargets targets) bus.outbox after.outbox change added)
      (frame : after = { bus with outbox := after.outbox }) :
      BusEffect store bus (.route signalId targets now) after
  | bound {previous : PreviousGenerations} {request : RouteSourceBindingRequest}
      {source : RouteSourceRow} {after : SignalBus}
      (bound : BoundSource previous request bus source after) :
      BusEffect store bus (.bindRouteSource previous request) after
  | committed {previous : PreviousGenerations} {commit : SourceRouteCommit}
      {signal : SignalEnvelope} {source : RouteSourceRow} {middle after : SignalBus}
      (family : commit.signal = .legacy signal) (decided : commit.Decided)
      (bound : BoundSource previous commit.binding bus source middle)
      (committed : CommittedRoute store commit signal source middle after) :
      BusEffect store bus (.commitSourceRoute previous commit) after
  | claimed {workerId : String} {now leaseFor : Time} {limit : ℕ}
      {records : List OutboxRecord} {after : SignalBus}
      (claimed : store.claimDue workerId now leaseFor limit bus = (.ok records, after)) :
      BusEffect store bus (.claimDue workerId now leaseFor limit) after
  | completed {call : BusCall} {outboxId : Digest} {workerId : String} {attemptNo : ℕ}
      {completedAt : Time} {outcome : CompletionOutcome} {record : OutboxRecord}
      {after : SignalBus} (finishes : call.Kinds .finish)
      (completed :
        store.complete outboxId workerId attemptNo completedAt outcome bus = .ok (record, after)) :
      BusEffect store bus call after
  | released {outboxId : Digest} {workerId : String} {attemptNo : ℕ} {releasedAt : Time}
      {reason : String} {record : OutboxRecord} {after : SignalBus}
      (released : store.releaseUnattempted outboxId workerId attemptNo releasedAt reason bus =
        (.ok record, after)) :
      BusEffect store bus (.releaseUnattempted outboxId workerId attemptNo releasedAt reason) after
  | noted {outboxId : Digest} {workerId : String} {attemptNo : ℕ} {observedAt : Time}
      {reason : String} {receipt : Option String} {record : UnknownRow}
      {after : SignalBus}
      (recorded : SignalBusStore.recordUnknownDelivery outboxId workerId attemptNo observedAt reason
        receipt bus = (.ok record, after)) :
      BusEffect store bus
        (.recordUnknownDelivery outboxId workerId attemptNo observedAt reason receipt) after
  | recovered {now : Time} {records : List OutboxRecord} {after : SignalBus}
      (recovered : store.recoverExpiredLeases now bus = (.ok records, after)) :
      BusEffect store bus (.recoverExpiredLeases now) after

namespace BusEffect

theorem of_eq (same : after = bus) : BusEffect store bus call after := by
  subst same
  exact .unchanged

theorem of_transaction {α : Type} {body : SignalBus → Except BusError (α × SignalBus)}
    (committed : ∀ answer after, writeTransaction body bus = (.ok answer, after) →
      body bus = .ok (answer, after) → BusEffect store bus call after) :
    BusEffect store bus call (writeTransaction body bus).2 := by
  rcases called : writeTransaction body bus with ⟨_, after⟩
  rcases writeTransaction_cases called with ⟨same, _⟩ | ⟨answer, rfl, executed⟩
  · exact of_eq same
  · exact committed answer after called executed

theorem of_step (unique : (bus.outbox.map OutboxRow.outboxId).Nodup)
    (stepped : BusStep store bus call after) : BusEffect store bus call after := by
  subst stepped
  cases call with
  | ingest signal receivedAt =>
    have called : store.ingest signal receivedAt bus = (_, _) := rfl
    rcases ingest_cases called with same | ⟨_, _, rfl, ingested⟩
    · exact of_eq same
    · exact .ingested ingested
  | route signalId targets now =>
    have called : store.route signalId targets now bus = (_, _) := rfl
    rcases route_cases unique called with
      same | ⟨_, _, _, frozen, found, available, routed, frame⟩
    · exact of_eq same
    · exact .routed frozen found available routed frame
  | bindRouteSource previous request =>
    have called : bindRouteSource previous request bus = (_, _) := rfl
    rcases writeTransaction_cases called with ⟨same, _⟩ | ⟨_, _, body⟩
    · exact of_eq same
    · exact .bound (bindRouteSourceInTransaction_eq_ok body)
  | commitSourceRoute previous commit =>
    have called : store.commitSourceRoute previous commit bus = (_, _) := rfl
    rcases commitSourceRoute_cases called with
      same | ⟨_, _, _, family, decided, bound, committed⟩
    · exact of_eq same
    · exact .committed family decided bound committed
  | claimDue => exact of_transaction fun _ _ claimed _ => .claimed claimed
  | completeSuccess | completeFailure =>
    refine of_transaction fun _ _ _ executed => ?_
    simp only [run_eq_ok] at executed
    exact .completed rfl executed.2
  | releaseUnattempted => exact of_transaction fun _ _ released _ => .released released
  | recordUnknownDelivery => exact of_transaction fun _ _ recorded _ => .noted recorded
  | recoverExpiredLeases => exact of_transaction fun _ _ recovered _ => .recovered recovered

end BusEffect

theorem outboxChange_of_step (unique : (bus.outbox.map OutboxRow.outboxId).Nodup)
    (stepped : BusStep store bus call after) :
    ∃ change added finished, OutboxChange store call.Kinds bus after change added finished := by
  cases BusEffect.of_step unique stepped with
  | unchanged => exact of_sameDeliveries unique (SameDeliveries.refl _)
  | ingested ingested => exact of_sameDeliveries unique ingested.sameDeliveries
  | routed _ _ _ routed frame =>
    have sameAttempts := congrArg SignalBus.attempts frame
    exact ⟨_, _, [], of_routed rfl sameAttempts routed⟩
  | bound bound => exact of_sameDeliveries unique bound.same.2
  | committed _ _ bound committed => exact of_committed unique rfl bound committed
  | claimed claimed => exact of_claimed unique (.inl rfl) (.inr rfl) claimed
  | completed finishes completed => exact of_completed unique finishes completed
  | released released =>
    obtain ⟨row, found, held, _, readable, rfl⟩ := releaseUnattempted_eq_ok released
    exact ⟨_, [], [], of_updateKey unique found rfl (append_nil _).symm (by simp) rfl
      (RowMove.giveBack held readable) (fun _ => rfl) fun _ => rfl⟩
  | noted recorded =>
    obtain ⟨row, _, found, held, _, _, same | ⟨_, rfl⟩⟩ := recordUnknownDelivery_eq_ok recorded
    · rw [same]
      exact of_sameDeliveries unique (SameDeliveries.refl _)
    · exact ⟨_, [], [], of_updateKey unique found rfl
        (append_nil _).symm (by simp) rfl (RowMove.note held)
        (fun _ => rfl) fun _ => rfl⟩
  | recovered recovered => exact ⟨_, [], [], of_recovered unique rfl recovered⟩

end RQuant.Signal
