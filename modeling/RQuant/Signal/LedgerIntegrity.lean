import RQuant.Signal.Readable
import RQuant.Signal.Sources

/-!
# Integrity of the route ledger

What every run of the store keeps of receipts, deliveries, signal numbers and
rotations.
-/

namespace RQuant.Signal

open Foundation List
open SignalBusStore hiding signal digests

def BusCall.raised (store : SignalBusStore) (bus : SignalBus) : BusCall → Option BusError
  | .ingest signal receivedAt => errorOf (store.ingest signal receivedAt bus).1
  | .route signalId targets now => errorOf (store.route signalId targets now bus).1
  | .bindRouteSource previous request => errorOf (Signal.bindRouteSource previous request bus).1
  | .commitSourceRoute previous commit => errorOf (store.commitSourceRoute previous commit bus).1
  | .claimDue workerId now leaseFor limit =>
    errorOf (store.claimDue workerId now leaseFor limit bus).1
  | .completeSuccess outboxId workerId attemptNo completedAt receipt =>
    errorOf (store.completeSuccess outboxId workerId attemptNo completedAt receipt bus).1
  | .completeFailure outboxId workerId attemptNo completedAt error =>
    errorOf (store.completeFailure outboxId workerId attemptNo completedAt error bus).1
  | .releaseUnattempted outboxId workerId attemptNo releasedAt reason =>
    errorOf (store.releaseUnattempted outboxId workerId attemptNo releasedAt reason bus).1
  | .recordUnknownDelivery outboxId workerId attemptNo observedAt reason receipt =>
    errorOf (SignalBusStore.recordUnknownDelivery outboxId workerId attemptNo
      observedAt reason receipt bus).1
  | .recoverExpiredLeases now => errorOf (store.recoverExpiredLeases now bus).1
where
  errorOf {α : Type} : Except BusError α → Option BusError
    | .error raised => some raised
    | .ok _ => none

variable {bus before after : SignalBus} {store : SignalBusStore} {call : BusCall}
  {previous : PreviousGenerations} {request : RouteSourceBindingRequest} {source : RouteSourceRow}

theorem writeTransaction_of_raised {α : Type} {body : SignalBus → Except BusError (α × SignalBus)}
    {raised : BusError}
    (failed : BusCall.raised.errorOf (writeTransaction body bus).1 = some raised) :
    (writeTransaction body bus).2 = bus := by
  unfold writeTransaction at failed ⊢
  split
  · rename_i executed
    rw [executed] at failed
    cases failed
  · rfl

def OutboxRow.identity (row : OutboxRow) : Digest × Digest × DeliveryTarget :=
  (row.outboxId, row.signalId, row.target)

theorem OutboxRow.SameDelivery.identity {row : OutboxRow} (same : row.SameDelivery moved) :
    moved.identity = row.identity := by
  unfold OutboxRow.identity
  rw [same.outboxId, same.signalId, same.target]

/-- A call that moves deliveries and touches nothing else. -/
structure DeliveriesMoved (before after : SignalBus) : Prop where
  signals : SameSignals before after
  ledger : SameLedger before after
  identities : after.outbox.map OutboxRow.identity = before.outbox.map OutboxRow.identity

variable {now receivedAt routedAt : Time} {used : Set (Digest × DeliveryTarget)}
  {change : OutboxRow → OutboxRow} {envelope : EnvelopeRow} {added : List OutboxRow}
  {targets : List DeliveryTarget} {signal : SignalEnvelope} {outboxId signalId : Digest}
  {workerId : String} {limit : ℕ} {commit : SourceRouteCommit} {records : List OutboxRecord}

namespace DeliveriesMoved

theorem refl (bus : SignalBus) : DeliveriesMoved bus bus :=
  ⟨SameSignals.refl bus, SameLedger.refl bus, rfl⟩

theorem of_updateKey (same : ∀ row : OutboxRow, row.SameDelivery (change row)) :
    DeliveriesMoved before
      { before with
        outbox := updateKey OutboxRow.outboxId outboxId change before.outbox, attempts,
        unknowns } :=
  ⟨⟨rfl, rfl, rfl⟩, ⟨rfl, rfl, rfl⟩, map_updateKey fun row _ _ => (same row).identity⟩

theorem of_map (same : ∀ row : OutboxRow, row.SameDelivery (change row)) :
    DeliveriesMoved before { before with outbox := before.outbox.map change } := by
  refine ⟨⟨rfl, rfl, rfl⟩, ⟨rfl, rfl, rfl⟩, ?_⟩
  rw [map_map]
  exact map_congr_left fun row _ => (same row).identity

theorem of_completed
    (completed :
      store.complete outboxId workerId attemptNo completedAt outcome before = .ok (record, after)) :
    DeliveriesMoved before after := by
  obtain ⟨_, _, _, _, _, _, rfl⟩ := complete_eq_ok completed
  exact of_updateKey fun _ => ⟨rfl, rfl, rfl, rfl, rfl⟩

theorem of_claimed (unique : (before.outbox.map OutboxRow.outboxId).Nodup)
    (claimed : store.claimDue workerId now leaseFor limit before = (.ok records, after)) :
    DeliveriesMoved before after := by
  obtain ⟨_, _, _, _, _, _, rfl, _⟩ := claimDue_eq_ok unique claimed
  apply of_map
  intro _
  unfold SignalBusStore.claimChange
  split
  · exact ⟨rfl, rfl, rfl, rfl, rfl⟩
  · split <;> exact ⟨rfl, rfl, rfl, rfl, rfl⟩

theorem of_recovered (unique : (before.outbox.map OutboxRow.outboxId).Nodup)
    (recovered : store.recoverExpiredLeases now before = (.ok records, after)) :
    DeliveriesMoved before after := by
  obtain ⟨rfl, _⟩ := recoverExpiredLeases_eq_ok unique recovered
  apply of_map
  intro _
  split <;> exact ⟨rfl, rfl, rfl, rfl, rfl⟩

end DeliveriesMoved

/-- What a call does, table group by table group. -/
inductive LedgerMove (store : SignalBusStore) (before : SignalBus) :
    BusCall → SignalBus → Prop where
  | moved {call : BusCall} {after : SignalBus} (moved : DeliveriesMoved before after) :
      LedgerMove store before call after
  | ingested {signal : SignalEnvelope} {receivedAt : Time}
      {disposition : RouterDisposition} {after : SignalBus}
      (ingested : Ingested store signal receivedAt before disposition after) :
      LedgerMove store before (.ingest (.legacy signal) receivedAt) after
  | routed {signalId : Digest} {targets : List DeliveryTarget} {now : Time}
      {envelope : EnvelopeRow} {change : OutboxRow → OutboxRow}
      {added : List OutboxRow} {after : SignalBus}
      (frozen : ∀ receipt,
        findKey RouteReceiptRow.signalId signalId before.receipts = some receipt →
          canonicalDeliveryTargets receipt.targetManifest = canonicalDeliveryTargets targets)
      (found : findKey EnvelopeRow.signalId signalId before.envelopes = some envelope)
      (routed : RoutedOutbox store envelope envelope.payload now
        (canonicalDeliveryTargets targets) before.outbox after.outbox change
        added)
      (frame : after = { before with outbox := after.outbox }) :
      LedgerMove store before (.route signalId targets now) after
  | bound {previous : PreviousGenerations}
      {request : RouteSourceBindingRequest} {source : RouteSourceRow}
      {after : SignalBus}
      (bound : BoundSource previous request before source after) :
      LedgerMove store before (.bindRouteSource previous request) after
  | committed {previous : PreviousGenerations} {commit : SourceRouteCommit}
      {signal : SignalEnvelope} {source : RouteSourceRow}
      {middle after : SignalBus}
      (family : commit.signal = .legacy signal)
      (decided : commit.Decided)
      (bound : BoundSource previous commit.binding before source middle)
      (committed : CommittedRoute store commit signal source middle after) :
      LedgerMove store before (.commitSourceRoute previous commit) after

theorem ledgerMove_of_step (unique : (before.outbox.map OutboxRow.outboxId).Nodup)
    (stepped : BusStep store before call after) :
    LedgerMove store before call after := by
  cases BusEffect.of_step unique stepped with
  | unchanged => exact .moved (DeliveriesMoved.refl _)
  | ingested ingested => exact .ingested ingested
  | routed frozen found _ routed frame => exact .routed frozen found routed frame
  | bound bound => exact .bound bound
  | committed family decided bound committed => exact .committed family decided bound committed
  | claimed claimed => exact .moved (DeliveriesMoved.of_claimed unique claimed)
  | completed _ completed => exact .moved (DeliveriesMoved.of_completed completed)
  | released released =>
    obtain ⟨_, _, _, _, _, rfl⟩ := releaseUnattempted_eq_ok released
    exact .moved (DeliveriesMoved.of_updateKey fun _ => ⟨rfl, rfl, rfl, rfl, rfl⟩)
  | noted recorded =>
    obtain ⟨_, _, _, _, _, _, same | ⟨_, rfl⟩⟩ := recordUnknownDelivery_eq_ok recorded
    · rw [same]
      exact .moved (DeliveriesMoved.refl _)
    · exact .moved (DeliveriesMoved.of_updateKey fun _ => ⟨rfl, rfl, rfl, rfl, rfl⟩)
  | recovered recovered => exact .moved (DeliveriesMoved.of_recovered unique recovered)

structure SignalNumbers (bus : SignalBus) : Prop where
  numbered : bus.envelopes.map EnvelopeRow.globalSequence = range' 1 bus.envelopes.length
  counter : bus.envelopeSequence = bus.envelopes.length
  watermark : bus.highWatermark = bus.envelopes.length

namespace SignalNumbers

theorem initial : SignalNumbers .initial := ⟨rfl, rfl, rfl⟩

section

variable (numbers : SignalNumbers before)

include numbers

theorem of_same (same : SameSignals before after) : SignalNumbers after := by
  refine ⟨?_, ?_, ?_⟩
  · rw [same.envelopes]
    exact numbers.numbered
  · rw [same.envelopeSequence, same.envelopes]
    exact numbers.counter
  · rw [same.highWatermark, same.envelopes]
    exact numbers.watermark

theorem of_ingested (ingested : Ingested store signal receivedAt before disposition after) :
    SignalNumbers after := by
  have counter := numbers.counter
  have watermark := numbers.watermark
  cases ingested with
  | accepted =>
    constructor
    case numbered =>
      simp only [SignalBusStore.acceptSignal, map_append,
        length_append, map_cons, map_nil, length_cons,
        length_nil, numbers.numbered, counter, Nat.zero_add]
      rw [range'_1_concat, Nat.add_comm]
    case counter => simp [SignalBusStore.acceptSignal, counter]
    case watermark => simp [SignalBusStore.acceptSignal, counter, watermark]
  | duplicate => exact numbers
  | quarantined => exact ⟨numbers.numbered, counter, watermark⟩

theorem of_committed (committed : CommittedRoute store commit signal source before after) :
    SignalNumbers after := by
  cases committed with
  | confirmed _ _ ingest => exact numbers.of_ingested ingest
  | recorded _ _ ingest _ untargeted targeted =>
    have stored := numbers.of_ingested ingest
    cases kind : commit.decisionKind with
    | noTarget =>
      rw [untargeted kind]
      exact stored.of_same ⟨rfl, rfl, rfl⟩
    | route =>
      obtain ⟨_, routing⟩ := targeted kind
      rw [frame_of_routeInTransaction routing]
      exact stored.of_same ⟨rfl, rfl, rfl⟩

theorem of_move (move : LedgerMove store before call after) : SignalNumbers after := by
  cases move with
  | moved moved => exact numbers.of_same moved.signals
  | ingested ingested => exact numbers.of_ingested ingested
  | routed _ _ _ frame =>
    rw [frame]
    exact numbers.of_same ⟨rfl, rfl, rfl⟩
  | bound bound => exact numbers.of_same bound.same.1
  | committed _ _ bound committed => exact (numbers.of_same bound.same.1).of_committed committed

end

theorem maxGlobalSequence (numbers : SignalNumbers bus) :
    bus.maxGlobalSequence = bus.envelopes.length := by
  unfold SignalBus.maxGlobalSequence
  rw [numbers.numbered]
  induction bus.envelopes.length with
  | zero => rfl
  | succ count ih =>
    rw [range'_1_concat, foldl_append, ih]
    simp [Nat.add_comm]

end SignalNumbers

theorem SourceLedger.of_move (ledger : SourceLedger before)
    (move : LedgerMove store before call after) :
    SourceLedger after := by
  cases move with
  | moved moved => exact ledger.of_sameLedger moved.ledger
  | ingested ingested => exact ledger.of_sameLedger ingested.sameLedger
  | routed _ _ _ frame =>
    rw [frame]
    exact ledger.of_sameLedger ⟨rfl, rfl, rfl⟩
  | bound bound => exact bound.sourceLedger ledger
  | committed _ _ bound committed =>
    obtain ⟨standing, named, level⟩ := bound.current ledger
    exact committed.sourceLedger (bound.sourceLedger ledger) standing named level

def RouteReceiptRow.frozen (receipt : RouteReceiptRow) : Digest × List DeliveryTarget :=
  (receipt.signalId, receipt.targetManifest)

/-- Deliveries have distinct identities that come from the given set, and
receipts pin the deliveries of their signals. -/
structure FrozenTargets (store : SignalBusStore)
    (used : Set (Digest × DeliveryTarget)) (bus : SignalBus) : Prop where
  uniqueIds : (bus.outbox.map OutboxRow.outboxId).Nodup
  uniqueTargets : (bus.outbox.map fun row => (row.signalId, row.target)).Nodup
  identified : ∀ row ∈ bus.outbox, row.outboxId = store.digests.deliveryKey row.signalId row.target
  routed : ∀ row ∈ bus.outbox, (row.signalId, row.target) ∈ used
  uniqueReceipts : (bus.receipts.map RouteReceiptRow.signalId).Nodup
  frozen :
    ∀ receipt ∈ bus.receipts, (bus.outboxTargets receipt.signalId).Perm receipt.targetManifest

theorem SignalBus.outboxTargets_eq (bus : SignalBus) (signalId : Digest) :
    bus.outboxTargets signalId =
      ((bus.outbox.map OutboxRow.identity).filter
        (fun identity => identity.2.1 = signalId)).map (·.2.2) := by
  unfold outboxTargets
  rw [filter_map, map_map]
  rfl

theorem SignalBus.mem_outboxTargets : target ∈ bus.outboxTargets signalId ↔
    ∃ row ∈ bus.outbox, row.signalId = signalId ∧ row.target = target := by
  simp [outboxTargets, and_assoc]

namespace FrozenTargets

theorem initial : FrozenTargets store used .initial := by
  constructor <;> simp [SignalBus.initial]

section

variable (law : FrozenTargets store used before)

include law

/-- The law is about identities of deliveries and what receipts freeze; fewer
receipts freeze less. -/
theorem of_identities
    (identities : after.outbox.map OutboxRow.identity = before.outbox.map OutboxRow.identity)
    (receipts : (after.receipts.map RouteReceiptRow.frozen).Sublist
      (before.receipts.map RouteReceiptRow.frozen)) :
    FrozenTargets store used after := by
  have sameTargets : ∀ signalId, after.outboxTargets signalId = before.outboxTargets signalId := by
    intro signalId
    rw [SignalBus.outboxTargets_eq, identities, SignalBus.outboxTargets_eq]
  have sameMem : ∀ row ∈ after.outbox, ∃ old ∈ before.outbox, old.identity = row.identity := by
    intro row mem
    have listed := mem_map_of_mem (f := OutboxRow.identity) mem
    rw [identities] at listed
    exact mem_map.mp listed
  constructor
  case uniqueIds =>
    have same := congrArg (map (fun identity => identity.1)) identities
    rw [map_map, map_map] at same
    exact same ▸ law.uniqueIds
  case uniqueTargets =>
    have same := congrArg (map (fun identity => identity.2)) identities
    rw [map_map, map_map] at same
    exact same ▸ law.uniqueTargets
  case identified =>
    intro row mem
    obtain ⟨old, oldMem, same⟩ := sameMem row mem
    simp only [OutboxRow.identity, Prod.mk.injEq] at same
    rw [← same.1, ← same.2.1, ← same.2.2]
    exact law.identified old oldMem
  case routed =>
    intro row mem
    obtain ⟨old, oldMem, same⟩ := sameMem row mem
    simp only [OutboxRow.identity, Prod.mk.injEq] at same
    rw [← same.2.1, ← same.2.2]
    exact law.routed old oldMem
  case uniqueReceipts =>
    have fewer := receipts.map Prod.fst
    rw [map_map, map_map] at fewer
    exact law.uniqueReceipts.sublist fewer
  case frozen =>
    intro _ mem
    obtain ⟨old, oldMem, same⟩ := mem_map.mp (receipts.subset (mem_map_of_mem mem))
    simp only [RouteReceiptRow.frozen, Prod.mk.injEq] at same
    rw [sameTargets, ← same.1, ← same.2]
    exact law.frozen old oldMem

theorem of_moved (moved : DeliveriesMoved before after) : FrozenTargets store used after :=
  law.of_identities moved.identities (by rw [moved.ledger.receipts])

theorem of_ingested (ingested : Ingested store signal receivedAt before disposition after) :
    FrozenTargets store used after :=
  law.of_identities (by rw [ingested.sameDeliveries.outbox]) (by rw [ingested.sameLedger.receipts])

end

end FrozenTargets

/-- A bind renames receipts or deletes them, and freezes nothing new. -/
theorem BoundSource.frozen_sublist (bound : BoundSource previous request before source after) :
    (after.receipts.map RouteReceiptRow.frozen).Sublist
      (before.receipts.map RouteReceiptRow.frozen) := by
  cases bound with
  | registered | unchanged | advanced => exact List.Sublist.refl _
  | @rotated row _ previousGenerationId =>
    apply SignalBus.pruneRotatedSources_induction
      (motive := fun current =>
        (current.receipts.map RouteReceiptRow.frozen).Sublist
          (before.receipts.map RouteReceiptRow.frozen))
    · have renamed :
          (request.rotatedBus previousGenerationId row before).receipts.map RouteReceiptRow.frozen =
            before.receipts.map RouteReceiptRow.frozen := by
        simp only [RouteSourceBindingRequest.rotatedBus, map_map]
        apply map_congr_left
        intro _ _
        rw [Function.comp_apply, RouteReceiptRow.rename]
        split <;> rfl
      rw [renamed]
    · intro current _ fewer _
      exact (filter_sublist.map _).trans fewer

namespace RoutedOutbox

section

variable (routed : RoutedOutbox store envelope envelope.payload routedAt targets before.outbox
  after.outbox change added)

include routed

theorem identities : after.outbox.map OutboxRow.identity =
    before.outbox.map OutboxRow.identity ++ added.map OutboxRow.identity := by
  rw [routed.outbox, map_append, map_map]
  congr 1
  exact map_congr_left fun row mem => (routed.sameDelivery mem).identity

theorem outboxTargets_other (other : signalId ≠ envelope.signalId) :
    after.outboxTargets signalId = before.outboxTargets signalId := by
  rw [SignalBus.outboxTargets_eq, routed.identities, filter_append_of_none,
    SignalBus.outboxTargets_eq]
  intro identity mem
  obtain ⟨row, rowMem, rfl⟩ := mem_map.mp mem
  obtain ⟨_, _, _, rfl⟩ := routed.inserted row rowMem
  exact other.symm

end

end RoutedOutbox

namespace FrozenTargets

section

variable (law : FrozenTargets store used before)

include law

section

variable (within : ∀ target ∈ targets, (envelope.signalId, target) ∈ used)
  (routed : RoutedOutbox store envelope envelope.payload routedAt targets
    before.outbox after.outbox change added)

include within routed

theorem identified_of_routed :
    ∀ row ∈ after.outbox, row.outboxId = store.digests.deliveryKey row.signalId row.target ∧
      (row.signalId, row.target) ∈ used := by
  intro row mem
  rw [routed.outbox] at mem
  rcases mem_append.mp mem with earlier | inserted
  · obtain ⟨old, oldMem, rfl⟩ := mem_map.mp earlier
    have same := routed.sameDelivery oldMem
    rw [same.outboxId, same.signalId, same.target]
    exact ⟨law.identified old oldMem, law.routed old oldMem⟩
  · obtain ⟨_, target, listed, rfl⟩ := routed.inserted row inserted
    exact ⟨rfl, within target listed⟩

/-- A direct route: a receipt of the signal names the same targets, so none of
them is new. -/
theorem of_routed (named : envelope.signalId = signalId)
    (frozen : ∀ receipt, findKey RouteReceiptRow.signalId signalId before.receipts = some receipt →
      ∀ target ∈ targets, target ∈ receipt.targetManifest)
    (sameReceipts : after.receipts = before.receipts) :
    FrozenTargets store used after := by
  have identified := law.identified_of_routed within routed
  refine ⟨routed.uniqueIds, routed.uniqueTargets law.uniqueTargets,
    fun row mem => (identified row mem).1, fun row mem => (identified row mem).2,
    sameReceipts ▸ law.uniqueReceipts, ?_⟩
  intro receipt mem
  rw [sameReceipts] at mem
  by_cases other : receipt.signalId = envelope.signalId
  · have found : findKey RouteReceiptRow.signalId signalId before.receipts = some receipt :=
      (findKey_eq_some law.uniqueReceipts).mpr ⟨mem, other.trans named⟩
    have none : added = [] := by
      rw [eq_nil_iff_forall_not_mem]
      intro row inserted
      obtain ⟨fresh, target, listed, rfl⟩ := routed.inserted row inserted
      have held : target ∈ before.outboxTargets receipt.signalId :=
        (law.frozen receipt mem).mem_iff.mpr (frozen receipt found target listed)
      obtain ⟨old, oldMem, sameSignal, sameTarget⟩ := SignalBus.mem_outboxTargets.mp held
      apply fresh
      refine mem_map.mpr ⟨old, oldMem, ?_⟩
      rw [law.identified old oldMem, sameSignal, sameTarget, other]
      rfl
    have same := routed.identities
    rw [none, map_nil, append_nil] at same
    rw [SignalBus.outboxTargets_eq, same, ← SignalBus.outboxTargets_eq]
    exact law.frozen receipt mem
  · rw [routed.outboxTargets_other other]
    exact law.frozen receipt mem

/-- After a commit has routed its targets, they are the deliveries of its
signal. -/
theorem outboxTargets_perm (distinct : store.CollisionFree used) (targetsUnique : targets.Nodup)
    (known : before.outboxTargets envelope.signalId ⊆ targets) :
    (after.outboxTargets envelope.signalId).Perm targets := by
  have identified := law.identified_of_routed within routed
  have unique : (after.outboxTargets envelope.signalId).Nodup := by
    unfold SignalBus.outboxTargets
    refine List.Nodup.map_on ?_ ?_
    · intro left leftMem right rightMem sameTarget
      rw [mem_filter] at leftMem rightMem
      have leftSignal : left.signalId = envelope.signalId := of_decide_eq_true leftMem.2
      have rightSignal : right.signalId = envelope.signalId := of_decide_eq_true rightMem.2
      exact inj_on_of_nodup_map (routed.uniqueTargets law.uniqueTargets) leftMem.1 rightMem.1
        (by rw [leftSignal, rightSignal, sameTarget])
    · exact (List.Nodup.of_map _ routed.uniqueIds).filter _
  rw [perm_ext_iff_of_nodup unique targetsUnique]
  intro target
  rw [SignalBus.mem_outboxTargets]
  constructor
  · rintro ⟨row, mem, sameSignal, rfl⟩
    rw [routed.outbox] at mem
    rcases mem_append.mp mem with earlier | inserted
    · obtain ⟨old, oldMem, rfl⟩ := mem_map.mp earlier
      have same := routed.sameDelivery oldMem
      rw [same.target]
      exact known (SignalBus.mem_outboxTargets.mpr
        ⟨old, oldMem, same.signalId.symm.trans sameSignal, rfl⟩)
    · obtain ⟨_, inserted, listed, rfl⟩ := routed.inserted row inserted
      exact listed
  · intro listed
    obtain ⟨row, mem, sameId⟩ := mem_map.mp (routed.covered target listed)
    have rowIdentity := identified row mem
    have sameDelivery : (row.signalId, row.target) = (envelope.signalId, target) :=
      distinct rowIdentity.2 (within target listed) (rowIdentity.1.symm.trans sameId)
    simp only [Prod.mk.injEq] at sameDelivery
    exact ⟨row, mem, sameDelivery⟩

end

theorem record (unowned : receipt.signalId ∉ before.receipts.map RouteReceiptRow.signalId)
    (targets : (before.outboxTargets receipt.signalId).Perm receipt.targetManifest) :
    FrozenTargets store used { before with receipts := before.receipts ++ [receipt], sources } := by
  refine ⟨law.uniqueIds, law.uniqueTargets, law.identified, law.routed,
    nodup_concat law.uniqueReceipts unowned, ?_⟩
  intro other mem
  rcases mem_concat.mp mem with known | rfl
  · exact law.frozen other known
  · exact targets

end

theorem of_committed (distinct : store.CollisionFree used) (law : FrozenTargets store used before)
    (decided : commit.Decided)
    (within : ∀ target ∈ commit.targets, (signal.signalId, target) ∈ used)
    (committed : CommittedRoute store commit signal source before after) :
    FrozenTargets store used after := by
  cases committed with
  | confirmed _ _ ingest => exact law.of_ingested ingest
  | @recorded ingested routedBus _ _ committable ingest _ untargeted targeted =>
    have stored := law.of_ingested ingest
    have sameTargets :
        ingested.outboxTargets signal.signalId = before.outboxTargets signal.signalId := by
      unfold SignalBus.outboxTargets
      rw [ingest.sameDeliveries.outbox]
    have unowned : signal.signalId ∉ ingested.receipts.map RouteReceiptRow.signalId := by
      rw [ingest.sameLedger.receipts]
      exact findKey_eq_none.mp committable.unowned
    cases kind : commit.decisionKind with
    | noTarget =>
      rw [untargeted kind]
      refine stored.record unowned ?_
      have empty : commit.canonicalTargets = [] := (decided.dropped kind).1
      have unrouted : ingested.outboxTargets (store.committedReceipt commit signal).signalId = [] :=
        sameTargets.trans (committable.untargeted kind)
      rw [unrouted]
      exact empty ▸ List.Perm.refl _
    | route =>
      obtain ⟨_, routing⟩ := targeted kind
      obtain ⟨envelope, _, _, found, _, routed, frame⟩ :=
        routeInTransaction_eq_ok stored.uniqueIds routing
      obtain ⟨_, named⟩ := mem_of_findKey found
      have sameReceipts := congrArg SignalBus.receipts frame
      have withinRouted :
          ∀ target ∈ commit.canonicalTargets, (envelope.signalId, target) ∈ used := by
        intro target listed
        rw [named]
        exact within target (mem_canonicalDeliveryTargets.mp listed)
      have known : ingested.outboxTargets envelope.signalId ⊆ commit.canonicalTargets := by
        rw [named, sameTargets]
        rcases committable.targets with none | same
        · rw [none]
          exact nil_subset _
        · exact same.1
      have routedLaw : FrozenTargets store used routedBus := by
        refine stored.of_routed withinRouted routed named ?_ sameReceipts
        intro _ owned
        exact absurd (mem_of_findKey owned).2
          fun same => unowned (same ▸ mem_map_of_mem (mem_of_findKey owned).1)
      have perm := stored.outboxTargets_perm withinRouted routed distinct
        ((perm_sortOn _).nodup_iff.mpr (nodup_dedup _)) known
      rw [named] at perm
      exact routedLaw.record (sameReceipts ▸ unowned) perm

theorem of_move (distinct : store.CollisionFree used) (law : FrozenTargets store used before)
    (within : call.RoutesWithin used) (move : LedgerMove store before call after) :
    FrozenTargets store used after := by
  cases move with
  | moved moved => exact law.of_moved moved
  | ingested ingested => exact law.of_ingested ingested
  | @routed signalId targets _ envelope _ _ _ frozen found routed frame =>
    obtain ⟨_, named⟩ := mem_of_findKey found
    have sameReceipts := congrArg SignalBus.receipts frame
    refine law.of_routed ?_ routed named ?_ sameReceipts
    · intro target listed
      rw [named]
      exact within _ (mem_map_of_mem (mem_canonicalDeliveryTargets.mp listed))
    · intro receipt owned target listed
      rw [← frozen receipt owned] at listed
      exact mem_canonicalDeliveryTargets.mp listed
  | bound bound => exact law.of_identities (by rw [bound.same.2.outbox]) bound.frozen_sublist
  | @committed _ commit signal _ _ _ family decided bound committed =>
    have boundLaw := law.of_identities (by rw [bound.same.2.outbox]) bound.frozen_sublist
    refine of_committed distinct boundLaw decided ?_ committed
    intro target listed
    refine within _ ?_
    rw [BusCall.deliveries, family]
    exact mem_map_of_mem listed

end FrozenTargets

/-! ## Rotations -/

def RotationRow.account (rotation : RotationRow) : String × Digest × ℕ × ℕ :=
  (rotation.sourceId, rotation.previousSourceGenerationId,
    rotation.routedThroughSequence, rotation.abandonedSequences)

def RouteSourceRow.account (row : RouteSourceRow) : String × Digest × ℕ × ℕ :=
  (row.sourceId, row.generationId, row.lastSequence, row.observedHighWatermark - row.lastSequence)

/-- A later bus gives no account of a rotation, or that of a row it archived. -/
def SignalBus.AccountsFrom (before after : SignalBus) : Prop :=
  ∀ account ∈ after.rotations.map RotationRow.account,
    account ∈ before.rotations.map RotationRow.account ∨
      ∃ row ∈ before.sources, account = row.account

theorem BoundSource.accounts (bound : BoundSource previous request before source after) :
    before.AccountsFrom after := by
  cases bound with
  | registered | unchanged | advanced => exact fun _ mem => Or.inl mem
  | @rotated row _ previousGenerationId found =>
    obtain ⟨standing, named⟩ := mem_of_findKey found
    apply SignalBus.pruneRotatedSources_induction (motive := before.AccountsFrom)
    · intro account mem
      simp only [RouteSourceBindingRequest.rotatedBus, map_append, map_cons, map_nil, mem_append,
        mem_singleton] at mem
      rcases mem with known | rfl
      · exact .inl known
      · refine .inr ⟨row, standing, ?_⟩
        simp [RotationRow.account, RouteSourceRow.account, named,
          RouteSourceBindingRequest.rotation]
    · intro current rotation accounts _ account mem
      refine accounts account ?_
      -- Pruning only marks the rotations it has served.
      have sameAccounts : (current.pruneArchive rotation).rotations.map RotationRow.account =
          current.rotations.map RotationRow.account := by
        simp only [SignalBus.pruneArchive, map_map]
        apply map_congr_left
        intro _ _
        rw [Function.comp_apply]
        split <;> rfl
      exact sameAccounts ▸ mem

theorem LedgerMove.accounts (move : LedgerMove store before call after) :
    before.AccountsFrom after := by
  unfold SignalBus.AccountsFrom
  cases move with
  | moved moved =>
    rw [moved.ledger.rotations]
    exact fun _ mem => Or.inl mem
  | ingested ingested =>
    rw [ingested.sameLedger.rotations]
    exact fun _ mem => Or.inl mem
  | routed _ _ _ frame =>
    rw [frame]
    exact fun _ mem => Or.inl mem
  | bound bound => exact bound.accounts
  | committed _ _ bound committed =>
    rcases committed.ledger_cases with same | ⟨_, _, _, same⟩
    · rw [same.rotations]
      exact bound.accounts
    · rw [same]
      exact bound.accounts

structure LedgerLaws (store : SignalBusStore)
    (used : Set (Digest × DeliveryTarget)) (bus : SignalBus) : Prop where
  numbers : SignalNumbers bus
  sources : SourceLedger bus
  targets : FrozenTargets store used bus

theorem LedgerLaws.of_run (distinct : store.CollisionFree used)
    (run : BusReaches store (fun _ call => call.RoutesWithin used) .initial bus) :
    LedgerLaws store used bus := by
  refine Reaches.invariant run
    ⟨SignalNumbers.initial, SourceLedger.initial, FrozenTargets.initial⟩ ?_
  intro _ call _ laws within stepped
  have move := ledgerMove_of_step laws.targets.uniqueIds stepped
  exact ⟨laws.numbers.of_move move, laws.sources.of_move move,
    laws.targets.of_move distinct within move⟩

/-- In every state of every run of the store whose deliveries do not collide in
their digest: the receipts under a source are numbered from its first to its
last sequence, within the watermark it has seen; a signal has at most one
receipt, whose targets are then its deliveries; the watermark is the last
sequence and the number of signals; every rotation was made of a source row
whose watermark it accounts for; and a call that raises changes nothing. -/
theorem route_ledger_integrity {store : SignalBusStore} {used : Set (Digest × DeliveryTarget)}
    {bus : SignalBus} (distinct : store.CollisionFree used)
    (run : BusReaches store (fun _ call => call.RoutesWithin used) .initial bus) :
    (∀ source ∈ bus.sources, sequencesOf bus.receipts source.sourceId =
        range' source.firstSequence (source.lastSequence + 1 - source.firstSequence) ∧
      source.lastSequence ≤ source.observedHighWatermark) ∧
    (bus.receipts.map RouteReceiptRow.signalId).Nodup ∧
    (∀ receipt ∈ bus.receipts, (bus.outboxTargets receipt.signalId).Perm receipt.targetManifest) ∧
    (bus.highWatermark = bus.maxGlobalSequence ∧ bus.highWatermark = bus.envelopes.length) ∧
    (∀ rotation ∈ bus.rotations, ∃ before call after row,
      BusReaches store (fun _ call => call.RoutesWithin used) .initial before ∧
        BusStep store before call after ∧
        BusReaches store (fun _ call => call.RoutesWithin used) after bus ∧
        row ∈ before.sources ∧
        row.sourceId = rotation.sourceId ∧
        row.generationId = rotation.previousSourceGenerationId ∧
        rotation.routedThroughSequence = row.lastSequence ∧
        rotation.routedThroughSequence + rotation.abandonedSequences = row.observedHighWatermark) ∧
    ∀ (call : BusCall) error, call.raised store bus = some error → call.apply store bus = bus := by
  have laws := LedgerLaws.of_run distinct run
  refine ⟨fun source member => ⟨(laws.sources.law source member).sequences,
      (laws.sources.law source member).last_le⟩,
    laws.targets.uniqueReceipts, laws.targets.frozen, ⟨?_, laws.numbers.watermark⟩, ?_,
    fun call _ failed => by cases call <;> exact writeTransaction_of_raised failed⟩
  · rw [laws.numbers.watermark, laws.numbers.maxGlobalSequence]
  · intro rotation member
    obtain ⟨before, call, after, earlier, _, stepped, later, unknown, known⟩ := Reaches.exists_first
      (motive := fun current => rotation.account ∈ current.rotations.map RotationRow.account)
      run (by simp [SignalBus.initial]) (mem_map_of_mem member)
    have beforeLaws := LedgerLaws.of_run distinct earlier
    have move := ledgerMove_of_step beforeLaws.targets.uniqueIds stepped
    rcases move.accounts _ known with already | ⟨row, standing, same⟩
    · exact absurd already unknown
    · have reached := (beforeLaws.sources.law row standing).last_le
      simp only [RotationRow.account, RouteSourceRow.account, Prod.mk.injEq] at same
      obtain ⟨sameSource, sameGeneration, through, abandoned⟩ := same
      refine ⟨before, call, after, row, earlier, stepped, later, standing,
        sameSource.symm, sameGeneration.symm, through, ?_⟩
      rw [through, abandoned]
      exact Nat.add_sub_cancel' reached

/-- A source of the sample runs that has seen two sequences. -/
def sampleDescriptor (generationId : Digest) : RouteSourceDescriptor where
  sourceId := "alpha"
  generationId := generationId
  strategySpecFingerprint := generationId
  firstSequence := 1
  highWatermark := 2
  sourceId_stripped := by decide
  firstSequence_pos := by decide
  start_le_watermark := by decide

/-- The release of a generation knows the ones before it. -/
def sampleGenerations (current : Digest) : PreviousGenerations :=
  fun spec => if spec < current then some spec else none

/-- The first sequence of a generation, routed to one target. -/
def sampleCommit (generationId signalId : Digest) : SourceRouteCommit where
  descriptor := sampleDescriptor generationId
  routingPolicyFingerprint := 5
  sourceSequence := 1
  signal := .legacy (sampleSignal signalId)
  decisionKind := .route
  decisionFingerprint := 502
  reasonCode := none
  targets := [sampleFirst]
  routedAt := 10

/-- The source starts over with a generation. -/
def sampleBind (generationId : Digest) : BusCall :=
  .bindRouteSource (sampleGenerations generationId)
    { descriptor := sampleDescriptor generationId, routingPolicyFingerprint := 5, observedAt := 20 }

/-- Two generations with one receipt each are rotated away, and the third
rotation prunes the archive of the first. -/
def sampleLedger : SignalBus :=
  finalState
    (applyAllowed (fun bus (call : BusCall) => call.apply sampleStore bus)
      fun _ call => call.RoutesWithin {delivery | delivery ∈ sampleUsed})
    .initial
    [.commitSourceRoute (sampleGenerations 1) (sampleCommit 1 7),
      .commitSourceRoute (sampleGenerations 2) (sampleCommit 2 8), sampleBind 3, sampleBind 4]

/-- The receipt of the second generation is left, and all three rotations are on
record. -/
theorem route_ledger_integrity_sample : sampleLedger.receipts.map (fun receipt =>
        (decide (receipt.sourceId = "alpha"), receipt.sourceSequence, receipt.signalId)) =
      [(false, 1, 8)] ∧
    sampleLedger.rotations.map RotationRow.account =
      [("alpha", 1, 1, 1), ("alpha", 2, 1, 1), ("alpha", 3, 0, 2)] ∧
    sampleLedger.highWatermark = sampleLedger.maxGlobalSequence :=
  ⟨by decide +kernel, by decide +kernel,
    (route_ledger_integrity (collisionFree_of_forall (by decide +kernel))
      (reaches_applyAllowed _ _)).2.2.2.1.1⟩

end RQuant.Signal
