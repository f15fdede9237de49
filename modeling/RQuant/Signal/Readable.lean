import RQuant.Signal.Delivery

/-!
# The outbox stays readable

Reading the outbox validates every row.  Every writer but one keeps the
relations between the times of a row; `record_unknown_delivery` moves
`updated_at` without looking at the lease.  Rows are found by a digest of signal
and target, so the law is about runs whose deliveries do not collide in it.
-/

namespace RQuant.Signal

open Foundation
open SignalBusStore hiding signal digests
open List hiding after next count minimum

def BusCall.deliveries : BusCall → List (Digest × DeliveryTarget)
  | .route signalId targets _ => targets.map (signalId, ·)
  | .commitSourceRoute _ commit =>
    match commit.signal with
    | .legacy signal => commit.targets.map (signal.signalId, ·)
    | .current _ => []
  | _ => []

def BusCall.RoutesWithin (used : Set (Digest × DeliveryTarget)) (call : BusCall) : Prop :=
  ∀ delivery ∈ call.deliveries, delivery ∈ used

def SignalBusStore.CollisionFree (store : SignalBusStore)
    (used : Set (Digest × DeliveryTarget)) : Prop :=
  Set.InjOn (fun delivery => store.digests.deliveryKey delivery.1 delivery.2) used

theorem SignalBusStore.collisionFree_of_forall
    {store : SignalBusStore} {used : List (Digest × DeliveryTarget)}
    (apart : ∀ left ∈ used, ∀ right ∈ used, store.digests.deliveryKey left.1 left.2 =
      store.digests.deliveryKey right.1 right.2 → left = right) :
    store.CollisionFree {delivery | delivery ∈ used} :=
  fun left leftMem right rightMem same => apart left leftMem right rightMem same

/-- Evidence of an unknown outcome that is written while the lease it names
still runs. -/
def BusCall.Timely (bus : SignalBus) : BusCall → Prop
  | .recordUnknownDelivery outboxId _ _ observedAt _ _ =>
    ∀ row ∈ bus.outbox, row.outboxId = outboxId → ∀ deadline ∈ row.leaseUntil, observedAt < deadline
  | _ => True

variable {before : SignalBus} {moved row : OutboxRow} {at_ now routedAt : Time}
  {reason workerId : String} {outboxId : Digest} {signal : SignalEnvelope} {kind : MoveKind}
  {attemptNo limit : ℕ} {envelope : EnvelopeRow} {digests : SignalDigests}
  {finished : List AttemptRow} {records : List OutboxRecord}

namespace ReadableRow

theorem expire (readable : ReadableRow digests row)
    (waiting : row.status.Waiting) (lapsed : row.expiresAt ≤ at_) (visible : ¬ Blank reason) :
    ReadableRow digests (row.expire reason at_) := by
  have unowned : row.leaseOwner = none := readable.unleased.resolve_left waiting.ne_leased
  have terminal : (row.expire reason at_).status.Terminal := Or.inr (.inl rfl)
  exact
    { readable with
      created_le := (readable.created_lt.trans_le lapsed).le
      active := .inl terminal
      next_ge := by simp [OutboxRow.expire]
      next_lt := by simp [OutboxRow.expire]
      leased := by rintro ⟨⟩
      deadline_gt := by rintro ⟨⟩
      deadline_le := by rintro ⟨⟩
      unleased := .inr unowned
      terminal := fun _ => ⟨rfl, unowned⟩
      ended := fun _ => rfl
      retry_next := by rintro ⟨⟩
      retry_error := by rintro ⟨⟩
      error_visible := by
        intro _ mem
        cases mem
        exact visible }

theorem noteUnknown (readable : ReadableRow digests row)
    (leased : row.status = .leased) (unscheduled : row.nextAttemptAt = none)
    (created : row.createdAt ≤ at_) (timely : ∀ deadline ∈ row.leaseUntil, at_ < deadline) :
    ReadableRow digests (row.noteUnknown reason at_) := by
  obtain ⟨deadline, lease⟩ : ∃ deadline, row.leaseUntil = some deadline := by
    rw [← Option.isSome_iff_exists, ← readable.paired]
    exact readable.leased leased
  have active : at_ < row.expiresAt :=
    (timely deadline lease).trans_le (readable.deadline_le leased deadline lease)
  exact
    { readable with
      created_le := created
      active := .inr active
      next_ge := by
        intro _ mem
        rw [OutboxRow.noteUnknown, unscheduled] at mem
        cases mem
      deadline_gt := fun _ => timely
      ended := fun _ => rfl
      retry_error := fun _ => rfl
      error_visible := by
        intro _ mem
        cases mem
        exact not_blank_append_left (by decide) }

theorem routedRow {store : SignalBusStore} (target : DeliveryTarget)
    (available : signal.availableAt ≤ routedAt) :
    ReadableRow store.digests (store.routedRow envelope signal routedAt target) := by
  have order := signal.available_before_expiry
  unfold SignalBusStore.routedRow
  by_cases expired : signal.expiresAt ≤ routedAt
  · constructor <;>
      simp [expired, available, order, OutboxStatus.Terminal, Blank]
    decide
  · have active : routedAt < signal.expiresAt := not_le.mp expired
    constructor <;> simp [expired, active, OutboxStatus.Terminal]

end ReadableRow

section

variable (store : SignalBusStore) (used : Set (Digest × DeliveryTarget)) (bus : SignalBus)

/-- A readable row of a stored signal, with what the writers rely on. -/
structure SoundRow (row : OutboxRow) : Prop where
  readable : ReadableRow store.digests row
  started : ∀ startedAt ∈ row.leaseStartedAt, row.createdAt ≤ startedAt
  unscheduled : row.status = .leased → row.nextAttemptAt = none
  routed : (row.signalId, row.target) ∈ used
  stored : ∃ envelope ∈ bus.envelopes,
    envelope.signalId = row.signalId ∧ envelope.payload.expiresAt = row.expiresAt

/-- Tables whose outbox can be read. -/
structure ReadableBus : Prop where
  uniqueIds : (bus.outbox.map OutboxRow.outboxId).Nodup
  uniqueSignals : (bus.envelopes.map EnvelopeRow.signalId).Nodup
  sound : ∀ row ∈ bus.outbox, SoundRow store used bus row

end

namespace SoundRow

section

variable {after : SignalBus} (sound : SoundRow store used before row)
  (kept : before.envelopes ⊆ after.envelopes)

include sound kept

theorem of_sameDelivery (same : row.SameDelivery moved)
    (readable : ReadableRow store.digests moved)
    (started : ∀ startedAt ∈ moved.leaseStartedAt, moved.createdAt ≤ startedAt)
    (unscheduled : moved.status = .leased → moved.nextAttemptAt = none) :
    SoundRow store used after moved := by
  refine ⟨readable, started, unscheduled, ?_, ?_⟩
  · rw [same.signalId, same.target]
    exact sound.routed
  · obtain ⟨envelope, mem, sameSignal, sameExpiry⟩ := sound.stored
    exact ⟨envelope, kept mem, sameSignal.trans same.signalId.symm,
      sameExpiry.trans same.expiresAt.symm⟩

theorem mono : SoundRow store used after row :=
  sound.of_sameDelivery kept (OutboxRow.SameDelivery.refl row) sound.readable
    sound.started sound.unscheduled

theorem expire (waiting : row.status.Waiting) (lapsed : row.expiresAt ≤ at_)
    (visible : ¬ Blank reason) :
    SoundRow store used after (row.expire reason at_) :=
  sound.of_sameDelivery kept ⟨rfl, rfl, rfl, rfl, rfl⟩
    (sound.readable.expire waiting lapsed visible) sound.started
    nofun

theorem settle (same : row.SameDelivery moved)
    (readable : ReadableRow store.digests moved) (unstarted : moved.leaseStartedAt = none)
    (unleased : moved.leaseOwner = none) :
    SoundRow store used after moved := by
  refine sound.of_sameDelivery kept same readable ?_ ?_
  · intro _ mem
    rw [unstarted] at mem
    cases mem
  · intro leased
    have owned := readable.leased leased
    rw [unleased] at owned
    cases owned

theorem of_move (move : RowMove store row kind moved finished)
    (readBack : kind ≠ .expire ∧ kind ≠ .note) :
    SoundRow store used after moved := by
  have same := move.sameDelivery
  cases move with
  | expire => exact absurd rfl readBack.1
  | note => exact absurd rfl readBack.2
  | lease waiting readable =>
    refine sound.of_sameDelivery kept same readable ?_ (fun _ => rfl)
    rintro _ ⟨rfl⟩
    exact readable.created_le
  | finish held readable | giveBack held readable | recover overdue readable =>
    exact sound.settle kept same readable rfl rfl

end

end SoundRow

namespace ReadableBus

theorem initial : ReadableBus store used .initial :=
  ⟨nodup_nil, nodup_nil, fun row mem => by cases mem⟩

theorem of_ingested (readable : ReadableBus store used before)
    (ingested : Ingested store signal receivedAt before disposition after) :
    ReadableBus store used after := by
  cases ingested with
  | accepted missing =>
    refine ⟨readable.uniqueIds,
      nodup_concat readable.uniqueSignals (findKey_eq_none.mp missing), ?_⟩
    intro row mem
    exact (readable.sound row mem).mono (subset_append_left _ _)
  | duplicate => exact readable
  | quarantined =>
    exact ⟨readable.uniqueIds, readable.uniqueSignals, fun row mem =>
      (readable.sound row mem).mono (List.Subset.refl _)⟩

theorem of_same (readable : ReadableBus store used before) (signals : SameSignals before after)
    (deliveries : SameDeliveries before after) :
    ReadableBus store used after := by
  have sameOutbox := deliveries.outbox
  have sameEnvelopes := signals.envelopes
  refine ⟨?_, ?_, ?_⟩
  · rw [sameOutbox]
    exact readable.uniqueIds
  · rw [sameEnvelopes]
    exact readable.uniqueSignals
  · intro row mem
    rw [sameOutbox] at mem
    exact (readable.sound row mem).mono (sameEnvelopes ▸ List.Subset.refl _)

/-- Routing expires rows of the routed signal only: a row that is found by its
digest belongs to the delivery that was looked up. -/
theorem of_routed (distinct : store.CollisionFree used) (readable : ReadableBus store used before)
    (within : ∀ target ∈ targets, (signalId, target) ∈ used)
    (found : findKey EnvelopeRow.signalId signalId before.envelopes = some envelope)
    (available : envelope.payload.availableAt ≤ routedAt)
    (routed : RoutedOutbox store envelope envelope.payload routedAt targets
      before.outbox after.outbox change added)
    (sameEnvelopes : after.envelopes = before.envelopes) :
    ReadableBus store used after := by
  obtain ⟨stored, rfl⟩ := mem_of_findKey found
  have kept : before.envelopes ⊆ after.envelopes := sameEnvelopes ▸ List.Subset.refl _
  refine ⟨routed.uniqueIds, sameEnvelopes ▸ readable.uniqueSignals, ?_⟩
  intro row mem
  rw [routed.outbox] at mem
  rcases mem_append.mp mem with earlier | inserted
  · obtain ⟨old, oldMem, rfl⟩ := mem_map.mp earlier
    have sound := readable.sound old oldMem
    rcases routed.kept old oldMem with
      same | ⟨waiting, lapsed, ⟨target, listed, sameId⟩, expired⟩
    · rw [same]
      exact sound.mono kept
    · rw [expired]
      refine sound.expire kept waiting ?_ (by decide)
      have sameDelivery : (old.signalId, old.target) = (envelope.signalId, target) :=
        distinct sound.routed (within target listed) (sound.readable.identity.symm.trans sameId)
      obtain ⟨other, otherMem, sameSignal, sameExpiry⟩ := sound.stored
      have sameEnvelope : other = envelope := eq_of_key_eq readable.uniqueSignals otherMem stored
        (sameSignal.trans (congrArg Prod.fst sameDelivery))
      rw [← sameExpiry, sameEnvelope]
      exact lapsed
  · obtain ⟨_, target, listed, rfl⟩ := routed.inserted row inserted
    refine ⟨ReadableRow.routedRow target available, ?_, fun _ => rfl,
      within target listed, ⟨envelope, kept stored, rfl, rfl⟩⟩
    intro _ started
    cases started

theorem of_committed (distinct : store.CollisionFree used)
    (readable : ReadableBus store used before)
    (within : ∀ target ∈ commit.targets, (signal.signalId, target) ∈ used)
    (binding : BoundSource previous commit.binding before source bound)
    (committed : CommittedRoute store commit signal source bound after) :
    ReadableBus store used after := by
  have boundReadable := readable.of_same binding.same.1 binding.same.2
  cases committed with
  | confirmed _ _ ingest => exact boundReadable.of_ingested ingest
  | @recorded ingested routed _ _ _ ingest _ untargeted targeted =>
    have ingestedReadable := boundReadable.of_ingested ingest
    have routedReadable : ReadableBus store used routed := by
      cases kind : commit.decisionKind with
      | noTarget =>
        rw [untargeted kind]
        exact ingestedReadable
      | route =>
        obtain ⟨_, routing⟩ := targeted kind
        obtain ⟨_, _, _, found, available, routedOutbox, frame⟩ :=
          routeInTransaction_eq_ok ingestedReadable.uniqueIds routing
        have sameEnvelopes := congrArg SignalBus.envelopes frame
        refine of_routed distinct ingestedReadable ?_ found available routedOutbox sameEnvelopes
        intro target listed
        exact within target (mem_canonicalDeliveryTargets.mp listed)
    exact routedReadable.of_same ⟨rfl, rfl, rfl⟩ ⟨rfl, rfl, rfl⟩

section

variable (readable : ReadableBus store used before)

include readable

theorem of_moved (found : findKey OutboxRow.outboxId outboxId before.outbox = some row)
    (outboxAfter : after.outbox = updateKey OutboxRow.outboxId outboxId change before.outbox)
    (sameEnvelopes : after.envelopes = before.envelopes)
    (same : ∀ row : OutboxRow, row.SameDelivery (change row))
    (move : RowMove store row kind (change row) finished)
    (readBack : kind ≠ .expire ∧ kind ≠ .note) :
    ReadableBus store used after := by
  have known := mem_of_findKey found
  have kept : before.envelopes ⊆ after.envelopes := sameEnvelopes ▸ List.Subset.refl _
  refine ⟨?_, sameEnvelopes ▸ readable.uniqueSignals, ?_⟩
  · rw [outboxAfter, map_updateKey fun row _ _ => (same row).outboxId]
    exact readable.uniqueIds
  · intro changed mem
    rw [outboxAfter] at mem
    obtain ⟨old, oldMem, ⟨named, rfl⟩ | ⟨_, rfl⟩⟩ := mem_updateKey.mp mem
    · obtain rfl : old = row :=
        eq_of_key_eq readable.uniqueIds oldMem known.1 (named.trans known.2.symm)
      exact (readable.sound old oldMem).of_move kept move readBack
    · exact (readable.sound changed oldMem).mono kept

theorem of_completed
    (completed :
      store.complete outboxId workerId attemptNo completedAt outcome before = .ok (record, after)) :
    ReadableBus store used after := by
  obtain ⟨row, startedAt, found, held, _, settled, rfl⟩ := complete_eq_ok completed
  have move : RowMove store row .finish (row.finish store.policy attemptNo completedAt outcome row)
      [outcome.attempt row.outboxId attemptNo startedAt completedAt] :=
    RowMove.finish held settled
  exact readable.of_moved found rfl rfl (fun _ => ⟨rfl, rfl, rfl, rfl, rfl⟩) move (by decide)

theorem of_recovered (recovered : store.recoverExpiredLeases now before = (.ok records, after)) :
    ReadableBus store used after := by
  have changed : OutboxChange store (· = .recover) before after
      (fun row => if row.Overdue now then row.recover now row else row)
      [] [] :=
    OutboxChange.of_recovered readable.uniqueIds rfl recovered
  have frame := (recoverExpiredLeases_eq_ok readable.uniqueIds recovered).1
  have sameEnvelopes := congrArg SignalBus.envelopes frame
  have kept : before.envelopes ⊆ after.envelopes := sameEnvelopes ▸ List.Subset.refl _
  refine ⟨changed.uniqueIds, sameEnvelopes ▸ readable.uniqueSignals, ?_⟩
  intro row mem
  rw [changed.outbox, append_nil] at mem
  obtain ⟨old, oldMem, rfl⟩ := mem_map.mp mem
  have sound := readable.sound old oldMem
  rcases changed.moved old oldMem with ⟨same, _⟩ | ⟨_, rfl, move⟩
  · rw [same]
    exact sound.mono kept
  · exact sound.of_move kept move (by decide)

/-- A claim validates the rows it leases and expires only lapsed ones. -/
theorem of_claimed
    (claimed : store.claimDue workerId now leaseFor limit before = (.ok records, after)) :
    ReadableBus store used after := by
  obtain ⟨claimedIds, _, _, _, due, _, frame, read⟩ := claimDue_eq_ok readable.uniqueIds claimed
  have outboxAfter := congrArg SignalBus.outbox frame
  have sameEnvelopes := congrArg SignalBus.envelopes frame
  have kept : before.envelopes ⊆ after.envelopes := sameEnvelopes ▸ List.Subset.refl _
  refine ⟨?_, sameEnvelopes ▸ readable.uniqueSignals, ?_⟩
  · rw [outboxAfter, map_map]
    have sameIds : before.outbox.map (OutboxRow.outboxId ∘
          SignalBusStore.claimChange (strip workerId) now leaseFor claimedIds) =
        before.outbox.map OutboxRow.outboxId :=
      map_congr_left fun row _ => claimChange_outboxId row
    rw [sameIds]
    exact readable.uniqueIds
  · intro row mem
    have standing := mem
    rw [outboxAfter] at mem
    obtain ⟨old, oldMem, rfl⟩ := mem_map.mp mem
    have sound := readable.sound old oldMem
    by_cases taken : old.outboxId ∈ claimedIds
    · have leased := readable_of_mapM read (mem_rowsForOutboxIds.mpr ⟨standing, by
          rw [claimChange_outboxId]
          exact taken⟩)
      unfold SignalBusStore.claimChange at leased ⊢
      rw [if_pos taken] at leased ⊢
      exact sound.of_move kept (RowMove.lease (due old oldMem taken).1 leased) (by decide)
    · unfold SignalBusStore.claimChange
      rw [if_neg taken]
      by_cases lapsed : old.Lapsed now
      · rw [if_pos lapsed]
        exact sound.expire kept lapsed.1 lapsed.2 (by decide)
      · rw [if_neg lapsed]
        exact sound.mono kept

/-- Evidence that is written while the lease runs keeps the outbox readable. -/
theorem of_noted
    (timely : ∀ row ∈ before.outbox, row.outboxId = outboxId →
      ∀ deadline ∈ row.leaseUntil, observedAt < deadline)
    (recorded : SignalBusStore.recordUnknownDelivery outboxId workerId attemptNo
      observedAt reason providerReceipt before = (.ok evidence, after)) :
    ReadableBus store used after := by
  obtain ⟨row, startedAt, found, held, started, startedBefore, written⟩ :=
    recordUnknownDelivery_eq_ok recorded
  rcases written with rfl | ⟨_, rfl⟩
  · exact readable
  have known := mem_of_findKey found
  refine ⟨?_, readable.uniqueSignals, ?_⟩
  · have sameIds : (updateKey OutboxRow.outboxId outboxId
        (OutboxRow.noteUnknown (strip reason) observedAt) before.outbox).map OutboxRow.outboxId =
        before.outbox.map OutboxRow.outboxId :=
      map_updateKey fun _ _ _ => rfl
    exact sameIds ▸ readable.uniqueIds
  · intro changed mem
    obtain ⟨old, oldMem, ⟨named, rfl⟩ | ⟨_, rfl⟩⟩ := mem_updateKey.mp mem
    · have sound := readable.sound old oldMem
      obtain rfl : old = row :=
        eq_of_key_eq readable.uniqueIds oldMem known.1 (named.trans known.2.symm)
      have unscheduled := sound.unscheduled held.leased
      have created := (sound.started startedAt started).trans startedBefore
      refine sound.of_sameDelivery ?_ ⟨rfl, rfl, rfl, rfl, rfl⟩
        (sound.readable.noteUnknown held.leased unscheduled created (timely old oldMem named))
        sound.started sound.unscheduled
      exact List.Subset.refl _
    · exact (readable.sound changed oldMem).mono (List.Subset.refl _)

end

theorem step (distinct : store.CollisionFree used) (readable : ReadableBus store used before)
    (timely : call.Timely before) (within : call.RoutesWithin used)
    (stepped : BusStep store before call after) :
    ReadableBus store used after := by
  cases BusEffect.of_step readable.uniqueIds stepped with
  | unchanged => exact readable
  | ingested ingested => exact readable.of_ingested ingested
  | routed _ found available routed frame =>
    have sameEnvelopes := congrArg SignalBus.envelopes frame
    refine of_routed distinct readable ?_ found available routed sameEnvelopes
    intro target listed
    exact within _ (mem_map_of_mem (mem_canonicalDeliveryTargets.mp listed))
  | bound bound => exact readable.of_same bound.same.1 bound.same.2
  | committed family _ bound committed =>
    refine readable.of_committed distinct ?_ bound committed
    intro target listed
    refine within _ ?_
    rw [BusCall.deliveries, family]
    exact mem_map_of_mem listed
  | claimed claimed => exact readable.of_claimed claimed
  | completed _ completed => exact readable.of_completed completed
  | released released =>
    obtain ⟨_, found, held, _, settled, rfl⟩ := releaseUnattempted_eq_ok released
    exact readable.of_moved found rfl rfl
      (fun _ => ⟨rfl, rfl, rfl, rfl, rfl⟩) (RowMove.giveBack held settled) (by decide)
  | noted recorded => exact readable.of_noted timely recorded
  | recovered recovered => exact readable.of_recovered recovered

theorem of_run (distinct : store.CollisionFree used)
    (run :
      BusReaches store (fun bus call => call.Timely bus ∧ call.RoutesWithin used) .initial after) :
    ReadableBus store used after :=
  Reaches.invariant run initial fun readable allowed stepped =>
    readable.step distinct allowed.1 allowed.2 stepped

end ReadableBus

/-! ## Reading the outbox -/

/-- While every report of an unknown outcome is made before the lease it names
runs out, every row passes its validation, no listing of the outbox raises, a
leased row's lease ends after its last update and not after its signal, and a
retry is due between the last update and the signal's end. -/
theorem outbox_stays_readable {store : SignalBusStore} {used : Set (Digest × DeliveryTarget)}
    {bus : SignalBus} (distinct : store.CollisionFree used)
    (run :
      BusReaches store (fun bus call => call.Timely bus ∧ call.RoutesWithin used) .initial bus) :
    (∀ row ∈ bus.outbox, store.outboxFromRow row = .ok row.record) ∧
    (∀ outboxId, store.outboxRecord outboxId bus =
      .ok ((findKey OutboxRow.outboxId outboxId bus.outbox).map OutboxRow.record)) ∧
    (∀ signalId status, ∃ records, store.outboxRecords signalId status bus = .ok records) ∧
    ∀ row ∈ bus.outbox,
      (row.status = .leased →
        ∃ deadline, row.leaseUntil = some deadline ∧
          row.updatedAt < deadline ∧ deadline ≤ row.expiresAt) ∧
      (row.status = .retry →
        ∃ next, row.nextAttemptAt = some next ∧ row.updatedAt ≤ next ∧ next < row.expiresAt) := by
  have law := ReadableBus.of_run distinct run
  have reads : ∀ row ∈ bus.outbox, store.outboxFromRow row = .ok row.record :=
    fun row member => outboxFromRow_eq_ok.mpr ⟨(law.sound row member).readable, rfl⟩
  refine ⟨reads, ?_, ?_, ?_⟩
  · intro outboxId
    unfold SignalBusStore.outboxRecord
    cases found : findKey OutboxRow.outboxId outboxId bus.outbox with
    | none => rfl
    | some row => simp [reads row (mem_of_findKey found).1, ok_bind, pure, Except.pure]
  · intro signalId status
    refine ⟨map OutboxRow.record _, mapM_eq_ok fun row member => ?_⟩
    rw [mem_sortOn] at member
    exact reads row (mem_of_mem_filter member)
  · intro row member
    have readable := (law.sound row member).readable
    constructor
    · intro leased
      have owned := readable.leased leased
      rw [readable.paired] at owned
      obtain ⟨deadline, lease⟩ := Option.isSome_iff_exists.mp owned
      exact ⟨deadline, lease, readable.deadline_gt leased deadline lease,
        readable.deadline_le leased deadline lease⟩
    · intro retry
      obtain ⟨next, scheduled⟩ := Option.isSome_iff_exists.mp (readable.retry_next retry)
      exact ⟨next, scheduled, readable.next_ge next scheduled, readable.next_lt next scheduled⟩

instance (bus : SignalBus) (call : BusCall) : Decidable (call.Timely bus) :=
  match call with
  | .recordUnknownDelivery .. => inferInstanceAs (Decidable (∀ _ ∈ _, _))
  | .ingest .. | .route .. | .bindRouteSource .. | .commitSourceRoute ..
  | .claimDue .. | .completeSuccess .. | .completeFailure ..
  | .releaseUnattempted .. | .recoverExpiredLeases .. => inferInstanceAs (Decidable True)

instance (used : List (Digest × DeliveryTarget)) (call : BusCall) :
    Decidable (call.RoutesWithin {delivery | delivery ∈ used}) :=
  inferInstanceAs (Decidable (∀ delivery ∈ call.deliveries, delivery ∈ used))

def sampleUsed : List (Digest × DeliveryTarget) :=
  [(7, sampleFirst), (7, sampleSecond), (8, sampleFirst)]

/-- The outcome of one delivery is unknown and noted in time, the other one is
to be retried. -/
def sampleReadable : SignalBus :=
  finalState
    (applyAllowed (fun bus (call : BusCall) => call.apply sampleStore bus)
      fun bus call => call.Timely bus ∧ call.RoutesWithin {delivery | delivery ∈ sampleUsed})
    .initial
    [.ingest (.legacy (sampleSignal 7)) 0, .route 7 [sampleFirst, sampleSecond] 1,
      .claimDue "w" 10 1000 5, .completeFailure 702 "w" 1 20 "timeout",
      .recordUnknownDelivery 704 "w" 1 900 "connection lost" none]

/-- Evidence of an unknown outcome is noted before the lease ends. -/
theorem outbox_stays_readable_sample :
    sampleReadable.outbox.map (fun row => (row.status, row.updatedAt, row.leaseUntil)) =
      [(.retry, 20, none), (.leased, 900, some 1010)] ∧
    ∃ records, sampleStore.outboxRecords none none sampleReadable = .ok records :=
  ⟨by decide +kernel,
    (outbox_stays_readable (collisionFree_of_forall (by decide +kernel))
      (reaches_applyAllowed _ _)).2.2.1 none none⟩

/-- A worker whose provider call outlasts the lease notes an unknown
outcome. -/
def lateEvents : List SystemEvent :=
  [.ingest (.legacy (sampleSignal 7)) 0, .route 7 [sampleFirst] 1, .start "w" [.pushdeer] 10 1000 5,
    .work 0 (sampleInput 20 (.returned none)),
    .work 0 (sampleInput 5000 (.raised "connection lost")),
    .work 0 (sampleInput 5000 (.returned none))]

def lateCalls : List BusCall :=
  [.ingest (.legacy (sampleSignal 7)) 0, .route 7 [sampleFirst] 1, .claimDue "w" 10 1000 5,
    .recordUnknownDelivery 702 "w" 1 5000 "connection lost" none]

/-- Noted after the lease ended, it leaves a row that no reader accepts. -/
theorem outbox_unreadable_after_late_evidence :
    (lateEvents.foldl (NotificationSystem.step sampleStore) .initial).bus.outbox =
      (applyCalls sampleStore .initial lateCalls).outbox ∧
    (applyCalls sampleStore .initial lateCalls).outbox.map (fun row =>
        (row.status, row.updatedAt, row.leaseUntil)) =
      [(.leased, 5000, some 1010)] ∧
    sampleStore.outboxRecords none none (applyCalls sampleStore .initial lateCalls) =
      .error (.value "lease_until must be after updated_at") := by
  decide +kernel

end RQuant.Signal
