import RQuant.Signal.LedgerIntegrity

/-!
# Paging through routed signals

Readers page through the signals in global order and expect a receipt beside
each one.  A rotation deletes every archive of a source but the last two, and
the third rotation of a busy source deletes receipts: a reader cannot get past
the first signal that has lost its own.
-/

namespace RQuant.Signal

open Foundation
open List hiding after next count minimum

/-- A bind whose rotation, if it makes one, prunes empty archives only. -/
def RouteSourceBindingRequest.KeepsReceipts
    (request : RouteSourceBindingRequest) (previous : PreviousGenerations)
    (bus : SignalBus) : Prop :=
  ∀ row ∈ bus.sources, row.sourceId = request.descriptor.sourceId →
    (request.rotatesFrom previous row).isSome = true →
      ∀ rotation ∈
          (bus.openRotations request.descriptor.sourceId).drop (archivedGenerationsKept - 1),
        sequencesOf bus.receipts rotation.archivedSourceId = []
deriving Decidable

/-- Signals enter through `commit_source_route` only. -/
def BusCall.Commits : BusCall → Prop
  | .ingest .. => False
  | _ => True

def BusCall.KeepsReceipts (bus : SignalBus) : BusCall → Prop
  | .bindRouteSource previous request => request.KeepsReceipts previous bus
  | .commitSourceRoute previous commit => commit.binding.KeepsReceipts previous bus
  | _ => True

def RouteReceiptRow.receipt (row : RouteReceiptRow) : SignalRouteReceipt where
  sourceId := row.sourceId
  sourceSequence := row.sourceSequence
  signalId := row.signalId
  decisionFingerprint := row.decisionFingerprint
  disposition := row.disposition
  reasonCode := row.reasonCode
  targetManifestHash := row.targetManifestHash
  targets := row.targetManifest
  targetCount := row.targetManifest.length
  routedAt := row.routedAt

def routedRecordOf (row : EnvelopeRow × RouteReceiptRow) : SignalBusRoutedRecord where
  globalSequence := row.1.globalSequence
  signalId := row.1.signalId
  payloadHash := row.1.payloadHash
  signal := row.1.payload
  receivedAt := row.1.receivedAt
  receipt := row.2.receipt

structure EnvelopeRow.Intact (store : SignalBusStore) (row : EnvelopeRow) : Prop where
  signalId : row.payload.signalId = row.signalId
  payloadHash : row.payloadHash = store.digests.payloadHash row.payload

structure RouteReceiptRow.Intact (store : SignalBusStore) (row : RouteReceiptRow) : Prop where
  manifestHash : store.digests.manifestHash row.targetManifest = row.targetManifestHash
  untargeted : row.disposition = .noTarget → row.targetManifest = [] ∧ row.reasonCode.isSome = true
  targeted : row.disposition ≠ .noTarget → row.targetManifest ≠ [] ∧ row.reasonCode = none

variable {after before : SignalBus} {previous : PreviousGenerations}
  {request : RouteSourceBindingRequest} {source : RouteSourceRow} {commit : SourceRouteCommit}

namespace SignalBusStore

variable {store : SignalBusStore}

theorem routeReceiptFromRow_of_intact (intact : row.Intact store) :
    store.routeReceiptFromRow row = .ok row.receipt := by
  simp only [run_eq_ok, routeReceiptFromRow, SignalRouteReceipt.validateTargets]
  exact ⟨intact.manifestHash, ⟨trivial, intact.untargeted, intact.targeted⟩, rfl⟩

theorem routedRecords_of_intact
    (intact :
      ∀ row ∈ rows, row.1.Intact store ∧ row.2.Intact store ∧ row.2.signalId = row.1.signalId)
    (consecutive : rows.map (fun row => row.1.globalSequence) = range' expected rows.length) :
    store.routedRecords expected rows = .ok (rows.map routedRecordOf) := by
  induction rows generalizing expected with
  | nil => rfl
  | cons row rest ih =>
    rw [length_cons, range'_succ, map_cons, cons.injEq] at consecutive
    obtain ⟨stored, readable, same⟩ := intact row (by simp)
    have restRead := ih (fun other mem => intact other (mem_cons_of_mem _ mem)) consecutive.2
    obtain ⟨_, _⟩ := row
    simp only [run_eq_ok, routedRecords, routedRecord, routeReceiptFromRow_of_intact readable,
      ok_bind]
    exact ⟨consecutive.1, _, ⟨stored.signalId, stored.payloadHash, same, rfl⟩, _, restRead, rfl⟩

theorem committedReceipt_intact (decided : commit.Decided) (signal : SignalEnvelope) :
    (store.committedReceipt commit signal).Intact store := by
  constructor
  case manifestHash => rfl
  case untargeted =>
    intro disposition
    cases kind : commit.decisionKind with
    | noTarget => exact decided.dropped kind
    | route =>
      simp only [committedReceipt, kind] at disposition
      split at disposition <;> cases disposition
  case targeted =>
    intro disposition
    cases kind : commit.decisionKind with
    | noTarget => simp [committedReceipt, kind] at disposition
    | route => exact decided.routed kind

end SignalBusStore

theorem archivedSourceId_injective (sourceId : String) :
    Function.Injective (archivedSourceId sourceId) := by
  intro _ _ same
  unfold archivedSourceId at same
  exact hex_injective ((String.append_right_inj _).mp same)

def SignalBus.NamedArchives (bus : SignalBus) : Prop :=
  ∀ rotation ∈ bus.rotations, rotation.archivedSourceId =
    archivedSourceId rotation.sourceId rotation.previousSourceGenerationId

theorem SignalBus.receipts_foldl_pruneArchive {bus : SignalBus} {stale : List RotationRow}
    (empty :
      ∀ rotation ∈ stale, ∀ receipt ∈ bus.receipts, receipt.sourceId ≠ rotation.archivedSourceId) :
    (stale.foldl SignalBus.pruneArchive bus).receipts = bus.receipts := by
  induction stale generalizing bus with
  | nil => rfl
  | cons rotation rest ih =>
    have kept : (bus.pruneArchive rotation).receipts = bus.receipts := by
      refine filter_eq_self.mpr ?_
      intro receipt mem
      exact decide_eq_true (empty rotation (by simp) receipt mem)
    rw [foldl_cons, ih, kept]
    intro other mem receipt receiptMem
    rw [kept] at receiptMem
    exact empty other (mem_cons_of_mem _ mem) receipt receiptMem

namespace BoundSource

section

variable (bound : BoundSource previous request before source after) (named : before.NamedArchives)

include bound named

theorem namedArchives : after.NamedArchives := by
  cases bound with
  | registered => exact named
  | unchanged => exact named
  | advanced => exact named
  | @rotated row _ previousGenerationId =>
    apply SignalBus.pruneRotatedSources_induction
    · intro rotation mem
      rcases mem_concat.mp mem with known | rfl
      · exact named rotation known
      · rfl
    · intro _ rotation currentNamed _ _ mem
      obtain ⟨old, oldMem, rfl⟩ := mem_map.mp mem
      split <;> exact currentNamed old oldMem

/-- A bind that prunes empty archives renames receipts and deletes none. -/
theorem receipts_of_keeps (keeps : request.KeepsReceipts previous before) :
    ∃ rename : RouteReceiptRow → RouteReceiptRow, after.receipts = before.receipts.map rename ∧
      ∀ receipt, ∃ sourceId, rename receipt = { receipt with sourceId := sourceId } := by
  have untouched : ∀ receipts : List RouteReceiptRow, ∃ rename : RouteReceiptRow → RouteReceiptRow,
      receipts = receipts.map rename ∧
        ∀ receipt, ∃ sourceId, rename receipt = { receipt with sourceId := sourceId } :=
    fun receipts => ⟨id, (map_id _).symm, fun receipt => ⟨receipt.sourceId, rfl⟩⟩
  cases bound with
  | registered => exact untouched _
  | unchanged => exact untouched _
  | advanced => exact untouched _
  | @rotated row _ previousGenerationId found rotates _ fresh =>
    obtain ⟨standing, sameId⟩ := mem_of_findKey found
    have emptyBefore := keeps row standing sameId (by rw [rotates, Option.isSome_some])
    refine ⟨RouteReceiptRow.rename request.descriptor.sourceId
      (archivedSourceId request.descriptor.sourceId row.generationId), ?_, ?_⟩
    · unfold SignalBus.pruneRotatedSources
      rw [SignalBus.receipts_foldl_pruneArchive]
      · rfl
      have pushed : (request.rotatedBus previousGenerationId row before).openRotations
            request.descriptor.sourceId =
          request.rotation previousGenerationId row ::
            before.openRotations request.descriptor.sourceId := by
        simp [SignalBus.openRotations, RouteSourceBindingRequest.rotatedBus,
          RouteSourceBindingRequest.rotation, filter_append]
      rw [pushed]
      intro rotation stale receipt mem
      have older : rotation ∈ before.openRotations request.descriptor.sourceId :=
        mem_of_mem_drop stale
      simp only [SignalBus.openRotations, mem_reverse, mem_filter, decide_eq_true_iff] at older
      obtain ⟨recorded, sameSource, _⟩ := older
      have name := named rotation recorded
      rw [sameSource] at name
      obtain ⟨old, oldMem, rfl⟩ := mem_map.mp mem
      unfold RouteReceiptRow.rename
      by_cases moved : old.sourceId = request.descriptor.sourceId
      · rw [if_pos moved, name]
        -- The new archive is of a generation that was not rotated before.
        intro same
        have sameGeneration := archivedSourceId_injective _ same
        refine fresh (mem_map.mpr ⟨rotation, recorded, ?_⟩)
        rw [sameSource, sameGeneration]
      · rw [if_neg moved]
        intro same
        have held : old.sourceSequence ∈ sequencesOf before.receipts rotation.archivedSourceId :=
          mem_map_of_mem (mem_filter.mpr ⟨oldMem, decide_eq_true same⟩)
        rw [emptyBefore rotation stale] at held
        cases held
    · intro receipt
      unfold RouteReceiptRow.rename
      split
      · exact ⟨_, rfl⟩
      · exact ⟨receipt.sourceId, rfl⟩

end

end BoundSource

/-- Every stored signal has its one receipt, and both can be read. -/
structure PagedBus (store : SignalBusStore) (bus : SignalBus) : Prop where
  uniqueIds : (bus.outbox.map OutboxRow.outboxId).Nodup
  numbers : SignalNumbers bus
  uniqueSignals : (bus.envelopes.map EnvelopeRow.signalId).Nodup
  envelopes : ∀ envelope ∈ bus.envelopes, envelope.Intact store
  receipts : ∀ receipt ∈ bus.receipts, receipt.Intact store
  receipted :
    (bus.receipts.map RouteReceiptRow.signalId).Perm (bus.envelopes.map EnvelopeRow.signalId)
  archives : bus.NamedArchives

namespace PagedBus

variable {store : SignalBusStore} {before after : SignalBus}

theorem initial : PagedBus store .initial where
  uniqueIds := nodup_nil
  numbers := SignalNumbers.initial
  uniqueSignals := nodup_nil
  envelopes := by simp [SignalBus.initial]
  receipts := by simp [SignalBus.initial]
  receipted := List.Perm.refl _
  archives := by simp [SignalBus.NamedArchives, SignalBus.initial]

theorem of_same (paged : PagedBus store before)
    (signals : SameSignals before after) (ledger : SameLedger before after)
    (uniqueIds : (after.outbox.map OutboxRow.outboxId).Nodup) :
    PagedBus store after where
  uniqueIds := uniqueIds
  numbers := paged.numbers.of_same signals
  uniqueSignals := by
    rw [signals.envelopes]
    exact paged.uniqueSignals
  envelopes := by
    rw [signals.envelopes]
    exact paged.envelopes
  receipts := by
    rw [ledger.receipts]
    exact paged.receipts
  receipted := by
    rw [ledger.receipts, signals.envelopes]
    exact paged.receipted
  archives := by
    unfold SignalBus.NamedArchives
    rw [ledger.rotations]
    exact paged.archives

theorem of_moved (paged : PagedBus store before) (moved : DeliveriesMoved before after) :
    PagedBus store after := by
  refine paged.of_same moved.signals moved.ledger ?_
  have sameIds := congrArg (map (fun identity => identity.1)) moved.identities
  rw [map_map, map_map] at sameIds
  exact sameIds ▸ paged.uniqueIds

variable {source : RouteSourceRow} {signal : SignalEnvelope}

section

variable (paged : PagedBus store before)

include paged

theorem of_bound (keeps : request.KeepsReceipts previous before)
    (bound : BoundSource previous request before source after) :
    PagedBus store after := by
  obtain ⟨_, renamed, onlyName⟩ := bound.receipts_of_keeps paged.archives keeps
  have sameEnvelopes := bound.same.1.envelopes
  refine ⟨?_, paged.numbers.of_same bound.same.1, ?_, ?_, ?_, ?_,
    bound.namedArchives paged.archives⟩
  · rw [bound.same.2.outbox]
    exact paged.uniqueIds
  · rw [sameEnvelopes]
    exact paged.uniqueSignals
  · rw [sameEnvelopes]
    exact paged.envelopes
  · intro receipt mem
    rw [renamed] at mem
    obtain ⟨old, oldMem, rfl⟩ := mem_map.mp mem
    obtain ⟨sourceId, same⟩ := onlyName old
    have intact := paged.receipts old oldMem
    rw [same]
    exact { intact with }
  · have sameSignals : after.receipts.map RouteReceiptRow.signalId =
        before.receipts.map RouteReceiptRow.signalId := by
      rw [renamed, map_map]
      apply map_congr_left
      intro receipt _
      obtain ⟨sourceId, same⟩ := onlyName receipt
      rw [Function.comp_apply, same]
    rw [sameSignals, sameEnvelopes]
    exact paged.receipted

theorem stored_iff_receipted : signalId ∈ before.receipts.map RouteReceiptRow.signalId ↔
    signalId ∈ before.envelopes.map EnvelopeRow.signalId :=
  paged.receipted.mem_iff

theorem accept (missing : findKey EnvelopeRow.signalId signal.signalId before.envelopes = none)
    (uniqueIds : (outbox.map OutboxRow.outboxId).Nodup) (intact : receipt.Intact store)
    (named : receipt.signalId = signal.signalId) :
    PagedBus store
      { store.acceptSignal signal receivedAt before with
        outbox, sources, receipts := before.receipts ++ [receipt] } := by
  have ingested : Ingested store signal receivedAt before .accepted
      (store.acceptSignal signal receivedAt before) :=
    Ingested.accepted missing
  constructor
  case uniqueIds => exact uniqueIds
  case numbers => exact (paged.numbers.of_ingested ingested).of_same ⟨rfl, rfl, rfl⟩
  case uniqueSignals =>
    exact nodup_concat paged.uniqueSignals (findKey_eq_none.mp missing)
  case envelopes =>
    intro envelope mem
    rcases mem_concat.mp mem with known | rfl
    · exact paged.envelopes envelope known
    · exact ⟨rfl, rfl⟩
  case receipts =>
    intro other mem
    rcases mem_concat.mp mem with known | rfl
    · exact paged.receipts other known
    · exact intact
  case receipted =>
    simp only [SignalBusStore.acceptSignal, map_append, map_cons, map_nil, named]
    exact paged.receipted.append_right _
  case archives => exact paged.archives

theorem of_committed (decided : commit.Decided)
    (committed : CommittedRoute store commit signal source before after) :
    PagedBus store after := by
  cases committed with
  | @confirmed _ _ existing found same ingest clean =>
    have stored : signal.signalId ∈ before.envelopes.map EnvelopeRow.signalId := by
      rw [← paged.stored_iff_receipted, ← same]
      exact mem_map_of_mem (mem_of_findKey found).1
    cases ingest with
    | accepted missing => exact absurd stored (findKey_eq_none.mp missing)
    | duplicate => exact paged
    | quarantined => exact absurd rfl clean
  | recorded _ committable ingest clean untargeted targeted =>
    have missing : findKey EnvelopeRow.signalId signal.signalId before.envelopes = none := by
      rw [findKey_eq_none, ← paged.stored_iff_receipted, ← findKey_eq_none]
      exact committable.unowned
    have intact := store.committedReceipt_intact decided signal
    cases ingest with
    | duplicate found =>
      rw [missing] at found
      cases found
    | quarantined => exact absurd rfl clean
    | accepted =>
      cases kind : commit.decisionKind with
      | noTarget =>
        rw [untargeted kind]
        exact paged.accept missing paged.uniqueIds intact rfl
      | route =>
        obtain ⟨_, routing⟩ := targeted kind
        have acceptedIds : ((store.acceptSignal signal commit.routedAt
            before).outbox.map OutboxRow.outboxId).Nodup :=
          paged.uniqueIds
        obtain ⟨_, _, _, _, _, routed, frame⟩ :=
          SignalBusStore.routeInTransaction_eq_ok acceptedIds routing
        rw [frame]
        exact paged.accept missing routed.uniqueIds intact rfl

theorem of_move (commits : call.Commits) (keeps : call.KeepsReceipts before)
    (move : LedgerMove store before call after) :
    PagedBus store after := by
  cases move with
  | moved moved => exact paged.of_moved moved
  | ingested => exact absurd commits id
  | routed _ _ routed frame =>
    rw [frame]
    exact paged.of_same ⟨rfl, rfl, rfl⟩ ⟨rfl, rfl, rfl⟩ routed.uniqueIds
  | bound bound => exact paged.of_bound keeps bound
  | committed _ decided bound committed =>
    exact (paged.of_bound keeps bound).of_committed decided committed

end

theorem of_run
    (run :
      BusReaches store (fun bus call => call.Commits ∧ call.KeepsReceipts bus) .initial after) :
    PagedBus store after := by
  refine Reaches.invariant run initial ?_
  intro _ call _ paged allowed stepped
  exact paged.of_move allowed.1 allowed.2 (ledgerMove_of_step paged.uniqueIds stepped)

/-- The join of signals and receipts has no gap below the watermark. -/
theorem exists_routedRows (paged : PagedBus store bus) (limit : ℕ)
    (ordered : afterSequence ≤ throughSequence) (within : throughSequence ≤ bus.highWatermark) :
    ∃ rows, SignalBusStore.routedRows afterSequence throughSequence limit bus = rows ∧
      rows.map (fun row => row.1.globalSequence) =
        range' (afterSequence + 1) (min throughSequence (afterSequence + limit) - afterSequence) ∧
      ∀ row ∈ rows, row.1 ∈ bus.envelopes ∧ row.2 ∈ bus.receipts ∧
        row.2.signalId = row.1.signalId := by
  set window := bus.envelopes.filter fun envelope =>
    afterSequence < envelope.globalSequence ∧
      envelope.globalSequence ≤ throughSequence with windowDef
  rw [paged.numbers.watermark] at within
  have numbered : window.map EnvelopeRow.globalSequence =
      range' (afterSequence + 1) (throughSequence - afterSequence) := by
    rw [← filter_range'_window ordered within, ← paged.numbers.numbered, filter_map]
    rfl
  have sorted : sortOn EnvelopeRow.globalSequence window = window := by
    apply sortOn_eq_self
    rw [← pairwise_map (f := EnvelopeRow.globalSequence), numbered]
    exact pairwise_le_range'
  have uniqueReceipts : (bus.receipts.map RouteReceiptRow.signalId).Nodup :=
    paged.receipted.nodup_iff.mpr paged.uniqueSignals
  have single : ∀ envelope ∈ window, ∃ receipt,
      (bus.receipts.filter fun receipt => receipt.signalId = envelope.signalId) = [receipt] := by
    intro envelope mem
    have stored := mem_of_mem_filter mem
    obtain ⟨receipt, receiptMem, same⟩ :=
      mem_map.mp (paged.stored_iff_receipted.mpr (mem_map_of_mem stored))
    refine ⟨receipt, filter_eq_singleton uniqueReceipts receiptMem (decide_eq_true same) ?_⟩
    intro _ _ otherSame
    exact (of_decide_eq_true otherSame).trans same.symm
  obtain ⟨pairs, joined, firsts, partners⟩ := exists_join_of_singletons single
  refine ⟨pairs.take limit, ?_, ?_, ?_⟩
  · unfold SignalBusStore.routedRows
    rw [← windowDef, sorted, joined]
  · have pairsNumbered : pairs.map (fun row => row.1.globalSequence) =
        range' (afterSequence + 1) (throughSequence - afterSequence) := by
      rw [← numbered, ← firsts, map_map]
      rfl
    rw [map_take, pairsNumbered]
    by_cases short : limit ≤ throughSequence - afterSequence
    · rw [take_range'_of_length_ge short]
      congr 1
      omega
    · rw [take_range'_of_length_le (by omega)]
      congr 1
      omega
  · intro row mem
    have listed := mem_of_mem_take mem
    have firstListed : row.1 ∈ window := by
      rw [← firsts]
      exact mem_map_of_mem listed
    have partner := partners row listed
    exact ⟨mem_of_mem_filter firstListed, partner.1, of_decide_eq_true partner.2⟩

end PagedBus

/-! ## Pages -/

/-- In every run in which signals enter through commits and no rotation prunes
an archive that holds receipts, a page from any cursor and of a size that a
statement takes returns exactly the
records of the sequences after it, up to the limit and the requested
watermark. -/
theorem routed_signals_pageable {store : SignalBusStore} {bus : SignalBus}
    (run : BusReaches store (fun bus call => call.Commits ∧ call.KeepsReceipts bus) .initial bus)
    {afterSequence throughSequence limit : ℕ} (advances : afterSequence < throughSequence)
    (within : throughSequence ≤ bus.highWatermark) (positive : 1 ≤ limit)
    (bounded : limit < 2 ^ 63) :
    ∃ rows : List (EnvelopeRow × RouteReceiptRow),
      store.routedSignalsAfterGlobalSequence afterSequence throughSequence limit bus =
        .ok (rows.map routedRecordOf) ∧
      rows.map (fun row => row.1.globalSequence) =
        range' (afterSequence + 1) (min throughSequence (afterSequence + limit) - afterSequence) ∧
      ∀ row ∈ rows, row.1 ∈ bus.envelopes ∧ row.2 ∈ bus.receipts ∧
        row.2.signalId = row.1.signalId := by
  have paged := PagedBus.of_run run
  obtain ⟨rows, joined, numbered, stored⟩ := paged.exists_routedRows limit advances.le within
  have length : rows.length = min throughSequence (afterSequence + limit) - afterSequence := by
    simpa using congrArg length numbered
  have nonempty : rows ≠ [] := by
    intro empty
    rw [empty, length_nil] at length
    omega
  have intact :
      ∀ row ∈ rows, row.1.Intact store ∧ row.2.Intact store ∧ row.2.signalId = row.1.signalId := by
    intro row member
    obtain ⟨envelope, receipt, same⟩ := stored row member
    exact ⟨paged.envelopes _ envelope, paged.receipts _ receipt, same⟩
  have consecutive :
      rows.map (fun row => row.1.globalSequence) = range' (afterSequence + 1) rows.length := by
    rw [numbered, length]
  refine ⟨rows, ?_, numbered, stored⟩
  simp only [run_eq_ok, SignalBusStore.routedSignalsAfterGlobalSequence, joined]
  exact ⟨advances.le, positive, within, bounded, fun _ => nonempty,
    SignalBusStore.routedRecords_of_intact intact consecutive⟩

instance (call : BusCall) : Decidable call.Commits :=
  match call with
  | .ingest .. => inferInstanceAs (Decidable False)
  | .route .. | .bindRouteSource .. | .commitSourceRoute .. | .claimDue ..
  | .completeSuccess .. | .completeFailure .. | .releaseUnattempted ..
  | .recordUnknownDelivery .. | .recoverExpiredLeases .. => inferInstanceAs (Decidable True)

instance (bus : SignalBus) (call : BusCall) : Decidable (call.KeepsReceipts bus) :=
  match call with
  | .bindRouteSource previous request =>
    inferInstanceAs (Decidable (request.KeepsReceipts previous bus))
  | .commitSourceRoute previous commit =>
    inferInstanceAs (Decidable (commit.binding.KeepsReceipts previous bus))
  | .ingest .. | .route .. | .claimDue .. | .completeSuccess ..
  | .completeFailure .. | .releaseUnattempted .. | .recordUnknownDelivery ..
  | .recoverExpiredLeases .. => inferInstanceAs (Decidable True)

/-- Two generations with a signal each, and a third one. -/
def sampleReleases : List BusCall :=
  [.commitSourceRoute (sampleGenerations 1) (sampleCommit 1 7),
    .commitSourceRoute (sampleGenerations 2) (sampleCommit 2 8), sampleBind 3]

def samplePages : SignalBus :=
  finalState
    (applyAllowed (fun bus (call : BusCall) => call.apply sampleStore bus)
      fun bus call => call.Commits ∧ call.KeepsReceipts bus)
    .initial sampleReleases

/-- After two rotations the page still has both signals. -/
theorem routed_signals_pageable_sample :
    samplePages.highWatermark = 2 ∧ samplePages.rotations.length = 2 ∧
    ∃ rows : List (EnvelopeRow × RouteReceiptRow),
      sampleStore.routedSignalsAfterGlobalSequence 0 2 10 samplePages =
        .ok (rows.map routedRecordOf) ∧
      rows.map (fun row => row.1.globalSequence) = range' 1 2 := by
  have run : BusReaches sampleStore (fun bus call => call.Commits ∧ call.KeepsReceipts bus)
      .initial samplePages :=
    reaches_applyAllowed _ _
  have positive : 1 ≤ 10 := by decide
  obtain ⟨rows, page, numbered, _⟩ :=
    routed_signals_pageable run (by decide : 0 < 2) (by decide +kernel) positive
      (by decide)
  exact ⟨by decide +kernel, by decide +kernel, rows, page, numbered⟩

/-- The third rotation deletes the archive of the first generation and with it
the receipt of the first signal: no reader gets past it. -/
theorem routed_signals_gap_after_third_rotation :
    (∀ call ∈ sampleReleases ++ [sampleBind 4], call.Commits) ∧
    (applyCalls sampleStore .initial (sampleReleases ++ [sampleBind 4])).highWatermark = 2 ∧
    sampleStore.routedSignalsAfterGlobalSequence 0 2 10
        (applyCalls sampleStore .initial (sampleReleases ++ [sampleBind 4])) =
      .error (.sourceSequence "routed signal sequence gap: expected 1, observed 2") := by
  decide +kernel

end RQuant.Signal
