import RQuant.Signal.Steps

/-!
# Sources and their receipts

The receipts a source holds are numbered without gaps.  A rotation moves all
receipts of a generation to the archive row it inserts, and pruning deletes an
archive together with its receipts.
-/

namespace RQuant.Signal

open Foundation
open List hiding after next count minimum

def sequencesOf (receipts : List RouteReceiptRow) (sourceId : String) : List ℕ :=
  (receipts.filter fun receipt => receipt.sourceId = sourceId).map RouteReceiptRow.sourceSequence

variable {receipts : List RouteReceiptRow} {store : SignalBusStore} {bus : SignalBus}

variable {archivedId sourceId : String} {source : RouteSourceRow}

theorem sequencesOf_eq_nil (unused : ∀ receipt ∈ receipts, receipt.sourceId ≠ sourceId) :
    sequencesOf receipts sourceId = [] := by
  rw [sequencesOf, filter_of_none unused, map_nil]

theorem sequencesOf_append (left right : List RouteReceiptRow) (sourceId : String) :
    sequencesOf (left ++ right) sourceId =
      sequencesOf left sourceId ++ sequencesOf right sourceId := by
  simp [sequencesOf]

theorem sequencesOf_filter_ne (other : sourceId ≠ deleted) :
    sequencesOf (receipts.filter fun receipt => receipt.sourceId ≠ deleted) sourceId =
      sequencesOf receipts sourceId := by
  unfold sequencesOf
  rw [filter_filter]
  congr 1
  apply filter_congr
  intro receipt _
  by_cases same : receipt.sourceId = sourceId
  · simp [same, other]
  · simp [same]

section Rename

theorem sequencesOf_rename_archive (unused : ∀ receipt ∈ receipts, receipt.sourceId ≠ archivedId) :
    sequencesOf (receipts.map (RouteReceiptRow.rename sourceId archivedId)) archivedId =
      sequencesOf receipts sourceId := by
  induction receipts with
  | nil => rfl
  | cons receipt rest ih =>
    have restSame := ih fun other mem => unused other (mem_cons_of_mem _ mem)
    have fresh := unused receipt (by simp)
    unfold sequencesOf at restSame ⊢
    by_cases same : receipt.sourceId = sourceId
    · simpa [RouteReceiptRow.rename, same] using restSame
    · simpa [RouteReceiptRow.rename, same, fresh] using restSame

theorem sequencesOf_rename_source (different : archivedId ≠ sourceId) :
    sequencesOf (receipts.map (RouteReceiptRow.rename sourceId archivedId)) sourceId = [] := by
  apply sequencesOf_eq_nil
  intro _ mem
  obtain ⟨old, _, rfl⟩ := mem_map.mp mem
  unfold RouteReceiptRow.rename
  by_cases same : old.sourceId = sourceId
  · rw [if_pos same]
    exact different
  · rw [if_neg same]
    exact same

theorem sequencesOf_rename_other (notSource : other ≠ sourceId) (notArchive : other ≠ archivedId) :
    sequencesOf (receipts.map (RouteReceiptRow.rename sourceId archivedId)) other =
      sequencesOf receipts other := by
  induction receipts with
  | nil => rfl
  | cons receipt rest ih =>
    unfold sequencesOf at ih ⊢
    by_cases same : receipt.sourceId = sourceId
    · simpa [RouteReceiptRow.rename, same, notSource.symm, notArchive.symm] using ih
    · by_cases matched : receipt.sourceId = other
      · simpa [RouteReceiptRow.rename, same, matched, notSource] using ih
      · simpa [RouteReceiptRow.rename, same, matched] using ih

end Rename

theorem archivedSourceId_ne (sourceId : String) (generationId : Digest) :
    archivedSourceId sourceId generationId ≠ sourceId := by
  intro same
  have lengths := congrArg String.length same
  simp only [archivedSourceId, String.length_append] at lengths
  have marker : "#rotated-".length = 9 := by decide
  omega

/-- A source holds exactly the receipts from its first to its last sequence,
and has not gone beyond the watermark it has seen. -/
structure SourceLaw (receipts : List RouteReceiptRow) (source : RouteSourceRow) : Prop where
  sequences : sequencesOf receipts source.sourceId =
    range' source.firstSequence (source.lastSequence + 1 - source.firstSequence)
  first_pos : 1 ≤ source.firstSequence
  first_le : source.firstSequence ≤ source.lastSequence + 1
  last_le : source.lastSequence ≤ source.observedHighWatermark

/-- Every receipt has its source, and every source its receipts. -/
structure SourceLedger (bus : SignalBus) : Prop where
  uniqueSources : (bus.sources.map RouteSourceRow.sourceId).Nodup
  owned : ∀ receipt ∈ bus.receipts, receipt.sourceId ∈ bus.sources.map RouteSourceRow.sourceId
  law : ∀ source ∈ bus.sources, SourceLaw bus.receipts source

theorem SourceLaw.of_freshSource {request : RouteSourceBindingRequest}
    (none : sequencesOf receipts request.descriptor.sourceId = []) :
    SourceLaw receipts request.freshSource := by
  have positive := request.descriptor.firstSequence_pos
  have start := request.descriptor.start_le_watermark
  have restored : request.descriptor.firstSequence - 1 + 1 = request.descriptor.firstSequence :=
    Nat.sub_add_cancel positive
  constructor
  case sequences =>
    simp only [RouteSourceBindingRequest.freshSource, restored, Nat.sub_self, range'_zero]
    exact none
  case first_pos => exact positive
  case first_le =>
    simp only [RouteSourceBindingRequest.freshSource, restored]
    exact le_refl _
  case last_le =>
    simp only [RouteSourceBindingRequest.freshSource]
    omega

theorem SourceLaw.congr (law : SourceLaw before row)
    (first : changed.firstSequence = row.firstSequence)
    (last : changed.lastSequence = row.lastSequence)
    (observed : row.lastSequence ≤ changed.observedHighWatermark)
    (same : sequencesOf after changed.sourceId = sequencesOf before row.sourceId) :
    SourceLaw after changed := by
  refine ⟨?_, ?_, ?_, ?_⟩
  · rw [same, first, last]
    exact law.sequences
  · rw [first]
    exact law.first_pos
  · rw [first, last]
    exact law.first_le
  · rw [last]
    exact observed

theorem SourceLaw.advance (law : SourceLaw bus.receipts source)
    (committable : commit.Committable signal source bus)
    (named : source.sourceId = commit.descriptor.sourceId)
    (level : source.observedHighWatermark = commit.descriptor.highWatermark) :
    SourceLaw (bus.receipts ++ [store.committedReceipt commit signal])
      (commit.advance signal source) := by
  have first := law.first_le
  have next := committable.next
  have declared := committable.declared
  have one : sequencesOf [store.committedReceipt commit signal] source.sourceId =
      [commit.sourceSequence] := by
    simp [sequencesOf, SignalBusStore.committedReceipt, named]
  constructor
  case sequences =>
    have length : commit.sourceSequence + 1 - source.firstSequence =
        (source.lastSequence + 1 - source.firstSequence) + 1 := by
      omega
    have last : source.firstSequence + (source.lastSequence + 1 - source.firstSequence) =
        commit.sourceSequence := by
      omega
    calc
      sequencesOf (bus.receipts ++ [store.committedReceipt commit signal]) source.sourceId
        = sequencesOf bus.receipts source.sourceId ++
            [commit.sourceSequence] := by rw [sequencesOf_append, one]
      _ = range' source.firstSequence (source.lastSequence + 1 - source.firstSequence) ++
            [commit.sourceSequence] := by rw [law.sequences]
      _ = range' source.firstSequence (commit.sourceSequence + 1 - source.firstSequence) := by
          rw [length, range'_1_concat, last]
  case first_pos => exact law.first_pos
  case first_le | last_le =>
    simp only [SourceRouteCommit.advance]
    omega

namespace SourceLedger

variable {bus : SignalBus}

theorem initial : SourceLedger .initial :=
  ⟨nodup_nil, by simp [SignalBus.initial], by simp [SignalBus.initial]⟩

theorem of_sameLedger (ledger : SourceLedger before) (same : SameLedger before after) :
    SourceLedger after := by
  have sameSources := same.sources
  have sameReceipts := same.receipts
  refine ⟨?_, ?_, ?_⟩
  · rw [sameSources]
    exact ledger.uniqueSources
  · rw [sameSources, sameReceipts]
    exact ledger.owned
  · rw [sameSources, sameReceipts]
    exact ledger.law

theorem unused_of_missing (ledger : SourceLedger bus)
    (missing : findKey RouteSourceRow.sourceId sourceId bus.sources = none) :
    ∀ receipt ∈ bus.receipts, receipt.sourceId ≠ sourceId := by
  intro receipt mem same
  exact findKey_eq_none.mp missing (same ▸ ledger.owned receipt mem)

variable {request : RouteSourceBindingRequest} {row : RouteSourceRow}

section

variable (ledger : SourceLedger bus)

include ledger

theorem registered
    (missing : findKey RouteSourceRow.sourceId request.descriptor.sourceId bus.sources = none) :
    SourceLedger { bus with sources := bus.sources ++ [request.freshSource] } := by
  refine ⟨nodup_concat ledger.uniqueSources (findKey_eq_none.mp missing), ?_, ?_⟩
  · intro receipt mem
    rw [map_append]
    exact mem_append_left _ (ledger.owned receipt mem)
  · intro source mem
    rcases mem_concat.mp mem with known | rfl
    · exact ledger.law source known
    · exact SourceLaw.of_freshSource (sequencesOf_eq_nil (ledger.unused_of_missing missing))

section

variable (found : findKey RouteSourceRow.sourceId request.descriptor.sourceId bus.sources =
  some row)

include found

theorem advanced (unchanged : request.Matches row) : SourceLedger
    { bus with
      sources := updateKey RouteSourceRow.sourceId
        request.descriptor.sourceId request.observe bus.sources } := by
  have known := mem_of_findKey found
  have sameIds : (updateKey RouteSourceRow.sourceId request.descriptor.sourceId
      request.observe bus.sources).map RouteSourceRow.sourceId =
        bus.sources.map RouteSourceRow.sourceId :=
    map_updateKey fun _ _ _ => rfl
  refine ⟨sameIds ▸ ledger.uniqueSources, ?_, ?_⟩
  · intro receipt mem
    exact sameIds ▸ ledger.owned receipt mem
  · refine forall_mem_updateKey ledger.law fun old mem named => ?_
    obtain rfl : old = row :=
      eq_of_key_eq ledger.uniqueSources mem known.1 (named.trans known.2.symm)
    exact (ledger.law old mem).congr rfl rfl unchanged.cursor rfl

/-- A rotation archives the row with its receipts and starts a fresh one. -/
theorem rotated
    (noArchive : findKey RouteSourceRow.sourceId
      (archivedSourceId request.descriptor.sourceId row.generationId)
      bus.sources = none) :
    SourceLedger (request.rotatedBus previousGenerationId row bus) := by
  set sourceId := request.descriptor.sourceId with sourceIdDef
  set archivedId := archivedSourceId sourceId row.generationId with archivedIdDef
  have known := mem_of_findKey found
  have different : archivedId ≠ sourceId := archivedSourceId_ne _ _
  have unused := ledger.unused_of_missing noArchive
  set archived := row.archive archivedId request.observedAt with archivedDef
  set kept := (bus.sources ++ [archived]).filter
    (fun source => source.sourceId ≠ sourceId) with keptDef
  have sources : (request.rotatedBus previousGenerationId row bus).sources =
      kept ++ [request.freshSource] := rfl
  have receipts : (request.rotatedBus previousGenerationId row bus).receipts =
      bus.receipts.map (RouteReceiptRow.rename sourceId archivedId) := rfl
  have archivedKept : archived ∈ kept := by
    rw [keptDef, mem_filter]
    exact ⟨by simp, by simpa [archivedDef, RouteSourceRow.archive] using different⟩
  have withArchive : ((bus.sources ++ [archived]).map RouteSourceRow.sourceId).Nodup :=
    nodup_concat ledger.uniqueSources (findKey_eq_none.mp noArchive)
  have keptUnique : (kept.map RouteSourceRow.sourceId).Nodup :=
    withArchive.sublist (filter_sublist.map _)
  have keptOther : sourceId ∉ kept.map RouteSourceRow.sourceId := by
    intro listed
    obtain ⟨source, mem, same⟩ := mem_map.mp listed
    rw [keptDef, mem_filter] at mem
    exact (of_decide_eq_true mem.2) same
  constructor
  case uniqueSources =>
    rw [sources]
    exact nodup_concat keptUnique keptOther
  case owned =>
    intro _ mem
    rw [receipts] at mem
    obtain ⟨old, oldMem, rfl⟩ := mem_map.mp mem
    rw [sources, map_append]
    refine mem_append_left _ ?_
    unfold RouteReceiptRow.rename
    by_cases same : old.sourceId = sourceId
    · rw [if_pos same]
      exact mem_map.mpr ⟨archived, archivedKept, rfl⟩
    · rw [if_neg same]
      obtain ⟨source, sourceMem, sourceSame⟩ := mem_map.mp (ledger.owned old oldMem)
      refine mem_map.mpr ⟨source, ?_, sourceSame⟩
      rw [keptDef, mem_filter]
      exact ⟨mem_append_left _ sourceMem, decide_eq_true (sourceSame ▸ same)⟩
  case law =>
    intro source mem
    rw [sources] at mem
    rw [receipts]
    rcases mem_concat.mp mem with keptMem | rfl
    · rw [keptDef, mem_filter] at keptMem
      have notSource : source.sourceId ≠ sourceId := of_decide_eq_true keptMem.2
      rcases mem_append.mp keptMem.1 with old | inserted
      · have notArchive : source.sourceId ≠ archivedId := by
          intro same
          exact findKey_eq_none.mp noArchive (same ▸ mem_map_of_mem old)
        have law := ledger.law source old
        exact law.congr rfl rfl law.last_le (sequencesOf_rename_other notSource notArchive)
      · rw [mem_singleton] at inserted
        subst inserted
        have law := ledger.law row known.1
        refine law.congr rfl rfl law.last_le ?_
        rw [known.2]
        exact sequencesOf_rename_archive unused
    · exact SourceLaw.of_freshSource (sequencesOf_rename_source different)

end

theorem pruneArchive (rotation : RotationRow) : SourceLedger (bus.pruneArchive rotation) := by
  constructor
  case uniqueSources => exact ledger.uniqueSources.sublist (filter_sublist.map _)
  case owned =>
    intro receipt mem
    obtain ⟨receiptMem, other⟩ := mem_filter.mp mem
    obtain ⟨source, sourceMem, same⟩ := mem_map.mp (ledger.owned receipt receiptMem)
    refine mem_map.mpr ⟨source, mem_filter.mpr ⟨sourceMem, ?_⟩, same⟩
    rw [same]
    exact other
  case law =>
    intro source mem
    obtain ⟨sourceMem, other⟩ := mem_filter.mp mem
    have law := ledger.law source sourceMem
    exact law.congr rfl rfl law.last_le (sequencesOf_filter_ne (of_decide_eq_true other))

end

end SourceLedger

namespace BoundSource

section

variable (bound : BoundSource previous request before source after) (ledger : SourceLedger before)

include bound ledger

theorem sourceLedger : SourceLedger after := by
  cases bound with
  | registered missing => exact ledger.registered missing
  | rotated found _ noArchive =>
    apply SignalBus.pruneRotatedSources_induction
    · exact ledger.rotated found noArchive
    · exact fun rotation current _ => current.pruneArchive rotation
  | unchanged => exact ledger
  | advanced found _ unchanged => exact ledger.advanced found unchanged

/-- A bound source stands in the table, at the watermark of the request. -/
theorem current : source ∈ after.sources ∧ source.sourceId = request.descriptor.sourceId ∧
    source.observedHighWatermark = request.descriptor.highWatermark := by
  cases bound with
  | registered => exact ⟨by simp, rfl, rfl⟩
  | @rotated row _ previousGenerationId found _ noArchive _ reread =>
    have known := mem_of_findKey reread
    have rotated : SourceLedger (request.rotatedBus previousGenerationId row before) :=
      ledger.rotated found noArchive
    have standing : source ∈ (request.rotatedBus previousGenerationId row before).sources := by
      have subset : ((request.rotatedBus previousGenerationId row before).pruneRotatedSources
            request.descriptor.sourceId).sources ⊆
          (request.rotatedBus previousGenerationId row before).sources := by
        apply SignalBus.pruneRotatedSources_induction
          (motive := fun current => current.sources ⊆
            (request.rotatedBus previousGenerationId row before).sources)
        · exact List.Subset.refl _
        · exact fun rotation smaller _ => List.Subset.trans (filter_subset_self _) smaller
      exact subset known.1
    have fresh : source = request.freshSource :=
      eq_of_key_eq rotated.uniqueSources standing (by
        simp [RouteSourceBindingRequest.rotatedBus]) known.2
    exact ⟨known.1, known.2, by rw [fresh]; rfl⟩
  | unchanged found _ _ level =>
    have known := mem_of_findKey found
    exact ⟨known.1, known.2, level.symm⟩
  | @advanced row found =>
    have known := mem_of_findKey found
    exact ⟨mem_updateKey.mpr ⟨row, known.1, Or.inl ⟨known.2, rfl⟩⟩, known.2, rfl⟩

end

end BoundSource

/-! ## Committing -/

theorem SignalBusStore.frame_of_routeInTransaction
    (routed : store.routeInTransaction signalId targets routedAt bus = .ok (rows, after)) :
    after = { bus with outbox := after.outbox } := by
  simp only [run_eq_ok, routeInTransaction, Prod.mk.injEq] at routed
  obtain ⟨_, _, _, _, _, _, _, _, _, rfl⟩ := routed
  rfl

namespace CommittedRoute

variable {store : SignalBusStore} {commit : SourceRouteCommit}
  {signal : SignalEnvelope} {source : RouteSourceRow} {bound after : SignalBus}

/-- The tables of the ledger after a commit: the ones before it, or one more
receipt under the next sequence of its source. -/
theorem ledger_cases (committed : CommittedRoute store commit signal source bound after) :
    SameLedger bound after ∨
      (commit.Committable signal source bound ∧
        after.receipts = bound.receipts ++ [store.committedReceipt commit signal] ∧
        after.sources =
          updateKey RouteSourceRow.sourceId commit.descriptor.sourceId
            (commit.advance signal) bound.sources ∧
        after.rotations = bound.rotations) := by
  cases committed with
  | confirmed _ _ ingest => exact .inl ingest.sameLedger
  | recorded _ committable ingest _ untargeted targeted =>
    have ingestedSame := ingest.sameLedger
    refine .inr ⟨committable, ?_⟩
    cases kind : commit.decisionKind with
    | noTarget =>
      rw [untargeted kind, ingestedSame.receipts, ingestedSame.sources, ingestedSame.rotations]
      exact ⟨rfl, rfl, rfl⟩
    | route =>
      obtain ⟨_, routing⟩ := targeted kind
      rw [SignalBusStore.frame_of_routeInTransaction routing,
        ingestedSame.receipts, ingestedSame.sources, ingestedSame.rotations]
      exact ⟨rfl, rfl, rfl⟩

theorem sourceLedger (committed : CommittedRoute store commit signal source bound after)
    (ledger : SourceLedger bound) (standing : source ∈ bound.sources)
    (named : source.sourceId = commit.descriptor.sourceId)
    (level : source.observedHighWatermark = commit.descriptor.highWatermark) :
    SourceLedger after := by
  rcases committed.ledger_cases with
    same | ⟨committable, receipts, sources, _⟩
  · exact ledger.of_sameLedger same
  have sameIds :
      after.sources.map RouteSourceRow.sourceId = bound.sources.map RouteSourceRow.sourceId := by
    rw [sources]
    exact map_updateKey fun _ _ _ => rfl
  constructor
  case uniqueSources =>
    rw [sameIds]
    exact ledger.uniqueSources
  case owned =>
    intro receipt mem
    rw [sameIds]
    rw [receipts] at mem
    rcases mem_concat.mp mem with known | rfl
    · exact ledger.owned receipt known
    · exact mem_map.mpr ⟨source, standing, named⟩
  case law =>
    intro changed mem
    rw [sources] at mem
    rw [receipts]
    obtain ⟨old, oldMem, ⟨matched, rfl⟩ | ⟨other, rfl⟩⟩ := mem_updateKey.mp mem
    · obtain rfl : old = source :=
        eq_of_key_eq ledger.uniqueSources oldMem standing (matched.trans named.symm)
      exact (ledger.law old oldMem).advance committable named level
    · have law := ledger.law changed oldMem
      refine law.congr rfl rfl law.last_le ?_
      have none : sequencesOf [store.committedReceipt commit signal] changed.sourceId = [] := by
        apply sequencesOf_eq_nil
        intro receipt receiptMem same
        rw [mem_singleton] at receiptMem
        subst receiptMem
        exact other same.symm
      rw [sequencesOf_append, none, append_nil]

end CommittedRoute

end RQuant.Signal
