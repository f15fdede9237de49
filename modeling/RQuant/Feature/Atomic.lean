import RQuant.Feature.Spool
import RQuant.Foundation.Runs

/-!
# Atomic feature publication

A crash between the first and the last write of a new batch leaves files that
no later call completes, a batch that does not continue the segment of its
session is rejected after two writes, and a text beyond the budget of its reader
is written and never read again.  Without these a publication happens completely
or not at all.
-/

namespace RQuant.Feature.FeatureBatchSpool

open Foundation

variable (spool : FeatureBatchSpool)

/-- A batch with the next sequence continues the segment of its session. -/
def Continues (files : Files) (envelope : FeatureBatchEnvelope) : Prop :=
  envelope.sequence = expected files →
    ∀ state ∈ findKey (·.tradeDate) (spool.sessionTradeDate envelope) files.segments,
      envelope.sequence = state.finalSequence + 1 ∧ state.finalEventTime ≤ envelope.eventTime
deriving Decidable

/-- The texts that a batch with the next sequence leaves can be read again. -/
def Fits (files : Files) (envelope : FeatureBatchEnvelope) : Prop :=
  envelope.sequence = expected files →
    spool.Legible (.manifest envelope) ∧ spool.Legible (.current (spool.pointer envelope)) ∧
      ∀ state ∈ (spool.appendSessionSegment files envelope).toOption, spool.Legible (.segment state)
deriving Decidable

/-- No crash falls between the first and the last of four writes. -/
def Attempt.Whole (attempt : Attempt) : Prop :=
  ∀ count ∈ attempt.crashAfter, count = 0 ∨ 4 ≤ count
deriving Decidable

/-- The files after some calls that each continue their segment with texts that
fit and crash, if they do, before the first or after the last write. -/
def Reachable : Files → Prop :=
  Reaches (fun files attempt next => spool.after files attempt = next)
    (fun files attempt => spool.Continues files attempt.envelope ∧
      spool.Fits files attempt.envelope ∧ attempt.Whole) {}

/-- Every stored batch is at most the current one. -/
structure Intact (files : Files) : Prop where
  unclosed : files.markers = []
  pointer : ∀ pointer ∈ files.current,
    spool.Legible (.current pointer) ∧ pointer.sourceGenerationId = spool.generationId
  segments : ∀ state ∈ files.segments,
    spool.Legible (.segment state) ∧ state.sourceGenerationId = spool.generationId
  manifests : ∀ envelope ∈ files.manifests, envelope.sequence < expected files
  payloads : ∀ payload ∈ files.payloads, payload.1 < expected files

variable {spool} {files : Files} {envelope : FeatureBatchEnvelope} {payload : List UInt8}

def newWrites (spool : FeatureBatchSpool) (envelope : FeatureBatchEnvelope) (payload : List UInt8)
    (state : SessionSegmentState) : List Write :=
  [.payload envelope.sequence payload, .manifest envelope, .segment state,
    .current (spool.pointer envelope)]

variable {state : SessionSegmentState} {crashAfter : Option ℕ}

namespace Intact

variable (intact : spool.Intact files)
include intact

theorem current_eq : spool.current files = .ok files.current := by
  rw [current, require_of fun pointer stored => (intact.pointer pointer stored).1,
    require_of fun pointer stored => (intact.pointer pointer stored).2]
  rfl

theorem readSessionMarker_eq (tradeDate : Date) :
    spool.readSessionMarker files tradeDate = .ok none := by
  rw [readSessionMarker, intact.unclosed]
  rfl

theorem readSessionState_eq (tradeDate : Date) : spool.readSessionState files tradeDate =
    .ok (findKey (·.tradeDate) tradeDate files.segments) := by
  have stored : ∀ found ∈ findKey (·.tradeDate) tradeDate files.segments,
      spool.Legible (.segment found) ∧ found.sourceGenerationId = spool.generationId :=
    fun found read => intact.segments found (mem_of_findKey read).1
  rw [readSessionState, require_of fun found read => (stored found read).1,
    require_of fun found read => (stored found read).2]
  rfl

section

variable (next : envelope.sequence = expected files)
  (dated : envelope.eventTime ≤ lastShanghaiTime)

include next

theorem appendSessionSegment_eq (continues : spool.Continues files envelope)
    (fits : spool.Fits files envelope) :
    ∃ state, spool.appendSessionSegment files envelope = .ok state ∧
      spool.Legible (.segment state) ∧ state.sourceGenerationId = spool.generationId := by
  have started : ∃ start, spool.segmentStart envelope
      (findKey (·.tradeDate) (spool.sessionTradeDate envelope) files.segments) = .ok start := by
    cases read : findKey (·.tradeDate) (spool.sessionTradeDate envelope) files.segments with
    | none => exact ⟨_, rfl⟩
    | some state =>
      obtain ⟨contiguous, ordered⟩ := continues next state read
      rw [segmentStart, require_of contiguous, require_of ordered]
      exact ⟨_, rfl⟩
  obtain ⟨start, started⟩ := started
  obtain ⟨state, appended, generation⟩ : ∃ state,
      spool.appendSessionSegment files envelope = .ok state ∧
        state.sourceGenerationId = spool.generationId := by
    rw [appendSessionSegment, intact.readSessionState_eq, ok_bind, started]
    exact ⟨_, rfl, rfl⟩
  exact ⟨state, appended, (fits next).2.2 state (by rw [appended]; rfl), generation⟩

include dated in
theorem checkNew_eq : spool.checkNew files envelope = .ok () := by
  rw [checkNew, checkEventTime, require_of dated, ok_bind, intact.readSessionMarker_eq, ok_bind,
    require_of rfl, ok_bind, intact.current_eq, ok_bind, require_of next]

theorem unstored : findKey (·.sequence) envelope.sequence files.manifests = none ∧
    findKey Prod.fst envelope.sequence files.payloads = none := by
  rw [findKey_eq_none, findKey_eq_none, List.mem_map, List.mem_map]
  constructor
  · rintro ⟨stored, mem, same⟩
    exact (intact.manifests stored mem).ne (same.trans next)
  · rintro ⟨stored, mem, same⟩
    exact (intact.payloads stored mem).ne (same.trans next)

end

theorem publish_new (valid : spool.validatePayload envelope payload = .ok ())
    (next : envelope.sequence = expected files)
    (dated : envelope.eventTime ≤ lastShanghaiTime) (continues : spool.Continues files envelope)
    (fits : spool.Fits files envelope) :
    ∃ state, (spool.Legible (.segment state) ∧ state.sourceGenerationId = spool.generationId) ∧
      spool.publish files envelope payload =
        (spool.newWrites envelope payload state, .ok (spool.pointer envelope)) := by
  obtain ⟨state, appended, generation⟩ := intact.appendSessionSegment_eq next continues fits
  obtain ⟨noManifest, noPayload⟩ := intact.unstored next
  refine ⟨state, generation, ?_⟩
  simp only [publish, valid, noManifest, noPayload, intact.checkNew_eq next dated, appended]
  rfl

/-- A call that does not publish a new batch writes nothing. -/
theorem publish_cases (envelope : FeatureBatchEnvelope) (payload : List UInt8) :
    (spool.publish files envelope payload).1 = [] ∨
      spool.validatePayload envelope payload = .ok () ∧ envelope.sequence = expected files ∧
        envelope.eventTime ≤ lastShanghaiTime := by
  unfold publish
  split
  case h_1 => exact .inl rfl
  case h_2 valid =>
    split
    case h_1 =>
      split
      · exact .inl rfl
      · rename_i checked
        simp only [checkNew, checkEventTime, run_eq_ok] at checked
        obtain ⟨dated, _, -, -, _, -, next⟩ := checked
        exact .inr ⟨valid, next, dated⟩
    case h_2 existing stored found _ =>
      split
      · exact .inl rfl
      · rename_i writes replayed
        -- a stored batch has a current pointer, so there is nothing to repair
        have below := intact.manifests existing (mem_of_findKey found).1
        obtain ⟨pointer, isCurrent⟩ : ∃ pointer, files.current = some pointer := by
          cases isCurrent : files.current with
          | none => simp [expected, isCurrent] at below
          | some pointer => exact ⟨pointer, rfl⟩
        simp only [replay, intact.readSessionMarker_eq, intact.current_eq, isCurrent, run_eq_ok,
          ok_bind] at replayed
        exact .inl replayed.2.2.2.symm
    case h_3 => exact .inl rfl

theorem written (next : envelope.sequence = expected files) (fits : spool.Fits files envelope)
    (sound : spool.Legible (.segment state) ∧ state.sourceGenerationId = spool.generationId) :
    spool.Intact ((spool.newWrites envelope payload state).foldl Files.write files) := by
  refine ⟨intact.unclosed, ?_, ?_, ?_, ?_⟩
  · rintro _ ⟨⟩
    exact ⟨(fits next).2.1, rfl⟩
  · intro other mem
    rcases mem_of_mem_upsertKey mem with rfl | old
    · exact sound
    · exact intact.segments other old
  · intro other mem
    rcases mem_of_mem_upsertKey mem with rfl | old
    · exact Nat.lt_succ_self _
    · exact (next ▸ intact.manifests other old).trans (Nat.lt_succ_self _)
  · intro other mem
    rcases mem_of_mem_upsertKey mem with rfl | old
    · exact Nat.lt_succ_self _
    · exact (next ▸ intact.payloads other old).trans (Nat.lt_succ_self _)

theorem publish_again (valid : spool.validatePayload envelope payload = .ok ())
    (next : envelope.sequence = expected files)
    (dated : envelope.eventTime ≤ lastShanghaiTime) (fits : spool.Fits files envelope)
    (sound : spool.Legible (.segment state) ∧ state.sourceGenerationId = spool.generationId) :
    spool.publish ((spool.newWrites envelope payload state).foldl Files.write files)
      envelope payload = ([], .ok (spool.pointer envelope)) := by
  have after : spool.Intact ((spool.newWrites envelope payload state).foldl Files.write files) :=
    intact.written next fits sound
  have manifest : findKey (·.sequence) envelope.sequence
      ((spool.newWrites envelope payload state).foldl Files.write files).manifests =
        some envelope := by
    change findKey _ _ (upsertKey _ envelope files.manifests) = _
    rw [findKey_upsertKey, if_pos rfl]
  have stored : findKey Prod.fst envelope.sequence
      ((spool.newWrites envelope payload state).foldl Files.write files).payloads =
        some (envelope.sequence, payload) := by
    change findKey _ _ (upsertKey _ (envelope.sequence, payload) files.payloads) = _
    rw [findKey_upsertKey, if_pos rfl]
  have replayed :
      spool.replay ((spool.newWrites envelope payload state).foldl Files.write files) envelope
        envelope payload payload = .ok [] := by
    rw [replay, require_of (fits next).1, ok_bind, require_of ⟨rfl, rfl⟩, ok_bind,
      checkEventTime, require_of dated, ok_bind, after.readSessionMarker_eq, ok_bind,
      after.current_eq]
    rfl
  simp only [publish, valid, manifest, stored, replayed]

end Intact

/-- What a call leaves that crashes before its first or after its last write. -/
theorem after_whole (whole : Attempt.Whole ⟨envelope, payload, crashAfter⟩)
    (wrote : (spool.publish files envelope payload).1 = spool.newWrites envelope payload state) :
    spool.after files ⟨envelope, payload, crashAfter⟩ = files ∨
      spool.after files ⟨envelope, payload, crashAfter⟩ =
        (spool.newWrites envelope payload state).foldl Files.write files := by
  unfold after
  rw [wrote]
  cases crashAfter with
  | none => exact .inr rfl
  | some count =>
    rcases whole count rfl with rfl | late
    · exact .inl rfl
    · right
      dsimp only [Option.elim_some]
      rw [List.take_of_length_le late]

theorem after_nothing (nothing : (spool.publish files envelope payload).1 = []) :
    spool.after files ⟨envelope, payload, crashAfter⟩ = files := by
  unfold after
  rw [nothing]
  cases crashAfter with
  | none => rfl
  | some count =>
    dsimp only [Option.elim_some]
    rw [List.take_nil, List.foldl_nil]

theorem Reachable.intact (reachable : spool.Reachable files) : spool.Intact files := by
  refine Reaches.invariant reachable ⟨rfl, by simp, by simp, by simp, by simp⟩ ?_
  rintro files ⟨envelope, payload, crashAfter⟩ _ intact ⟨continues, fits, whole⟩ rfl
  rcases intact.publish_cases envelope payload with nothing | ⟨valid, next, dated⟩
  · rw [after_nothing nothing]
    exact intact
  · obtain ⟨state, sound, wrote⟩ := intact.publish_new valid next dated continues fits
    rcases after_whole whole (congrArg Prod.fst wrote) with same | done
    · rw [same]
      exact intact
    · rw [done]
      exact intact.written next fits sound

/-- After calls that continue their segment with texts that fit and crash outside
their writes, a rejected call changes nothing, an interrupted call can be repeated with the
result of an uninterrupted one, and the next sequence can be published. -/
theorem feature_publication_atomic (reachable : spool.Reachable files)
    (continues : spool.Continues files envelope) (fits : spool.Fits files envelope)
    (payload : List UInt8) :
    (∀ message, (spool.publish files envelope payload).2 = .error message →
      ∀ crashAfter, spool.after files { envelope, payload, crashAfter } = files) ∧
    (∀ pointer crashAfter, (spool.publish files envelope payload).2 = .ok pointer →
      Attempt.Whole { envelope, payload, crashAfter } →
      let crashed := spool.after files { envelope, payload, crashAfter }
      (spool.publish crashed envelope payload).2 = .ok pointer ∧
        spool.after crashed { envelope, payload } = spool.after files { envelope, payload }) ∧
    (spool.validatePayload envelope payload = .ok () → envelope.sequence = expected files →
      envelope.eventTime ≤ lastShanghaiTime →
      (spool.publish files envelope payload).2 = .ok (spool.pointer envelope) ∧
        expected (spool.after files { envelope, payload }) = envelope.sequence + 1) := by
  have intact := reachable.intact
  refine ⟨?_, ?_, ?_⟩
  · intro message rejected crashAfter
    rcases intact.publish_cases envelope payload with nothing | ⟨valid, next, dated⟩
    · exact after_nothing nothing
    · obtain ⟨state, -, wrote⟩ := intact.publish_new valid next dated continues fits
      rw [wrote] at rejected
      cases rejected
  · intro pointer crashAfter published whole
    dsimp only
    rcases intact.publish_cases envelope payload with nothing | ⟨valid, next, dated⟩
    · rw [after_nothing nothing]
      exact ⟨published, rfl⟩
    · obtain ⟨state, sound, wrote⟩ := intact.publish_new valid next dated continues fits
      have again := intact.publish_again valid next dated fits sound
      rcases after_whole whole (congrArg Prod.fst wrote) with same | done
      · rw [same]
        exact ⟨published, rfl⟩
      · rw [wrote] at published
        rw [done, again, after_nothing (congrArg Prod.fst again), after, wrote]
        exact ⟨published, rfl⟩
  · intro valid next dated
    obtain ⟨state, -, wrote⟩ := intact.publish_new valid next dated continues fits
    rw [after, wrote]
    exact ⟨rfl, rfl⟩

def plainSpool : FeatureBatchSpool where
  generationId := 0
  calendar := .standard
  isoformat := toString
  validatePayload _ _ := .ok ()
  segmentSeed _ _ := 0
  advanceChain _ _ := 0
  textBytes
    | .payload .. => 0
    | .manifest envelope => 1000 + envelope.batchId.length
    | .segment state => 1000 + state.finalBatchId.length
    | .current pointer => 1000 + pointer.batchId.length
  markerBytes _ := 1000

def batch (sequence : ℕ) (time : Time) : FeatureBatchEnvelope :=
  { sequence, batchId := "batch", contentHash := 0, eventTime := time, availableAt := time,
    contract := "" }

def firstFiles : Files := plainSpool.after {} { envelope := batch 0 10, payload := [] }

/-- The second batch is written completely and its answer is lost. -/
theorem feature_publication_atomic_second :
    let crashed := plainSpool.after firstFiles ⟨batch 1 20, [], some 4⟩
    (plainSpool.publish crashed (batch 1 20) []).2 = .ok (plainSpool.pointer (batch 1 20)) ∧
      plainSpool.after crashed { envelope := batch 1 20, payload := [] } =
        plainSpool.after firstFiles { envelope := batch 1 20, payload := [] } := by
  have reachable : plainSpool.Reachable firstFiles :=
    .single ⟨{ envelope := batch 0 10, payload := [] }, by decide, rfl⟩
  exact (feature_publication_atomic reachable (by decide) (by decide) []).2.1 _ (some 4) rfl
    (by decide)

/-- A spool whose texts are all beyond the budget. -/
def wideSpool : FeatureBatchSpool := { plainSpool with textBytes := fun _ => 2 ^ 20 + 1 }

/-- A crash after the first write makes the batch unpublishable, a batch that is
refused for its event time stays behind, and a text beyond the budget ends the
publication. -/
theorem feature_publication_torn :
    (plainSpool.publish {} (batch 0 10) []).2 = .ok (plainSpool.pointer (batch 0 10)) ∧
      (plainSpool.publish (plainSpool.after {} ⟨batch 0 10, [], some 1⟩) (batch 0 10) []).2 =
        .error "immutable batch is only partially present" ∧
      (plainSpool.publish firstFiles (batch 1 5) []).2 =
        .error "feature session event time cannot regress" ∧
      plainSpool.after firstFiles { envelope := batch 1 5, payload := [] } ≠ firstFiles ∧
      (wideSpool.publish (wideSpool.after {} { envelope := batch 0 10, payload := [] })
        (batch 1 20) []).2 = .error "feature current pointer exceeds the byte budget" := by
  decide +kernel

end RQuant.Feature.FeatureBatchSpool
