import RQuant.Foundation.Table
import RQuant.Runtime

/-!
# Feature spool

`FeatureBatchSpool.publish` writes four files: the payload, the manifest, the
segment of the session and the current pointer.  Each write is atomic, all four
together are not, and a crash may leave any prefix of them.  The texts are
written whatever their length, and read within a budget.
-/

namespace RQuant.Feature

open Foundation

structure FeatureBatchEnvelope where
  sequence : ℕ
  batchId : String
  contentHash : Digest
  (eventTime availableAt : Time)
  /-- The canonical text of the fields that are only compared and hashed. -/
  contract : String
deriving DecidableEq

structure FeatureCurrentPointer where
  sourceGenerationId : Digest
  batchId : String
  sequence : ℕ
  contentHash : Digest
  availableAt : Time
deriving DecidableEq

/-- What a segment and the marker that closes it have in common. -/
structure Segment where
  tradeDate : Date
  sourceGenerationId : Digest
  (firstSequence finalSequence batchCount : ℕ)
  segmentChainHash : Digest
  finalBatchId : String
  finalContentHash : Digest
deriving DecidableEq

structure SessionSegmentState extends Segment where
  finalEventTime : Time
deriving DecidableEq

structure Files where
  payloads : List (ℕ × List UInt8) := []
  manifests : List FeatureBatchEnvelope := []
  segments : List SessionSegmentState := []
  /-- The close markers, as far as `publish` reads them. -/
  markers : List Segment := []
  current : Option FeatureCurrentPointer := none
deriving DecidableEq

inductive Write
  | payload (sequence : ℕ) (bytes : List UInt8)
  | manifest (envelope : FeatureBatchEnvelope)
  | segment (state : SessionSegmentState)
  | current (pointer : FeatureCurrentPointer)

def Files.write (files : Files) : Write → Files
  | .payload sequence bytes =>
    { files with payloads := upsertKey Prod.fst (sequence, bytes) files.payloads }
  | .manifest envelope =>
    { files with manifests := upsertKey (·.sequence) envelope files.manifests }
  | .segment state => { files with segments := upsertKey (·.tradeDate) state files.segments }
  | .current pointer => { files with current := pointer }

/-- A spool: its identity and what it takes from SHA-256, the JSON reader and
writer and the calendar. -/
structure FeatureBatchSpool where
  generationId : Digest
  calendar : Calendar
  isoformat : Date → String
  validatePayload : FeatureBatchEnvelope → List UInt8 → Except String Unit
  segmentSeed : Date → Digest → Digest
  advanceChain : Digest → FeatureBatchEnvelope → Digest
  /-- The length of the text that is written. -/
  textBytes : Write → ℕ
  markerBytes : Segment → ℕ

/-- `_MAX_CONTROL_JSON_BYTES` -/
def maxControlJsonBytes : ℕ := 1024 * 1024

namespace FeatureBatchSpool

variable (spool : FeatureBatchSpool) (files : Files) (envelope : FeatureBatchEnvelope)

/-- `_read_control_model` accepts the text. -/
def Legible (stored : Write) : Prop := spool.textBytes stored ≤ maxControlJsonBytes
deriving Decidable

def sessionTradeDate : Date := spool.calendar.shanghaiDate envelope.eventTime

/-- `astimezone` of `_session_trade_date`, which has no date to give for the last hours of
`datetime`. -/
def checkEventTime : Except String Unit :=
  require (envelope.eventTime ≤ lastShanghaiTime) "date value out of range"

def readSessionState (tradeDate : Date) : Except String (Option SessionSegmentState) := do
  let state := findKey (·.tradeDate) tradeDate files.segments
  require (∀ found ∈ state, spool.Legible (.segment found))
    "feature session segment state exceeds the byte budget"
  require (∀ found ∈ state, found.sourceGenerationId = spool.generationId)
    "feature session segment generation changed"
  pure state

def readSessionMarker (tradeDate : Date) : Except String (Option Segment) :=
  match findKey (·.tradeDate) tradeDate files.markers with
  | none => pure none
  | some marker => do
    require (spool.markerBytes marker ≤ maxControlJsonBytes)
      "feature session close marker exceeds the byte budget"
    require (marker.sourceGenerationId = spool.generationId)
      "feature session close marker generation changed"
    let state ← spool.readSessionState files tradeDate
    require (state.map (·.toSegment) = some marker)
      "feature session close marker does not match its frozen segment"
    pure marker

def current : Except String (Option FeatureCurrentPointer) := do
  require (∀ pointer ∈ files.current, spool.Legible (.current pointer))
    "feature current pointer exceeds the byte budget"
  require (∀ pointer ∈ files.current, pointer.sourceGenerationId = spool.generationId)
    "feature current pointer generation changed"
  pure files.current

def pointer : FeatureCurrentPointer where
  sourceGenerationId := spool.generationId
  batchId := envelope.batchId
  sequence := envelope.sequence
  contentHash := envelope.contentHash
  availableAt := envelope.availableAt

/-- The first sequence, the number of batches and the previous hash of a
segment that is started or continued. -/
def segmentStart : Option SessionSegmentState → Except String (ℕ × ℕ × Digest)
  | none =>
    pure (envelope.sequence, 1,
      spool.segmentSeed (spool.sessionTradeDate envelope) spool.generationId)
  | some state => do
    require (envelope.sequence = state.finalSequence + 1)
      "feature session sequence must advance contiguously"
    require (state.finalEventTime ≤ envelope.eventTime) "feature session event time cannot regress"
    pure (state.firstSequence, state.batchCount + 1, state.segmentChainHash)

/-- The state that `_append_session_segment` writes. -/
def appendSessionSegment : Except String SessionSegmentState := do
  let tradeDate := spool.sessionTradeDate envelope
  let (firstSequence, batchCount, previous) ←
    spool.segmentStart envelope (← spool.readSessionState files tradeDate)
  pure
    { tradeDate, sourceGenerationId := spool.generationId, firstSequence,
      finalSequence := envelope.sequence, batchCount,
      segmentChainHash := spool.advanceChain previous envelope, finalBatchId := envelope.batchId,
      finalContentHash := envelope.contentHash, finalEventTime := envelope.eventTime }

/-- The sequence the next new batch must have. -/
def expected (files : Files) : ℕ := files.current.elim 0 (·.sequence + 1)

/-- The checks before the first write of a new batch. -/
def checkNew : Except String Unit := do
  checkEventTime envelope
  let marker ← spool.readSessionMarker files (spool.sessionTradeDate envelope)
  require (marker = none)
    ("feature session " ++ spool.isoformat (spool.sessionTradeDate envelope) ++
      " is already closed")
  let _ ← spool.current files
  require (envelope.sequence = expected files)
    ("next sequence must be " ++ toString (expected files) ++ ", got " ++
      toString envelope.sequence)

/-- The replay of a stored batch, with the writes it makes. -/
def replay (existing : FeatureBatchEnvelope) (stored payload : List UInt8) :
    Except String (List Write) := do
  require (spool.Legible (.manifest existing)) "existing feature manifest exceeds the byte budget"
  require (existing = envelope ∧ stored = payload)
    "immutable feature sequence already contains different content"
  checkEventTime existing
  let _ ← spool.readSessionMarker files (spool.sessionTradeDate existing)
  match ← spool.current files with
  | some _ => pure []
  | none =>
    require (∀ manifest ∈ files.manifests, spool.Legible (.manifest manifest))
      "feature manifest exceeds the byte budget"
    require (sortOn id (files.manifests.map (·.sequence)) = List.range (envelope.sequence + 1))
      "cannot recover current from a non-contiguous latest batch"
    pure [.current (spool.pointer existing)]

/-- The writes of a publication in their order, and its answer. -/
def publish (payload : List UInt8) : List Write × Except String FeatureCurrentPointer :=
  match spool.validatePayload envelope payload with
  | .error message => ([], .error message)
  | .ok () =>
    match findKey (·.sequence) envelope.sequence files.manifests,
      findKey Prod.fst envelope.sequence files.payloads with
    | none, none =>
      match spool.checkNew files envelope with
      | .error message => ([], .error message)
      | .ok () =>
        let started := [.payload envelope.sequence payload, .manifest envelope]
        match spool.appendSessionSegment files envelope with
        | .error message => (started, .error message)
        | .ok state =>
          (started ++ [.segment state, .current (spool.pointer envelope)],
            .ok (spool.pointer envelope))
    | some existing, some stored =>
      match spool.replay files envelope existing stored.2 payload with
      | .error message => ([], .error message)
      | .ok writes => (writes, .ok (spool.pointer existing))
    | _, _ => ([], .error "immutable batch is only partially present")

/-- A call that may crash after some of its writes. -/
structure Attempt where
  envelope : FeatureBatchEnvelope
  payload : List UInt8
  crashAfter : Option ℕ := none

/-- The files a call leaves. -/
def after (attempt : Attempt) : Files :=
  let writes := (spool.publish files attempt.envelope attempt.payload).1
  (attempt.crashAfter.elim writes writes.take).foldl Files.write files

end FeatureBatchSpool

end RQuant.Feature
