import RQuant.Lab.Graph

/-!
# Lab jobs: the reader

What a reader checks before it returns a job or its shards.
-/

namespace RQuant.Lab

open Foundation

def legacyPlanHash : Digest := 0

def emptyPayloadJson : String := "\x7b\x7d"

def emptyPayloadHash : Digest := 0x44136fa355b3678a1146ad16f7e8649e94fb4fc21fe77e8310c060f61caaff8a

/-- The adapter of shards that were migrated from an early schema. -/
def legacyAdapterId : String := "legacy-v2"

/-- `_strict_sqlite_int` with the minimum one. -/
def requirePositive (field : String) (value : ℕ) : Except LabError Unit :=
  require (1 ≤ value) (.invalidStored (field ++ " must be >= 1, found " ++ toString value))

/-- `_strict_nullable_sqlite_int` with the minimum one. -/
def requireNullablePositive (field : String) : Option ℕ → Except LabError Unit
  | none => .ok ()
  | some value => requirePositive field value

def JobRow.invalid (row : JobRow) (text : String) : LabError :=
  .invalidStored ("invalid stored lab job " ++ uuidText row.jobId ++ ": " ++ text)

def jobFromRow (row : JobRow) : Except LabError JobRow := do
  require (row.spec.specHash = row.specHash) (row.invalid "spec hash mismatch")
  require (row.spec.jobType = row.jobType) (row.invalid "job_type does not match spec")
  require (row.spec.resourceClass = row.resourceClass)
    (row.invalid "resource_class does not match spec")
  require (row.spec.deadline = row.deadline) (row.invalid "deadline does not match spec")
  requirePositive "lab_job.max_attempts" row.maxAttempts
  requireNullablePositive "lab_job.scheduler_fencing_token" row.schedulerFencingToken
  require (row.resultContractVersion ≠ some "") (row.invalid "result_contract_version is empty")
  require
    (row.resultState = .ready →
      row.status = .running ∧ row.resultContractVersion = some completeResultContractVersion)
    (row.invalid "ready result state requires a running complete-result job")
  require
    (row.resultState = .sealed →
      row.status = .succeeded ∧ row.resultContractVersion = some completeResultContractVersion)
    (row.invalid "sealed result state requires a succeeded complete-result job")
  require (row.status = .succeeded → row.resultState = .sealed ∨ row.resultState = .legacyUnsealed)
    (row.invalid "succeeded job has no authoritative result state")
  require
    (row.resultState = .legacyUnsealed →
      row.status = .succeeded ∧ row.requiresCompleteResult = false)
    (row.invalid "legacy_unsealed is only valid for migrated legacy succeeded jobs")
  pure row

def ShardRow.invalid (row : ShardRow) (text : String) : LabError :=
  .invalidStored ("invalid stored lab shard " ++ uuidText row.definition.shardId ++ ": " ++ text)

def ShardRow.worker (row : ShardRow) : Option String :=
  row.workerId.filter fun worker => worker ≠ ""

def ShardRow.Claimed (row : ShardRow) : Prop :=
  row.worker.isSome = true ∧ row.schedulerFencingToken.isSome = true ∧
    row.claimToken.isSome = true ∧ row.claimedAt.isSome = true ∧
    row.heartbeatAt.isSome = true ∧ row.leaseExpiresAt.isSome = true
deriving Decidable

def ShardRow.Unclaimed (row : ShardRow) : Prop :=
  row.worker = none ∧ row.schedulerFencingToken = none ∧
    row.claimToken = none ∧ row.claimedAt = none ∧ row.heartbeatAt = none ∧
    row.leaseExpiresAt = none
deriving Decidable

def ShardRow.Legacy (row : ShardRow) : Prop := row.definition.adapterId = legacyAdapterId
deriving Decidable

def ShardRow.LegacyIdentity (row : ShardRow) : Prop :=
  row.definition.adapterVersion = "v0" ∧ row.definition.planHash = legacyPlanHash ∧
    row.definition.payload.json = emptyPayloadJson ∧
    row.definition.payloadHash = emptyPayloadHash
deriving Decidable

def ShardRow.TelemetryWhole (row : ShardRow) : Prop :=
  row.durationMs.isSome = row.throughputUnitsPerSecond.isSome ∧
    row.durationMs.isSome = row.completionSequence.isSome
deriving Decidable

def ShardStatus.Terminal (status : ShardStatus) : Prop :=
  status = .succeeded ∨ status = .failed ∨ status = .cancelled
deriving Decidable

/-- The checks that `_shard_from_row` and `_sqlite_shard_row_valid` share; they
take the id from the adapter as it is stored. -/
def checkShard (digests : LabDigests) (row : ShardRow) : Except LabError Unit := do
  requirePositive "lab_shard.max_attempts" row.maxAttempts
  requireNullablePositive "lab_shard.scheduler_fencing_token" row.schedulerFencingToken
  requireNullablePositive "lab_shard.completion_sequence" row.completionSequence
  require (row.definition.shardId ≠ 0)
    (row.invalid "persisted shard_id cannot use the constructor sentinel")
  require (row.Legacy → row.LegacyIdentity) (row.invalid "legacy shard identity mismatch")
  require (¬ row.Legacy → digests.ValidDefinition row.definition)
    (row.invalid "shard_id does not match deterministic shard definition")
  require row.TelemetryWhole
    (row.invalid "shard completion telemetry must be entirely present or absent")
  require
    (∀ duration ∈ row.durationMs, ∃ plan ∈ row.definition.workPlan,
      ∃ throughput ∈ row.throughputUnitsPerSecond,
        digests.telemetryMatches ⟨plan, duration, throughput⟩ = true)
    (row.invalid "shard telemetry is missing its work plan")
  require (row.durationMs.isSome = true → row.status = .succeeded)
    (row.invalid "non-succeeded shard retains completion telemetry")
  require
    (row.status = .succeeded ∧ row.definition.workPlan.isSome = true → row.durationMs.isSome = true)
    (row.invalid "telemetry-planned succeeded shard is missing telemetry")
  require (row.status = .running → row.Claimed)
    (row.invalid "running shard is missing claim identity")
  require (row.status = .queued → row.attemptCount < row.maxAttempts)
    (row.invalid "queued shard exhausted attempts")
  require (∀ claimed ∈ row.claimedAt, ∀ heartbeat ∈ row.heartbeatAt, claimed ≤ heartbeat)
    (row.invalid "shard heartbeat predates claim")
  require (∀ claimed ∈ row.claimedAt, ∀ expires ∈ row.leaseExpiresAt, claimed < expires)
    (row.invalid "shard claim lease is not positive")
  require
    (row.status = .succeeded →
      row.finishedAt.isSome = true ∧ (row.Legacy ∨ row.resultManifestHash.isSome = true))
    (row.invalid "succeeded shard is missing result identity")
  require
    (row.status = .failed →
      row.finishedAt.isSome = true ∧ (row.Legacy ∨ row.failureJson.isSome = true))
    (row.invalid "failed shard is missing failure identity")
  require (row.status = .cancelled → row.finishedAt.isSome = true)
    (row.invalid "cancelled shard is missing finished_at")
  require (row.status.Terminal → row.Unclaimed)
    (row.invalid "terminal shard retains claim identity")

def shardFromRow (digests : LabDigests) (row : ShardRow) : Except LabError ShardRow := do
  require (row.definition.payload.protocol = row.payloadProtocolVersion)
    (row.invalid "shard payload protocol does not match payload JSON")
  checkShard digests row
  pure row

/-- The id is that of the adapter without surrounding white space. -/
def ShardRow.Canonical (digests : LabDigests) (row : ShardRow) : Prop :=
  ¬ row.Legacy → strip row.definition.adapterId ≠ "" ∧ strip row.definition.adapterVersion ≠ "" ∧
    row.definition.shardId =
      digests.shardId row.definition.shardIndex (strip row.definition.adapterId)
        (strip row.definition.adapterVersion) row.definition.planHash row.definition.payloadHash
        row.definition.workPlan
deriving Decidable

def sqliteShardRowValid (digests : LabDigests) (row : ShardRow) : Prop :=
  checkShard digests row = .ok () ∧ row.Canonical digests
deriving Decidable

namespace JobGraph

variable (graph : JobGraph)

/-- The last checks of `_validate_complete_result_graph`, on a sealed job. -/
def validateSealed (job : JobRow) : Except LabError Unit := do
  let artifact ←
    orRaise (.invalidStored "sealed job is missing its complete result index")
      (graph.artifactRow job.jobId)
  require (artifact.evidence.jobId = job.jobId)
    (.invalidStored ("invalid stored result artifact " ++
      uuidText artifact.jobId ++ ": artifact evidence job id mismatch"))
  let row ←
    orRaise (.invalidStored "result index is missing its accepted commit")
      (graph.commitRow artifact.commitRequestId)
  require
    (row.receipt.status = .accepted ∧ row.receipt.reason = "artifact_committed" ∧
      row.receipt.jobVersion = some job.version ∧
      row.envelope.commit.jobId = job.jobId ∧
      row.envelope.commit.specHash = job.specHash ∧
      row.envelope.commit.codeSha = job.spec.codeSha ∧
      row.envelope.commit.datasetSnapshot = job.spec.datasetSnapshot ∧
      row.envelope.commit.resultContractVersion = completeResultContractVersion ∧
      row.envelope.commit.sealedPath = artifact.evidence.sealedPath ∧
      row.envelope.commit.manifestHash = artifact.evidence.manifestHash ∧
      row.envelope.commit.completeResultHash = artifact.evidence.completeResultHash)
    (.invalidStored "accepted commit, result index, and sealed job identities conflict")
  require
    (∀ shard ∈ graph.shardsOf job.jobId, shard.definition.planHash = row.envelope.commit.planHash ∧
      shard.definition.adapterId = row.envelope.commit.adapterId ∧
      shard.definition.adapterVersion = row.envelope.commit.adapterVersion)
    (.invalidStored "accepted commit identity conflicts with succeeded shards")

def validateCompleteResultGraph (digests : LabDigests) (job : JobRow) : Except LabError Unit := do
  require (∀ shard ∈ graph.shardsOf job.jobId, sqliteShardRowValid digests shard)
    (.invalidStored "job contains an invalid stored lab shard")
  if job.requiresCompleteResult = false then
    require ((graph.artifactRow job.jobId).isSome = false)
      (.invalidStored "legacy job unexpectedly has a complete result index")
  else if job.resultState = .pending then do
    require ((graph.artifactRow job.jobId).isSome = false)
      (.invalidStored "pending job unexpectedly has a result index")
    require
      (¬ (job.status = .running ∧ job.resultContractVersion = some completeResultContractVersion ∧
        graph.AllSucceeded job.jobId))
      (.invalidStored "running job with all shards succeeded must be result ready")
  else do
    require (graph.AllSucceeded job.jobId)
      (.invalidStored "ready or sealed complete result job requires succeeded shards")
    if job.resultState = .ready then
      require ((graph.artifactRow job.jobId).isSome = false)
        (.invalidStored "ready job unexpectedly has a result index")
    else do
      require (job.resultState = .sealed)
        (.invalidStored "sealed job is missing its complete result index")
      graph.validateSealed job

def getJob (digests : LabDigests) (jobId : Uuid) : Except LabError (Option JobRow) :=
  match graph.jobRow jobId with
  | none => .ok none
  | some row => do
    let job ← jobFromRow row
    graph.validateCompleteResultGraph digests job
    pure (some job)

def listShards (digests : LabDigests) (jobId : Uuid) : Except LabError (List ShardRow) := do
  let rows := sortOn (fun shard : ShardRow => shard.definition.shardIndex) (graph.shardsOf jobId)
  require (rows.length ≤ maxJobShards)
    (.invalidStored ("job shards exceed authoritative shard limit " ++ toString maxJobShards))
  rows.mapM (shardFromRow digests)

end JobGraph

end RQuant.Lab
