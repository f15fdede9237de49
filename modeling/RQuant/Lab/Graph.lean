import RQuant.Foundation.Table
import RQuant.Lab.Contracts

/-!
# Lab jobs: the job graph

The tables of jobs, shards, events and results, with their primary keys.
Updates go through the triggers of the database, which refuse a job row whose
result state does not fit its shards, and changes to the shards of a result
that is ready or sealed.
-/

namespace RQuant.Lab

open Foundation List

/-- `lab_job`. -/
structure JobRow where
  jobId : Uuid
  spec : ResearchRunSpec
  specHash : Digest
  jobType : ResearchJobType
  resourceClass : ResourceClass
  deadline : Time
  status : JobStatus
  controlIntent : ControlIntent
  (version attemptCount maxAttempts : ℕ)
  recoverable : Bool
  schedulerFencingToken : Option ℕ
  resultContractVersion : Option String
  requiresCompleteResult : Bool
  resultState : LabResultState
  (createdAt updatedAt : Time)
  deriving DecidableEq

/-- `lab_shard`; the columns of the definition are kept together. -/
structure ShardRow where
  jobId : Uuid
  definition : LabShardDefinition
  payloadProtocolVersion : PayloadProtocol
  status : ShardStatus
  (version attemptCount maxAttempts : ℕ)
  workerId : Option String
  schedulerFencingToken : Option ℕ
  claimToken : Option Uuid
  claimGeneration : ℕ
  (claimedAt heartbeatAt leaseExpiresAt : Option Time)
  resultManifestHash : Option Digest
  failureJson : Option String
  finishedAt : Option Time
  checkpointJson : Option String
  (durationMs throughputUnitsPerSecond : Option ℚ)
  completionSequence : Option ℕ
  (createdAt updatedAt : Time)
  deriving DecidableEq

def ShardRow.key (row : ShardRow) : Uuid × Uuid := (row.jobId, row.definition.shardId)

/-- `lab_event`. -/
structure EventRow where
  eventId : ℕ
  jobId : Uuid
  requestId : Option Uuid
  eventType : String
  priorStatus : Option JobStatus
  newStatus : JobStatus
  jobVersion : ℕ
  reason : String
  schedulerFencingToken : Option ℕ
  createdAt : Time
  deriving DecidableEq

/-- `lab_artifact_commit`. -/
structure ArtifactCommitRow where
  requestId : Uuid
  contentHash : Digest
  envelope : LabArtifactCommitEnvelope
  receipt : LabArtifactCommitReceipt
  appliedAt : Time
  deriving DecidableEq

/-- `lab_job_result_artifact`. -/
structure ResultArtifactRow where
  (jobId commitRequestId : Uuid)
  evidence : LabArtifactIndexEvidence
  deriving DecidableEq

/-- `lab_claim_publication`, without its later stages. -/
structure ClaimPublicationRow where
  (attemptId jobId shardId : Uuid)
  (claimGeneration schedulerFencingToken : ℕ)
  workerId : String
  deriving DecidableEq

/-- The tables that hold jobs and what became of them. -/
structure JobGraph where
  jobs : List JobRow
  shards : List ShardRow
  events : List EventRow
  commits : List ArtifactCommitRow
  artifacts : List ResultArtifactRow
  publications : List ClaimPublicationRow
  uniqueJobs : (jobs.map JobRow.jobId).Nodup
  uniqueShards : (shards.map ShardRow.key).Nodup
  uniqueCommits : (commits.map ArtifactCommitRow.requestId).Nodup
  uniqueArtifacts : (artifacts.map ResultArtifactRow.jobId).Nodup

namespace JobGraph

def empty : JobGraph where
  jobs := []
  shards := []
  events := []
  commits := []
  artifacts := []
  publications := []
  uniqueJobs := nodup_nil
  uniqueShards := nodup_nil
  uniqueCommits := nodup_nil
  uniqueArtifacts := nodup_nil

variable (graph : JobGraph)

/-- `_load_job_row`. -/
def jobRow (jobId : Uuid) : Option JobRow := findKey JobRow.jobId jobId graph.jobs

def shardRow (jobId shardId : Uuid) : Option ShardRow :=
  findKey ShardRow.key (jobId, shardId) graph.shards

section

variable (jobId : Uuid)

def shardsOf : List ShardRow := graph.shards.filter fun shard => shard.jobId = jobId

def eventsOf : List EventRow := graph.events.filter fun event => event.jobId = jobId

def artifactRow : Option ResultArtifactRow :=
  findKey ResultArtifactRow.jobId jobId graph.artifacts

def commitRow (requestId : Uuid) : Option ArtifactCommitRow :=
  findKey ArtifactCommitRow.requestId requestId graph.commits

def activeShardCount : ℕ :=
  ((graph.shardsOf jobId).filter fun shard => shard.status = .running).length

def AllSucceeded : Prop :=
  graph.shardsOf jobId ≠ [] ∧ ∀ shard ∈ graph.shardsOf jobId, shard.status = .succeeded
deriving Decidable

/-- `_jobs_requiring_v2_reconciliation`, for one job. -/
def requiresReconciliation : Bool :=
  (graph.shardsOf jobId).any fun shard =>
    shard.payloadProtocolVersion = .v2 ||
      graph.publications.any fun publication => publication.jobId = jobId

/-- Some shard that has not succeeded has used up its attempts. -/
def hasExhaustedShard : Bool :=
  (graph.shardsOf jobId).any fun shard =>
    shard.status ≠ .succeeded && shard.maxAttempts ≤ shard.attemptCount

end

theorem jobIds_updateKey (row : JobRow) :
    (updateKey JobRow.jobId row.jobId (fun _ => row) graph.jobs).map
      JobRow.jobId = graph.jobs.map JobRow.jobId :=
  map_updateKey fun _ _ same => same.symm

variable {change : ShardRow → ShardRow}

theorem shardKeys_map (keeps : ∀ row, (change row).key = row.key) :
    (graph.shards.map change).map ShardRow.key = graph.shards.map ShardRow.key := by
  rw [map_map]
  exact map_congr_left fun row _ => keeps row

/-- The job row with the identifier of `row` becomes `row`. -/
def setJob (row : JobRow) : JobGraph :=
  { graph with
    jobs := updateKey JobRow.jobId row.jobId (fun _ => row) graph.jobs
    uniqueJobs := (graph.jobIds_updateKey row).symm ▸ graph.uniqueJobs }

def addJob (row : JobRow) (fresh : row.jobId ∉ graph.jobs.map JobRow.jobId) : JobGraph :=
  { graph with
    jobs := graph.jobs ++ [row]
    uniqueJobs := nodup_concat graph.uniqueJobs fresh }

def mapShards (change : ShardRow → ShardRow)
    (keeps : ∀ row, (change row).key = row.key) : JobGraph :=
  { graph with
    shards := graph.shards.map change
    uniqueShards := (graph.shardKeys_map keeps).symm ▸ graph.uniqueShards }

def addShards (rows : List ShardRow)
    (fresh : ((graph.shards ++ rows).map ShardRow.key).Nodup) : JobGraph :=
  { graph with shards := graph.shards ++ rows, uniqueShards := fresh }

def addEvent (event : EventRow) : JobGraph := { graph with events := graph.events ++ [event] }

def addCommit (row : ArtifactCommitRow)
    (fresh : row.requestId ∉ graph.commits.map ArtifactCommitRow.requestId) :
    JobGraph :=
  { graph with
    commits := graph.commits ++ [row]
    uniqueCommits := nodup_concat graph.uniqueCommits fresh }

def addArtifact (row : ResultArtifactRow)
    (fresh : row.jobId ∉ graph.artifacts.map ResultArtifactRow.jobId) :
    JobGraph :=
  { graph with
    artifacts := graph.artifacts ++ [row]
    uniqueArtifacts := nodup_concat graph.uniqueArtifacts fresh }

def addPublication (row : ClaimPublicationRow) : JobGraph :=
  { graph with publications := graph.publications ++ [row] }

/-- The capability that a transaction holds while it writes a job row. -/
inductive Authorization where
  | none
  | retry (jobId : Uuid) (oldVersion newVersion : ℕ)
  | readyTerminal (jobId : Uuid) (status : JobStatus)
      (oldVersion newVersion : ℕ) (recoverable : Bool) (fence : Option ℕ)
  | artifactSuccess (jobId requestId : Uuid) (oldVersion newVersion : ℕ)
  deriving DecidableEq

def PendingRefused (old new : JobRow) : Prop :=
  new.status = .succeeded ∨
    (old.requiresCompleteResult = true ∧ old.resultState = .ready ∧
      new.status ≠ .failed ∧ new.status ≠ .cancelled) ∨
    (graph.artifactRow new.jobId).isSome = true ∨
    (new.status = .running ∧ new.resultContractVersion = some completeResultContractVersion ∧
      graph.AllSucceeded new.jobId)
deriving Decidable

def ReadyRefused (new : JobRow) : Prop :=
  new.status ≠ .running ∨ new.controlIntent ≠ .none ∨
    new.resultContractVersion ≠ some completeResultContractVersion ∨
    (graph.artifactRow new.jobId).isSome = true ∨
    ¬ graph.AllSucceeded new.jobId
deriving Decidable

def CommitAgrees (new : JobRow) (artifact : ResultArtifactRow) (row : ArtifactCommitRow) : Prop :=
  row.envelope.commit.jobId = new.jobId ∧ row.receipt.status = .accepted ∧
    row.receipt.reason = "artifact_committed" ∧
    row.receipt.jobVersion = some new.version ∧
    row.envelope.commit.specHash = new.specHash ∧
    row.envelope.commit.codeSha = new.spec.codeSha ∧
    row.envelope.commit.datasetSnapshot = new.spec.datasetSnapshot ∧
    some row.envelope.commit.resultContractVersion = new.resultContractVersion ∧
    row.envelope.commit.manifestHash = artifact.evidence.manifestHash ∧
    row.envelope.commit.completeResultHash = artifact.evidence.completeResultHash ∧
    row.envelope.commit.sealedPath = artifact.evidence.sealedPath ∧
    ∀ shard ∈ graph.shardsOf new.jobId, shard.definition.planHash = row.envelope.commit.planHash ∧
      shard.definition.adapterId = row.envelope.commit.adapterId ∧
      shard.definition.adapterVersion = row.envelope.commit.adapterVersion

instance (new : JobRow) (artifact : ResultArtifactRow) (row : ArtifactCommitRow) :
    Decidable (graph.CommitAgrees new artifact row) :=
  inferInstanceAs (Decidable (_ ∧ _))

def SealedRefused (authorization : Authorization) (old new : JobRow) : Prop :=
  old.requiresCompleteResult = false ∨ old.status ≠ .running ∨
    old.resultState ≠ .ready ∨ old.controlIntent ≠ .none ∨
    old.resultContractVersion ≠ some completeResultContractVersion ∨
    new.status ≠ .succeeded ∨ new.controlIntent ≠ .none ∨
    new.resultContractVersion ≠ some completeResultContractVersion ∨
    new.version ≠ old.version + 1 ∨ ¬ graph.AllSucceeded new.jobId ∨
    ¬ ∃ artifact ∈ graph.artifactRow new.jobId,
      authorization = .artifactSuccess new.jobId artifact.commitRequestId old.version new.version ∧
        ∃ row ∈ graph.commitRow artifact.commitRequestId, graph.CommitAgrees new artifact row

instance (authorization : Authorization) (old new : JobRow) :
    Decidable (graph.SealedRefused authorization old new) :=
  inferInstanceAs (Decidable (_ ∨ _))

def RetryRefused (authorization : Authorization) (old new : JobRow) : Prop :=
  authorization ≠ .retry new.jobId old.version new.version ∨
    old.recoverable = false ∨ new.controlIntent ≠ .none ∨
    new.version ≠ old.version + 1 ∨ new.recoverable = true ∨
    new.schedulerFencingToken ≠ none ∨ new.resultState ≠ .pending ∨
    new.requiresCompleteResult ≠ old.requiresCompleteResult ∨
    new.resultContractVersion ≠ old.resultContractVersion

instance (authorization : Authorization) (old new : JobRow) :
    Decidable (RetryRefused authorization old new) :=
  inferInstanceAs (Decidable (_ ∨ _))

/-- `trg_lab_job_complete_result_update`. -/
def ResultRefused (authorization : Authorization) (old new : JobRow) : Prop :=
  (new.resultState = .legacyUnsealed ∧
    ¬ (old.requiresCompleteResult = false ∧ old.status = .succeeded ∧
      old.resultState = .legacyUnsealed ∧
      new.requiresCompleteResult = false ∧ new.status = .succeeded)) ∨
    (new.requiresCompleteResult = true ∧
      ((new.resultState = .pending ∧ graph.PendingRefused old new) ∨
        (new.resultState = .ready ∧ graph.ReadyRefused new) ∨
        (new.resultState = .sealed ∧ graph.SealedRefused authorization old new))) ∨
    ((old.status = .succeeded ∨ old.status = .cancelled) ∧ new.status ≠ old.status) ∨
    (old.status = .failed ∧ new.status ≠ .failed ∧ new.status ≠ .queued) ∨
    (old.status = .failed ∧ new.status = .queued ∧ RetryRefused authorization old new)

instance (authorization : Authorization) (old new : JobRow) :
    Decidable (graph.ResultRefused authorization old new) :=
  inferInstanceAs (Decidable (_ ∨ _))

def SameIdentity (old new : JobRow) : Prop :=
  new.jobId = old.jobId ∧ new.spec = old.spec ∧
    new.specHash = old.specHash ∧ new.jobType = old.jobType ∧
    new.resourceClass = old.resourceClass ∧ new.deadline = old.deadline ∧
    new.attemptCount = old.attemptCount ∧
    new.maxAttempts = old.maxAttempts ∧ new.createdAt = old.createdAt ∧
    new.resultContractVersion = old.resultContractVersion ∧
    new.requiresCompleteResult = old.requiresCompleteResult
deriving Decidable

/-- `trg_lab_complete_result_ready_job_update`: a ready row is sealed or ends,
under the matching capability. -/
def ReadyRowAllowed (authorization : Authorization) (old new : JobRow) : Prop :=
  SameIdentity old new ∧
    ((new.status = .succeeded ∧ new.controlIntent = .none ∧
        new.version = old.version + 1 ∧ new.recoverable = old.recoverable ∧
        (∃ fence ∈ new.schedulerFencingToken, 1 ≤ fence) ∧
        new.resultState = .sealed ∧
        ∃ artifact ∈ graph.artifactRow new.jobId, authorization =
          .artifactSuccess new.jobId artifact.commitRequestId old.version new.version) ∨
      ((new.status = .failed ∨ new.status = .cancelled) ∧
        new.controlIntent = .none ∧ new.version = old.version + 1 ∧
        new.resultState = .pending ∧
        authorization =
          .readyTerminal new.jobId new.status old.version new.version
            new.recoverable new.schedulerFencingToken))

instance (authorization : Authorization) (old new : JobRow) :
    Decidable (graph.ReadyRowAllowed authorization old new) :=
  inferInstanceAs (Decidable (_ ∧ _))

def checkJobUpdate (authorization : Authorization) (old new : JobRow) : Except LabError Unit := do
  require (¬ (old.requiresCompleteResult = true ∧ old.resultState = .sealed))
    (.integrity "complete sealed job ledger row is immutable")
  require (new.requiresCompleteResult = old.requiresCompleteResult)
    (.integrity "requires_complete_result is immutable")
  require
    (old.requiresCompleteResult = true ∧ old.resultState = .ready →
      graph.ReadyRowAllowed authorization old new)
    (.integrity "complete ready job ledger row is immutable")
  require (¬ graph.ResultRefused authorization old new)
    (.integrity "lab job result transition is not authorized or consistent")

def updateJob (authorization : Authorization) (jobId : Uuid)
    (matching : JobRow → Bool) (change : JobRow → JobRow) :
    Except LabError (JobGraph × Bool) :=
  match graph.jobRow jobId with
  | none => .ok (graph, false)
  | some row =>
    if matching row then do
      graph.checkJobUpdate authorization row (change row)
      pure (graph.setJob (change row), true)
    else .ok (graph, false)

/-- The job of a shard exists and its result is neither ready nor sealed. -/
def shardsMutable (jobId : Uuid) : Bool :=
  (graph.jobRow jobId).any fun job =>
    !(job.requiresCompleteResult && (job.resultState = .ready || job.resultState = .sealed))

def changeMatching (matching : ShardRow → Bool) (change : ShardRow → ShardRow)
    (row : ShardRow) : ShardRow :=
  if matching row then change row else row

theorem key_changeMatching (keeps : ∀ row, (change row).key = row.key) (row : ShardRow) :
    (changeMatching matching change row).key = row.key := by
  unfold changeMatching
  split
  · exact keeps row
  · rfl

def updateShards (matching : ShardRow → Bool) (change : ShardRow → ShardRow)
    (keeps : ∀ row, (change row).key = row.key) :
    Except LabError (JobGraph × ℕ) := do
  require (∀ row ∈ graph.shards, matching row = true → graph.shardsMutable row.jobId = true)
    (.integrity "lab shard ownership or complete result set is immutable")
  pure
    (graph.mapShards (changeMatching matching change) (key_changeMatching keeps),
      (graph.shards.filter matching).length)

def insertEvent (jobId : Uuid) (requestId : Option Uuid) (eventType : String)
    (priorStatus : Option JobStatus) (newStatus : JobStatus)
    (jobVersion : ℕ) (reason : String) (fencingToken : ℕ) (now : Time) :
    JobGraph :=
  graph.addEvent
    { eventId := graph.events.length + 1, jobId, requestId, eventType, priorStatus, newStatus,
      jobVersion, reason, schedulerFencingToken := some fencingToken, createdAt := now }

end JobGraph

/-! ## The ledger -/

/-- `LabLeaseRecord`, and a row of `lab_lease`. -/
structure LabLeaseRecord where
  leaseId : ℕ
  (leaseName ownerId : String)
  token : Uuid
  fencingToken : ℕ
  (acquiredAt heartbeatAt expiresAt : Time)
  releasedAt : Option Time
  deriving DecidableEq

/-- `lab_command`. -/
structure CommandRow where
  requestId : Uuid
  contentHash : Digest
  envelope : LabCommandEnvelope
  receipt : LabCommandReceipt
  appliedAt : Time
  deriving DecidableEq

/-- `lab_worker_report`. -/
structure WorkerReportRow where
  reportId : Uuid
  contentHash : Digest
  report : LabWorkerReport
  receipt : LabReportReceipt
  appliedAt : Time
  deriving DecidableEq

/-- A position in the order of shards to claim. -/
structure ShardCursor where
  createdAt : Time
  jobId : Uuid
  shardIndex : ℕ
  shardId : Uuid
  deriving DecidableEq

/-- `lab_scheduler_state`. -/
structure ClaimCursor where
  position : ShardCursor
  sequence : ℕ
  deriving DecidableEq

/-- The whole database of the job store. -/
structure Ledger extends JobGraph where
  leases : List LabLeaseRecord
  commands : List CommandRow
  reports : List WorkerReportRow
  claimCursor : Option ClaimCursor
  /-- `lab_preclaim_fair_cursor`. -/
  fairCursor : Option ShardCursor
  /-- `lab_recovery_cursor`. -/
  idleCursor : Option (Time × Uuid)

def Ledger.empty : Ledger where
  toJobGraph := JobGraph.empty
  leases := []
  commands := []
  reports := []
  claimCursor := none
  fairCursor := none
  idleCursor := none

end RQuant.Lab
