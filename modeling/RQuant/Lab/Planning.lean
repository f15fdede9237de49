import RQuant.Foundation.Traces
import RQuant.Lab.Commands

/-!
# Lab jobs: planning, deadlines and recovery of jobs

A job is planned once, into at most 128 shards.  Jobs that miss their deadline
fail with their shards.  Unsharded jobs that an earlier scheduler left running
are checkpointed or cancelled by the next one.
-/

namespace RQuant.Lab

open Foundation

namespace JobGraph

variable (graph : JobGraph) (digests : LabDigests)

def plannedRow (job : JobRow) (now : Time) (definition : LabShardDefinition) : ShardRow where
  jobId := job.jobId
  definition := definition
  payloadProtocolVersion := definition.payload.protocol
  status := .queued
  version := 0
  attemptCount := 0
  maxAttempts := job.maxAttempts
  workerId := none
  schedulerFencingToken := none
  claimToken := none
  claimGeneration := 0
  claimedAt := none
  heartbeatAt := none
  leaseExpiresAt := none
  resultManifestHash := none
  failureJson := none
  finishedAt := none
  checkpointJson := none
  durationMs := none
  throughputUnitsPerSecond := none
  completionSequence := none
  createdAt := now
  updatedAt := now

def insertShards (rows : List ShardRow) : Except LabError JobGraph :=
  if fresh : ((graph.shards ++ rows).map ShardRow.key).Nodup then
    .ok (graph.addShards rows fresh)
  else
    .error (.integrity "UNIQUE constraint failed: lab_shard.job_id, lab_shard.shard_id")

def storedPlan (jobId : Uuid) : Except LabError (List ShardRow) := do
  let rows := sortOn (fun shard : ShardRow => shard.definition.shardIndex) (graph.shardsOf jobId)
  require (rows.length ≤ maxJobShards)
    (.invalidStored ("stored shard plan exceeds authoritative limit " ++ toString maxJobShards))
  rows.mapM (shardFromRow digests)

/-- The checks of `plan_job` before its transaction; the definitions in
order. -/
def orderedPlan (definitions : List LabShardDefinition) :
    Except LabError (List LabShardDefinition) := do
  require (definitions ≠ []) (.value "a shard plan must contain at least one definition")
  require (definitions.length ≤ maxJobShards)
    (.value ("a shard plan may contain at most " ++ toString maxJobShards ++ " shards"))
  require (∀ item ∈ definitions, digests.ValidDefinition item)
    (.value "shard_id does not match deterministic shard definition")
  let ordered := sortOn LabShardDefinition.shardIndex definitions
  require (ordered.map LabShardDefinition.shardIndex = List.range ordered.length)
    (.value "shard indexes must be unique and contiguous from zero")
  require (∀ item ∈ ordered, ∀ other ∈ ordered, item.planHash = other.planHash)
    (.value "all shard definitions must share one plan_hash")
  require (∀ item ∈ ordered, ∀ other ∈ ordered, item.workPlan.isSome = other.workPlan.isSome)
    (.value "a shard plan cannot mix telemetry and legacy definitions")
  pure ordered

def checkStoredPlan (job : JobRow) (ordered : List LabShardDefinition) :
    Except LabError (List ShardRow) := do
  let records ← graph.storedPlan digests job.jobId
  require (records.map ShardRow.definition = ordered)
    (.planConflict ("job " ++ uuidText job.jobId ++ " is already bound to a different plan"))
  require
    (job.resultContractVersion = none ∨ job.resultContractVersion = some resultContractVersion ∨
      job.resultContractVersion = some completeResultContractVersion)
    (.planConflict ("job " ++ uuidText job.jobId ++
      " result contract does not match its shard plan"))
  pure records

/-- The first plan of a job: its shards are written and read back. -/
def storePlan (job : JobRow) (ordered : List LabShardDefinition)
    (now : Time) : Except LabError (List ShardRow × JobGraph) := do
  require (job.status = .queued)
    (.invalidTransition ("cannot plan lab job while status is " ++ job.status.text))
  requirePositive "lab_job.max_attempts" job.maxAttempts
  let (bound, _) ←
    graph.updateJob .none job.jobId (fun _ => true)
      (fun stored =>
        { stored with
          resultContractVersion := some completeResultContractVersion })
  let planned ← bound.insertShards (ordered.map (plannedRow job now))
  let records ← planned.storedPlan digests job.jobId
  pure (records, planned)

/-- A job whose deadline has passed, with the shards that are not over. -/
def expireJob (lease : LabLeaseRecord) (now : Time) (graph : JobGraph)
    (row : JobRow) : Except LabError (Uuid × JobGraph) := do
  let (failed, _) ←
    graph.updateShards (openShard row.jobId)
      (fun stored => stored.ended .failed (some deadlineExceededFailureJson) now)
      (fun _ => rfl)
  let authorization :=
    if row.resultState = .ready then
      Authorization.readyTerminal row.jobId .failed row.version (row.version + 1) false none
    else .none
  let expired ←
    failed.endJob authorization row false lease now "job_deadline_exceeded"
      "ResearchRunSpec deadline exceeded"
      (.staleJobVersion "job changed while applying ResearchRunSpec deadline")
  pure (row.jobId, expired)

/-- The jobs that `expire_deadline_jobs` selects. -/
def expiredRows (now : Time) : List JobRow :=
  sortOn (fun row : JobRow => toLex (row.deadline, toLex (row.createdAt, row.jobId)))
    (graph.jobs.filter fun row => decide row.status.Open && row.deadline ≤ now)

/-- Where an unsharded job goes that was running under another scheduler. -/
def recoveredStatus (row : JobRow) : JobStatus :=
  if row.controlIntent = .cancelRequested then .cancelled else .checkpointed

section

variable (lease : LabLeaseRecord) (now : Time) (graph : JobGraph) (row : JobRow)

/-- The first loop of `recover_expired_jobs`. -/
def recoverJob : Except LabError (JobRow × JobGraph) := do
  requireNullablePositive "lab_job.scheduler_fencing_token" row.schedulerFencingToken
  let (updated, _) ←
    graph.updateJob .none row.jobId (fun stored => stored.version = row.version)
      (fun stored =>
        { stored with
          status := recoveredStatus row, controlIntent := .none, version := row.version + 1,
          schedulerFencingToken := some lease.fencingToken, resultState := .pending,
          updatedAt := now })
  let (reloaded, logged) ←
    (updated.insertEvent row.jobId none "lease_recovered" (some .running)
      (recoveredStatus row) (row.version + 1)
      (if recoveredStatus row = .cancelled then
        "scheduler lease expired after cancel request"
      else "scheduler lease expired")
      lease.fencingToken now).reload row.jobId
  let record ← jobFromRow reloaded
  pure (record, logged)

/-- The second loop of `recover_expired_jobs`. -/
def recoverReadyJob : Except LabError (JobRow × JobGraph) := do
  let (updated, adopted) ←
    graph.adoptRunningJobFence row lease now "job_result_ready_recovered"
      "ready result adopted by replacement scheduler"
  let record ← jobFromRow updated
  pure (record, adopted)

end

def bySubmission (rows : List JobRow) : List JobRow :=
  sortOn (fun row : JobRow => toLex (row.createdAt, row.jobId)) rows

/-- The unsharded jobs that run under another scheduler. -/
def abandonedRows (lease : LabLeaseRecord) : List JobRow :=
  bySubmission
    (graph.jobs.filter fun row =>
      row.status = .running && (graph.shardsOf row.jobId).isEmpty &&
        row.schedulerFencingToken ≠ some lease.fencingToken)

def readyRows (lease : LabLeaseRecord) : List JobRow :=
  bySubmission
    (graph.jobs.filter fun row =>
      row.status = .running && row.resultState = .ready &&
        row.resultContractVersion = some completeResultContractVersion &&
        row.controlIntent = .none &&
        row.schedulerFencingToken.any (fun fence => fence ≠ lease.fencingToken) &&
        graph.AllSucceeded row.jobId)

end JobGraph

namespace Ledger

variable (ledger : Ledger) (digests : LabDigests)

def knownJob (jobId : Uuid) : Except LabError JobRow :=
  orRaise (.key ("lab job not found: " ++ uuidText jobId)) (ledger.jobRow jobId)

def planJob (jobId : Uuid) (definitions : List LabShardDefinition)
    (lease : LabLeaseRecord) (now : Time) :
    Except LabError (List ShardRow × Ledger) := do
  let ordered ← JobGraph.orderedPlan digests definitions
  ledger.validateLease lease now
  let job ← ledger.knownJob jobId
  if ledger.shardsOf jobId ≠ [] then do
    let records ← ledger.checkStoredPlan digests job ordered
    pure (records, ledger)
  else do
    let (records, graph) ← ledger.storePlan digests job ordered now
    pure (records, { ledger with toJobGraph := graph })

def failUnplannedJob (jobId : Uuid) (reason : String) (lease : LabLeaseRecord) (now : Time) :
    Except LabError (Bool × Ledger) := do
  require (¬ Blank reason) (.value "unplanned job failure reason must not be empty")
  ledger.validateLease lease now
  let row ← ledger.knownJob jobId
  if row.status ≠ .queued ∨ ledger.shardsOf jobId ≠ [] then
    pure (false, ledger)
  else do
    let graph ←
      ledger.endJob .none row false lease now "job_plan_failed" (strip reason)
        (.staleJobVersion "unplanned job changed while recording plan failure")
    pure (true, { ledger with toJobGraph := graph })

def expireDeadlineJobs (lease : LabLeaseRecord) (now : Time) :
    Except LabError (List Uuid × Ledger) := do
  ledger.validateLease lease now
  let (expired, graph) ←
    sweep (JobGraph.expireJob lease now) (ledger.expiredRows now) ledger.toJobGraph
  pure (expired, { ledger with toJobGraph := graph })

def recoverExpiredJobs (lease : LabLeaseRecord) (now : Time) :
    Except LabError (List JobRow × Ledger) := do
  ledger.validateLease lease now
  let (recovered, first) ←
    sweep (JobGraph.recoverJob lease now) (ledger.abandonedRows lease) ledger.toJobGraph
  let (adopted, second) ← sweep (JobGraph.recoverReadyJob lease now) (first.readyRows lease) first
  pure (recovered ++ adopted, { ledger with toJobGraph := second })

end Ledger

end RQuant.Lab
