import RQuant.Lab.Leases

/-!
# Lab jobs: transitions

The changes of state that the transactions of the store are made of.
-/

namespace RQuant.Lab

open Foundation

namespace ShardRow

variable (row : ShardRow)

def unclaimed : ShardRow :=
  { row with
    workerId := none, schedulerFencingToken := none, claimToken := none, claimedAt := none,
    heartbeatAt := none, leaseExpiresAt := none }

/-- A shard that ends without a result, with its job. -/
def ended (status : ShardStatus) (failureJson : Option String) (now : Time) : ShardRow :=
  { row.unclaimed with
    status, version := row.version + 1, resultManifestHash := none, failureJson,
    finishedAt := some now, checkpointJson := none, updatedAt := now }

def terminalized (status : ShardStatus) (resultManifestHash : Option Digest)
    (failureJson : Option String) (telemetry : Option LabShardTelemetry)
    (completionSequence : Option ℕ) (now : Time) : ShardRow :=
  { row.unclaimed with
    status, version := row.version + 1, resultManifestHash, failureJson, finishedAt := some now,
    checkpointJson := none, durationMs := telemetry.map LabShardTelemetry.durationMs,
    throughputUnitsPerSecond := telemetry.map LabShardTelemetry.throughputUnitsPerSecond,
    completionSequence, updatedAt := now }

def requeued (now : Time) : ShardRow :=
  { row.unclaimed with status := .queued, version := row.version + 1, updatedAt := now }

theorem key_requeued (now : Time) : ∀ row : ShardRow, (row.requeued now).key = row.key :=
  fun _ => rfl

def retried (now : Time) : ShardRow :=
  { row.unclaimed with
    status := .queued, version := row.version + 1, resultManifestHash := none, failureJson := none,
    finishedAt := none, checkpointJson := none, updatedAt := now }

end ShardRow

namespace JobGraph

variable (graph : JobGraph)

/-- The row a claim or a report was read from, if it is unchanged. -/
def unchangedShard (row : ShardRow) (stored : ShardRow) : Bool :=
  stored.key = row.key && stored.version = row.version

def terminalizeClaimedShard (row : ShardRow) (target : ShardStatus)
    (now : Time) (resultManifestHash : Option Digest)
    (failureJson : Option String) (telemetry : Option LabShardTelemetry)
    (completionSequence : Option ℕ) : Except LabError (JobGraph × Bool) := do
  require target.Terminal (.value ("nonterminal shard target: " ++ target.text))
  let (updated, count) ←
    graph.updateShards (fun stored => unchangedShard row stored && stored.status = .running)
      (fun stored =>
        stored.terminalized target resultManifestHash failureJson telemetry completionSequence now)
      (fun _ => rfl)
  pure (updated, count = 1)

def openShard (jobId : Uuid) (stored : ShardRow) : Bool :=
  stored.jobId = jobId && stored.status.Open

def terminalizeNonterminalShards (jobId : Uuid) (target : ShardStatus)
    (now : Time) : Except LabError (JobGraph × ℕ) := do
  require (target = .cancelled) (.value ("unsupported bulk shard target: " ++ target.text))
  graph.updateShards (openShard jobId) (fun stored => stored.ended target none now) (fun _ => rfl)

def reload (jobId : Uuid) : Except LabError (JobRow × JobGraph) := do
  let row ← orRaise .assertion (graph.jobRow jobId)
  pure (row, graph)

def adoptRunningJobFence (row : JobRow) (lease : LabLeaseRecord) (now : Time)
    (eventType : String) (reason : String) :
    Except LabError (JobRow × JobGraph) :=
  if row.status ≠ .running ∨ row.resultState = .ready ∨
      row.schedulerFencingToken = some lease.fencingToken then
    .ok (row, graph)
  else do
    let (updated, hit) ←
      graph.updateJob .none row.jobId
        (fun stored => stored.version = row.version && stored.status = .running)
        (fun stored =>
          { stored with
            version := row.version + 1, schedulerFencingToken := some lease.fencingToken,
            updatedAt := now })
    require (hit = true) (.leaseFenced "running job changed during scheduler takeover")
    (updated.insertEvent row.jobId none eventType (some .running) .running
      (row.version + 1) reason lease.fencingToken now).reload row.jobId

/-- `_adopt_running_job_fence` with its defaults. -/
def takeOver (row : JobRow) (lease : LabLeaseRecord) (now : Time) :
    Except LabError (JobRow × JobGraph) :=
  graph.adoptRunningJobFence row lease now "scheduler_takeover"
    "running shards fenced and reclaimed"

section

variable (row : JobRow) (target : JobStatus)

def nextFence (lease : LabLeaseRecord) : Option ℕ :=
  if target = .running ∨ row.resultState = .ready then
    some lease.fencingToken
  else row.schedulerFencingToken

def nextAttemptCount : ℕ :=
  if row.status = .queued ∧ target = .running then row.attemptCount + 1
  else row.attemptCount

def nextRecoverable (recoverable : Option Bool) : Bool :=
  if target = .failed then recoverable.getD false else row.recoverable

def nextResultState : LabResultState :=
  if target = .failed ∨ target = .cancelled then .pending
  else row.resultState

def transitioned (lease : LabLeaseRecord)
    (recoverable : Option Bool) (now : Time) (stored : JobRow) : JobRow :=
  { stored with
    status := target, controlIntent := .none, version := row.version + 1,
    attemptCount := nextAttemptCount row target,
    recoverable := nextRecoverable row target recoverable,
    schedulerFencingToken := nextFence row target lease, resultState := nextResultState row target,
    updatedAt := now }

/-- The capability of a transition out of a ready result. -/
def terminalAuthorization (lease : LabLeaseRecord) (recoverable : Option Bool) : Authorization :=
  if row.resultState = .ready then
    .readyTerminal row.jobId target row.version (row.version + 1)
      (nextRecoverable row target recoverable) (nextFence row target lease)
  else .none

end

/-- The answer to a scheduler that does not run the job. -/
def foreignFence : LabError := .leaseFenced "running job belongs to a different scheduler fence"

def transitionInTransaction (row : JobRow) (target : JobStatus)
    (lease : LabLeaseRecord) (reason : String) (now : Time)
    (requestId : Option Uuid) (recoverable : Option Bool)
    (eventType : String) (allowCancelConfirmation : Bool) :
    Except LabError (JobRow × JobGraph) := do
  require
    (row.status = .running → row.controlIntent = .cancelRequested →
      target = .cancelled ∧ allowCancelConfirmation = true)
    (.cancelConfirmation "cancel_requested blocks later lifecycle results")
  require (row.status = .running → target = .cancelled → allowCancelConfirmation = true)
    (.cancelConfirmation "running cancellation requires requested confirmation")
  require (target ∈ row.status.allowed)
    (.invalidTransition ("invalid lab job transition " ++ row.status.text ++ "->" ++ target.text))
  requireNullablePositive "lab_job.scheduler_fencing_token" row.schedulerFencingToken
  require
    (row.status = .running → row.resultState ≠ .ready →
      row.schedulerFencingToken = some lease.fencingToken)
    foreignFence
  require (target ≠ .succeeded)
    (.invalidTransition "job success requires a verified artifact commit")
  let (updated, _) ←
    graph.updateJob (terminalAuthorization row target lease recoverable)
      row.jobId (fun stored => stored.version = row.version)
      (transitioned row target lease recoverable now)
  (updated.insertEvent row.jobId requestId eventType (some row.status) target
    (row.version + 1) reason lease.fencingToken now).reload row.jobId

def setControlIntentInTransaction (row : JobRow) (intent : ControlIntent)
    (lease : LabLeaseRecord) (reason : String) (now : Time)
    (requestId : Uuid) : Except LabError (JobRow × JobGraph) := do
  requireNullablePositive "lab_job.scheduler_fencing_token" row.schedulerFencingToken
  require (row.status = .running → row.schedulerFencingToken = some lease.fencingToken) foreignFence
  let (updated, _) ←
    graph.updateJob .none row.jobId (fun stored => stored.version = row.version)
      (fun stored =>
        { stored with controlIntent := intent, version := row.version + 1, updatedAt := now })
  (updated.insertEvent row.jobId (some requestId) "control_intent_changed"
    (some row.status) row.status (row.version + 1) reason lease.fencingToken
    now).reload row.jobId

def cancelJob (row : JobRow) (reason : String) (lease : LabLeaseRecord)
    (now : Time) (requestId : Option Uuid) (eventType : String)
    (confirmed : Bool) : Except LabError (JobRow × JobGraph) := do
  let (ended, _) ← graph.terminalizeNonterminalShards row.jobId .cancelled now
  ended.transitionInTransaction row .cancelled lease reason now requestId none eventType confirmed

/-- An update that ends a job without a lease of its own, with its event. -/
def endJob (authorization : Authorization) (row : JobRow)
    (recoverable : Bool) (lease : LabLeaseRecord) (now : Time)
    (eventType reason : String) (changed : LabError) :
    Except LabError JobGraph := do
  let (updated, hit) ←
    graph.updateJob authorization row.jobId
      (fun stored => stored.version = row.version && stored.status = row.status)
      (fun stored =>
        { stored with
          status := .failed, controlIntent := .none, version := row.version + 1, recoverable,
          schedulerFencingToken := none, resultState := .pending, updatedAt := now })
  require (hit = true) changed
  pure
    (updated.insertEvent row.jobId none eventType (some row.status) .failed
      (row.version + 1) reason lease.fencingToken now)

/-- The last part of `_fail_job_tree`: the job follows its shards. -/
def failJobRow (row : JobRow) (treeRecoverable : Bool)
    (lease : LabLeaseRecord) (now : Time) (reason : String) :
    Except LabError (JobRow × JobGraph) :=
  if row.status = .queued ∨ row.status = .checkpointed then do
    let updated ←
      graph.endJob .none row treeRecoverable lease now "job_failed" reason
        (.staleJobVersion "inactive job changed while terminalizing exhausted shard tree")
    updated.reload row.jobId
  else
    graph.transitionInTransaction row .failed lease reason now none
      (some treeRecoverable) "job_failed" false

def failJobTree (row : JobRow) (failedShardId : Uuid)
    (failedShardFailureJson siblingFailureJson : String)
    (recoverable : Bool) (lease : LabLeaseRecord) (now : Time)
    (reason : String) : Except LabError (JobRow × JobGraph) :=
  if graph.requiresReconciliation row.jobId then .ok (row, graph)
  else do
    let treeRecoverable := recoverable && !graph.hasExhaustedShard row.jobId
    let siblings :=
      if recoverable && !treeRecoverable then
        parentAttemptsExhaustedFailureJson
      else siblingFailureJson
    let (adopted, taken) ← graph.takeOver row lease now
    let (failed, count) ←
      taken.updateShards (openShard row.jobId)
        (fun stored =>
          stored.ended .failed
            (some
              (if stored.definition.shardId = failedShardId then
                failedShardFailureJson
              else siblings))
            now)
        (fun _ => rfl)
    require (1 ≤ count) (.invalidStored "failed job has no nonterminal shard to terminalize")
    failed.failJobRow adopted treeRecoverable lease now reason

def failJobTreeAfterAttemptsExhausted (row : JobRow)
    (exhaustedShardId : Uuid) (lease : LabLeaseRecord) (now : Time)
    (reason : String) : Except LabError (JobRow × JobGraph) :=
  graph.failJobTree row exhaustedShardId attemptsExhaustedFailureJson
    parentAttemptsExhaustedFailureJson false lease now reason

end JobGraph

namespace Ledger

variable (ledger : Ledger)

section

variable (jobId : Uuid) (expectedVersion : ℕ)

/-- The job of a call, at the version the caller expects. -/
def expectedJob : Except LabError JobRow := do
  let row ← orRaise (.key (uuidText jobId)) (ledger.jobRow jobId)
  require (row.version = expectedVersion)
    (.staleJobVersion ("expected job version " ++ toString expectedVersion ++
      ", found " ++ toString row.version))
  pure row

def transitionJob (target : JobStatus) (lease : LabLeaseRecord) (reason : String) (now : Time)
    (recoverable : Option Bool) : Except LabError (JobRow × Ledger) := do
  ledger.validateLease lease now
  let row ← ledger.expectedJob jobId expectedVersion
  require (ledger.shardsOf jobId = [])
    (.invalidTransition "sharded jobs require shard control-plane APIs")
  let (updated, graph) ←
    ledger.transitionInTransaction row target lease reason now none
      recoverable "job_transitioned" false
  let record ← jobFromRow updated
  pure (record, { ledger with toJobGraph := graph })

def confirmCancelledJob (lease : LabLeaseRecord) (reason : String) (now : Time) :
    Except LabError (JobRow × Ledger) := do
  ledger.validateLease lease now
  let row ← ledger.expectedJob jobId expectedVersion
  require (row.status = .running ∧ row.controlIntent = .cancelRequested)
    (.cancelConfirmation "job does not have an active cancel request")
  let (updated, graph) ← ledger.cancelJob row reason lease now none "job_cancel_confirmed" true
  let record ← jobFromRow updated
  pure (record, { ledger with toJobGraph := graph })

end

end Ledger

end RQuant.Lab
