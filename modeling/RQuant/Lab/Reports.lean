import RQuant.Lab.Recovery

/-!
# Lab jobs: worker reports

A worker reports on the claim it holds.  A report is accepted when the claim is
the shard's current one, has not expired and was made under the scheduler that
applies the report.  Every report is applied once; its receipt is stored.
-/

namespace RQuant.Lab

open Foundation

def ShardRow.heartbeat (row : ShardRow) (expiresAt now : Time) : ShardRow :=
  { row with
    heartbeatAt := some now, leaseExpiresAt := some expiresAt, version := row.version + 1,
    updatedAt := now }

def definitionFromShardRow (digests : LabDigests) (row : ShardRow) :
    Except LabError LabShardDefinition := do
  require (digests.ValidDefinition row.definition)
    (.value "shard_id does not match deterministic shard definition")
  pure row.definition

def missingTime : LabError := .value "Invalid isoformat string: 'None'"

def LabWorkerReportBody.isStopped : LabWorkerReportBody → Bool
  | .stopped _ => true
  | _ => false

def LabWorkerReportBody.isSucceeded : LabWorkerReportBody → Bool
  | .succeeded _ _ _ => true
  | _ => false

def telemetryRejection (expected : Option LabShardWorkPlan)
    (reported : Option LabShardTelemetry) : Option String :=
  match expected, reported with
  | none, none => none
  | none, some _ => some "unexpected_shard_telemetry"
  | some _, none => some "missing_shard_telemetry"
  | some plan, some telemetry =>
    if telemetry.workPlan ≠ plan then some "shard_telemetry_plan_mismatch"
    else none

section

variable (digests : LabDigests) (policy : LabResultDigestPolicy)

def successRejection (body : LabWorkerReportBody) (job : JobRow) (shard : ShardRow) :
    Except LabError (Option String) :=
  match body with
  | .succeeded _ provenance telemetry => do
    let record ← jobFromRow job
    if ¬ provenanceSupported policy record.spec.codeSha provenance then
      pure (some "unsupported_result_digest_provenance")
    else do
      let definition ← definitionFromShardRow digests shard
      pure (telemetryRejection definition.workPlan telemetry)
  | _ => .ok none

def liveClaimRejection (report : LabWorkerReport) (job : JobRow) (shard : ShardRow)
    (now : Time) : Except LabError (Option String) := do
  let claimedAt ← orRaise missingTime shard.claimedAt
  let heartbeatAt ← orRaise missingTime shard.heartbeatAt
  if min now report.reportedAt < max claimedAt heartbeatAt then
    pure (some "backdated_report")
  else if job.controlIntent = .cancelRequested ∧ report.body.isStopped = false then
    pure (some "cancel_requested")
  else successRejection digests policy report.body job shard

def claimRejection (report : LabWorkerReport) (job : JobRow)
    (shard : ShardRow) (now : Time) : Option String :=
  if shard.schedulerFencingToken ≠ some report.schedulerFencingToken then
    some "stale_shard_fence"
  else if shard.status ≠ .running then
    some ("invalid_shard_state:" ++ shard.status.text)
  else if shard.workerId.getD "" ≠ report.workerId then
    some "stale_claim_worker"
  else if shard.claimToken ≠ some report.claimToken then
    some "stale_claim_token"
  else if shard.claimGeneration ≠ report.claimGeneration then
    some "stale_claim_generation"
  else if shard.leaseExpiresAt.all (fun expires => expires ≤ now) then
    some "claim_lease_expired"
  else if job.status ≠ .running then
    some ("invalid_job_state:" ++ job.status.text)
  else none

section

variable (report : LabWorkerReport) (lease : LabLeaseRecord) (job : JobRow) (shard : ShardRow)

def identityRejection : Option String :=
  if shard.jobId ≠ report.jobId then some "job_shard_mismatch"
  else if job.specHash ≠ report.specHash then some "spec_hash_mismatch"
  else if shard.definition.payloadHash ≠ report.payloadHash then
    some "payload_hash_mismatch"
  else if report.schedulerFencingToken ≠ lease.fencingToken then
    some "stale_scheduler_fence"
  else none

def workerReportRejectionReason (now : Time) : Except LabError (Option String) :=
  match identityRejection report lease job shard with
  | some reason => .ok (some reason)
  | none => do
    requireNullablePositive "lab_shard.scheduler_fencing_token" shard.schedulerFencingToken
    match claimRejection report job shard now with
    | some reason => pure (some reason)
    | none => liveClaimRejection digests policy report job shard now

end

end

namespace JobGraph

variable (graph : JobGraph)

def applyHeartbeatReport (shard : ShardRow) (leaseExtensionSeconds : ℕ)
    (now : Time) : Except LabError (String × JobGraph) := do
  let existing ← orRaise missingTime shard.leaseExpiresAt
  let (updated, _) ←
    graph.updateShards (unchangedShard shard)
      (fun stored => stored.heartbeat (max existing (now + seconds leaseExtensionSeconds)) now)
      (fun _ => rfl)
  pure ("heartbeat_extended", updated)

def completionSequences (jobId : Uuid) : List ℕ :=
  ((graph.shardsOf jobId).filter fun shard =>
    shard.status = .succeeded).filterMap ShardRow.completionSequence

def nextCompletionSequence (jobId : Uuid) : Option LabShardTelemetry → Except LabError (Option ℕ)
  | none => .ok none
  | some _ => do
    let latest := (graph.completionSequences jobId).foldl max 0
    require (graph.completionSequences jobId = [] ∨ 1 ≤ latest)
      (.invalidStored ("lab_shard.max_completion_sequence must be >= 1, " ++
        "found " ++ toString latest))
    pure (some (latest + 1))

def markResultReady (job : JobRow) (lease : LabLeaseRecord) (now : Time) :
    Except LabError JobGraph := do
  requireNullablePositive "lab_job.scheduler_fencing_token" job.schedulerFencingToken
  require (job.schedulerFencingToken = some lease.fencingToken) foreignFence
  let (updated, hit) ←
    graph.updateJob .none job.jobId
      (fun stored => stored.version = job.version && stored.status = .running)
      (fun stored =>
        { stored with
          controlIntent := .none, resultState := .ready, version := job.version + 1,
          updatedAt := now })
  require (hit = true) (.staleJobVersion "job changed while marking result ready")
  pure
    (updated.insertEvent job.jobId none "job_result_ready" (some .running)
      .running (job.version + 1)
      "all shards succeeded; complete result artifact required"
      lease.fencingToken now)

def concludeSuccess (job : JobRow) (lease : LabLeaseRecord) (now : Time) :
    Except LabError JobGraph :=
  if ∀ shard ∈ graph.shardsOf job.jobId, shard.status = .succeeded then
    if job.resultContractVersion = some completeResultContractVersion then
      graph.markResultReady job lease now
    else do
      let (_, failed) ←
        graph.transitionInTransaction job .failed lease
          ("all shards succeeded but the legacy result contract cannot " ++
            "produce a complete artifact")
          now none (some false) "job_failed_legacy_result_contract" false
      pure failed
  else if job.controlIntent = .pauseRequested ∧ graph.activeShardCount job.jobId = 0 then do
    let (_, paused) ←
      graph.transitionInTransaction job .checkpointed lease
        "pause boundary reached" now none none "job_checkpointed" false
    pure paused
  else .ok graph

def applySucceededReport (resultManifestHash : Digest)
    (telemetry : Option LabShardTelemetry) (lease : LabLeaseRecord)
    (job : JobRow) (shard : ShardRow) (now : Time) :
    Except LabError (String × JobGraph) := do
  let sequence ← graph.nextCompletionSequence job.jobId telemetry
  let (updated, terminalized) ←
    graph.terminalizeClaimedShard shard .succeeded now
      (some resultManifestHash) none telemetry sequence
  require (terminalized = true) .assertion
  let concluded ← updated.concludeSuccess job lease now
  pure ("shard_succeeded", concluded)

def applyFailedReport (failureJson : String) (lease : LabLeaseRecord)
    (job : JobRow) (shard : ShardRow) (now : Time) :
    Except LabError (String × JobGraph) := do
  requirePositive "lab_shard.max_attempts" shard.maxAttempts
  if shard.maxAttempts ≤ shard.attemptCount then do
    let (_, failed) ←
      graph.failJobTreeAfterAttemptsExhausted job shard.definition.shardId
        lease now "worker reported exhausted shard failure"
    pure ("shard_failed_attempts_exhausted", failed)
  else do
    let (_, failed) ←
      graph.failJobTree job shard.definition.shardId failureJson
        parentRecoverableFailureJson true lease now
        "worker reported shard failure"
    pure ("shard_failed", failed)

section

variable (lease : LabLeaseRecord) (job : JobRow) (shard : ShardRow) (now : Time)

def stopCancelled : Except LabError (String × JobGraph) := do
  let (updated, terminalized) ←
    graph.terminalizeClaimedShard shard .cancelled now none none none none
  require (terminalized = true) .assertion
  let (ended, _) ← updated.terminalizeNonterminalShards job.jobId .cancelled now
  if ended.activeShardCount job.jobId = 0 then do
    let (_, cancelled) ←
      ended.transitionInTransaction job .cancelled lease
        "all worker claims stopped" now none none "job_cancel_confirmed" true
    pure ("worker_stopped_cancelled", cancelled)
  else pure ("worker_stopped_cancelled", ended)

/-- A worker stops and its shard goes back to the queue. -/
def stopRequeued : Except LabError (String × JobGraph) := do
  let (updated, _) ←
    graph.updateShards (unchangedShard shard) (fun stored => stored.requeued now)
      (ShardRow.key_requeued now)
  if job.controlIntent = .pauseRequested ∧ updated.activeShardCount job.jobId = 0 then do
    let (_, paused) ←
      updated.transitionInTransaction job .checkpointed lease
        "worker stopped at pause boundary" now none none "job_checkpointed"
        false
    pure ("worker_stopped", paused)
  else pure ("worker_stopped", updated)

def applyWorkerStoppedReport : Except LabError (String × JobGraph) :=
  if job.controlIntent = .cancelRequested then
    graph.stopCancelled lease job shard now
  else do
    requirePositive "lab_shard.max_attempts" shard.maxAttempts
    if shard.maxAttempts ≤ shard.attemptCount then do
      let (_, failed) ←
        graph.failJobTreeAfterAttemptsExhausted job shard.definition.shardId
          lease now "shard attempts exhausted after worker stopped"
      pure ("worker_stopped_attempts_exhausted", failed)
    else graph.stopRequeued lease job shard now

end

def applyWorkerReportBody (body : LabWorkerReportBody)
    (lease : LabLeaseRecord) (job : JobRow) (shard : ShardRow) (now : Time) :
    Except LabError (String × JobGraph) :=
  match body with
  | .heartbeat extension => graph.applyHeartbeatReport shard extension now
  | .succeeded manifest _ telemetry =>
    graph.applySucceededReport manifest telemetry lease job shard now
  | .failed failureJson => graph.applyFailedReport failureJson lease job shard now
  | .stopped _ => graph.applyWorkerStoppedReport lease job shard now

end JobGraph

def LabDigests.reportReceipt (digests : LabDigests) (report : LabWorkerReport)
    (status : ReceiptStatus) (reason : String) (now : Time) :
    LabReportReceipt where
  reportId := report.reportId
  contentHash := digests.reportHash report
  status := status
  reason := reason
  acceptedAt := now

namespace Ledger

variable (ledger : Ledger) (digests : LabDigests)

def reportRow (reportId : Uuid) : Option WorkerReportRow :=
  findKey WorkerReportRow.reportId reportId ledger.reports

def recordReport (report : LabWorkerReport) (status : ReceiptStatus)
    (reason : String) (now : Time) (graph : JobGraph) :
    LabReportReceipt × Ledger :=
  let receipt := digests.reportReceipt report status reason now
  (receipt,
    { ledger with
      toJobGraph := graph
      reports := ledger.reports ++
        [{ reportId := report.reportId
           contentHash := digests.reportHash report
           report := report
           receipt := receipt
           appliedAt := now }] })

/-- A report whose job or shard is not there, or that is rejected. -/
def rejectReport (report : LabWorkerReport) (reason : String) (now : Time) :
    LabReportReceipt × Ledger :=
  ledger.recordReport digests report .rejected reason now ledger.toJobGraph

section

variable (policy : LabResultDigestPolicy) (report : LabWorkerReport) (lease : LabLeaseRecord)

def applyFreshReport (now : Time) : Except LabError (LabReportReceipt × Ledger) :=
  match ledger.jobRow report.jobId, ledger.shardRow report.jobId report.shardId with
  | none, _ => .ok (ledger.rejectReport digests report "job_not_found" now)
  | some _, none => .ok (ledger.rejectReport digests report "shard_not_found" now)
  | some job, some shard => do
    let rejection ← workerReportRejectionReason digests policy report lease job shard now
    match rejection with
    | some reason => pure (ledger.rejectReport digests report reason now)
    | none => do
      let (reason, graph) ← ledger.applyWorkerReportBody report.body lease job shard now
      pure (ledger.recordReport digests report .accepted reason now graph)

def applyWorkerReport (now : Time) : Except LabError (LabReportReceipt × Ledger) := do
  require (digests.ValidReport report) (.value "invalid worker report")
  ledger.validateLease lease now
  match ledger.reportRow report.reportId with
  | some row => do
    require (row.contentHash = digests.reportHash report)
      (.contentConflict ("report_id " ++ uuidText report.reportId ++
        " already has different content"))
    pure (row.receipt, ledger)
  | none => ledger.applyFreshReport digests policy report lease now

end

end Ledger

end RQuant.Lab
