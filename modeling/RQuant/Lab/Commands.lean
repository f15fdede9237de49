import RQuant.Lab.Jobs

/-!
# Lab jobs: commands

Commands are applied once per request.  A command that does not fit the state
of its job is answered with a rejection, and the rejection is recorded too.
-/

namespace RQuant.Lab

open Foundation

def LabDigests.commandReceipt (digests : LabDigests)
    (envelope : LabCommandEnvelope) (status : CommandStatus)
    (reason : String) (jobVersion : Option ℕ) : LabCommandReceipt where
  requestId := envelope.requestId
  contentHash := digests.commandHash envelope.command
  jobId := envelope.command.jobId
  status := status
  reason := reason
  jobVersion := jobVersion

namespace JobGraph

variable (graph : JobGraph) (digests : LabDigests) (envelope : LabCommandEnvelope)

/-- `_receipt_for_rejection`: nothing changes. -/
def rejectCommand (reason : String) (jobVersion : Option ℕ) :
    Except LabError (LabCommandReceipt × JobGraph) :=
  .ok (digests.commandReceipt envelope .rejected reason jobVersion, graph)

/-- The receipt of a command that left the job as `changed` says. -/
def acceptCommand (reason : String) (changed : Except LabError (JobRow × JobGraph)) :
    Except LabError (LabCommandReceipt × JobGraph) := do
  let (updated, next) ← changed
  pure (digests.commandReceipt envelope .applied reason (some updated.version), next)

def insertJob (row : JobRow) : Except LabError JobGraph :=
  if fresh : row.jobId ∉ graph.jobs.map JobRow.jobId then
    .ok (graph.addJob row fresh)
  else .error (.integrity "UNIQUE constraint failed: lab_job.job_id")

def submittedRow (jobId : Uuid) (spec : ResearchRunSpec) (maxAttempts : ℕ)
    (now : Time) : JobRow where
  jobId := jobId
  spec := spec
  specHash := spec.specHash
  jobType := spec.jobType
  resourceClass := spec.resourceClass
  deadline := spec.deadline
  status := .queued
  controlIntent := .none
  version := 0
  attemptCount := 0
  maxAttempts := maxAttempts
  recoverable := false
  schedulerFencingToken := none
  resultContractVersion := none
  requiresCompleteResult := true
  resultState := .pending
  createdAt := now
  updatedAt := now

def submissionRefusal (spec : ResearchRunSpec) : Option String :=
  if spec.schemaVersion ≠ 2 ∧ spec.schemaVersion ≠ 3 then
    some "unsupported_spec_version"
  else if spec.schemaVersion = 3 ∧ spec.catalogOwnerEligible = false then
    some "v3_catalog_owner_identity_required"
  else if spec.schemaVersion = 2 ∧ spec.researchStatus ≠ .exploratory then
    some "v2_formal_requires_exploratory_migration"
  else none

def submissionReason (spec : ResearchRunSpec) : String :=
  if spec.schemaVersion = 3 then "submitted_v3_owned"
  else "submitted_legacy_v2_exploratory_non_owner"

section

variable (jobId : Uuid) (spec : ResearchRunSpec) (maxAttempts : ℕ) (lease : LabLeaseRecord)

def submitJob (now : Time) : Except LabError JobGraph := do
  let added ← graph.insertJob (submittedRow jobId spec maxAttempts now)
  pure
    (added.insertEvent jobId (some envelope.requestId) "job_submitted" none
      .queued 0 (submissionReason spec) lease.fencingToken now)

def applySubmitCommand (now : Time) : Except LabError (LabCommandReceipt × JobGraph) :=
  match submissionRefusal spec with
  | some reason => graph.rejectCommand digests envelope reason none
  | none =>
    match graph.jobRow jobId with
    | some existing => graph.rejectCommand digests envelope "job_id_reused" (some existing.version)
    | none => do
      let next ← graph.submitJob envelope jobId spec maxAttempts lease now
      pure (digests.commandReceipt envelope .applied (submissionReason spec) (some 0), next)

end

/-- The answer to a command that the state of the job does not allow. -/
def invalidState (row : JobRow) : Except LabError (LabCommandReceipt × JobGraph) :=
  graph.rejectCommand digests envelope ("invalid_state:" ++ row.status.text) (some row.version)

def Idle (jobId : Uuid) : Prop := graph.shardsOf jobId ≠ [] ∧ graph.activeShardCount jobId = 0
deriving Decidable

section

variable (row : JobRow) (reason : String) (lease : LabLeaseRecord) (now : Time)

def applyCancelCommand : Except LabError (LabCommandReceipt × JobGraph) :=
  if ¬ row.status.Open then graph.invalidState digests envelope row
  else if row.status = .running then
    if graph.Idle row.jobId then
      acceptCommand digests envelope "cancelled"
        (graph.cancelJob row reason lease now (some envelope.requestId) "job_cancelled" true)
    else
      acceptCommand digests envelope "cancel_requested"
        (graph.setControlIntentInTransaction row .cancelRequested lease reason
          now envelope.requestId)
  else
    acceptCommand digests envelope "cancelled"
      (graph.cancelJob row reason lease now (some envelope.requestId) "job_cancelled" false)

def applyPauseCommand : Except LabError (LabCommandReceipt × JobGraph) :=
  if row.status ≠ .running then graph.invalidState digests envelope row
  else if row.resultState = .ready then
    graph.rejectCommand digests envelope
      ("invalid_result_state:" ++ row.resultState.text) (some row.version)
  else if row.controlIntent ≠ .none then
    graph.rejectCommand digests envelope
      ("invalid_intent:" ++ row.controlIntent.text) (some row.version)
  else if graph.Idle row.jobId then
    acceptCommand digests envelope "checkpointed"
      (graph.transitionInTransaction row .checkpointed lease reason now
        (some envelope.requestId) none "job_checkpointed" false)
  else
    acceptCommand digests envelope "pause_requested"
      (graph.setControlIntentInTransaction row .pauseRequested lease reason now envelope.requestId)

def applyResumeCommand : Except LabError (LabCommandReceipt × JobGraph) :=
  if row.status = .running ∧ row.controlIntent = .pauseRequested then
    acceptCommand digests envelope "pause_withdrawn"
      (graph.setControlIntentInTransaction row .none lease reason now envelope.requestId)
  else if row.status ≠ .checkpointed then
    graph.invalidState digests envelope row
  else
    acceptCommand digests envelope "resumed"
      (graph.transitionInTransaction row .running lease reason now
        (some envelope.requestId) none "job_resumed" false)

end

/-- A failed job whose shards have used up their attempts can no longer be
retried. -/
def fenceRetry (row : JobRow) (lease : LabLeaseRecord) (now : Time) : Except LabError JobGraph := do
  let (updated, hit) ←
    graph.updateJob .none row.jobId
      (fun stored => stored.version = row.version && stored.status = .failed)
      (fun stored =>
        { stored with recoverable := false, version := row.version + 1, updatedAt := now })
  require (hit = true) (.staleJobVersion "failed job changed while fencing exhausted shard retry")
  pure
    (updated.insertEvent row.jobId (some envelope.requestId)
      "job_retry_rejected" (some .failed) .failed (row.version + 1)
      "shard attempts exhausted" lease.fencingToken now)

def unfinishedShard (jobId : Uuid) (stored : ShardRow) : Bool :=
  stored.jobId = jobId && stored.status ≠ .succeeded

section

variable (row : JobRow) (reason : String) (lease : LabLeaseRecord) (now : Time)

def retryJob : Except LabError JobGraph := do
  let (retried, _) ←
    graph.updateShards (unfinishedShard row.jobId) (fun stored => stored.retried now) (fun _ => rfl)
  let (updated, _) ←
    retried.updateJob (.retry row.jobId row.version (row.version + 1))
      row.jobId (fun stored => stored.version = row.version)
      (fun stored =>
        { stored with
          status := .queued, controlIntent := .none, version := row.version + 1,
          recoverable := false, schedulerFencingToken := none, resultState := .pending,
          updatedAt := now })
  pure
    (updated.insertEvent row.jobId (some envelope.requestId) "job_retried"
      (some row.status) .queued (row.version + 1) reason lease.fencingToken
      now)

def applyRetryCommand : Except LabError (LabCommandReceipt × JobGraph) :=
  if row.status ≠ .failed then graph.invalidState digests envelope row
  else if row.recoverable = false then
    graph.rejectCommand digests envelope "not_recoverable" (some row.version)
  else if graph.hasExhaustedShard row.jobId then do
    let next ← graph.fenceRetry envelope row lease now
    pure
      (digests.commandReceipt envelope .rejected "shard_attempts_exhausted"
          (some (row.version + 1)),
        next)
  else do
    requirePositive "lab_job.max_attempts" row.maxAttempts
    if row.maxAttempts ≤ row.attemptCount then
      graph.rejectCommand digests envelope "attempts_exhausted" (some row.version)
    else do
      let next ← graph.retryJob envelope row reason lease now
      pure (digests.commandReceipt envelope .applied "retried" (some (row.version + 1)), next)

end

def applyControl (jobId : Uuid) (expectedVersion : ℕ)
    (apply : JobRow → Except LabError (LabCommandReceipt × JobGraph)) :
    Except LabError (LabCommandReceipt × JobGraph) :=
  match graph.jobRow jobId with
  | none => graph.rejectCommand digests envelope "job_not_found" none
  | some row =>
    if row.version ≠ expectedVersion then
      graph.rejectCommand digests envelope
        ("stale_version:" ++ toString row.version) (some row.version)
    else apply row

def applyNewCommand (lease : LabLeaseRecord) (now : Time) :
    Except LabError (LabCommandReceipt × JobGraph) :=
  match envelope.command with
  | .submit jobId spec maxAttempts =>
    graph.applySubmitCommand digests envelope jobId spec maxAttempts lease now
  | .cancel jobId expectedVersion reason =>
    graph.applyControl digests envelope jobId expectedVersion fun row =>
      graph.applyCancelCommand digests envelope row reason lease now
  | .pause jobId expectedVersion reason =>
    graph.applyControl digests envelope jobId expectedVersion fun row =>
      graph.applyPauseCommand digests envelope row reason lease now
  | .resume jobId expectedVersion reason =>
    graph.applyControl digests envelope jobId expectedVersion fun row =>
      graph.applyResumeCommand digests envelope row reason lease now
  | .retry jobId expectedVersion reason =>
    graph.applyControl digests envelope jobId expectedVersion fun row =>
      graph.applyRetryCommand digests envelope row reason lease now

end JobGraph

namespace Ledger

variable (ledger : Ledger) (digests : LabDigests)

/-- The ownership check of formal submissions.  `submissionAuthority` is what
the validator of the caller says, if there is one. -/
def checkSubmission (command : LabCommand)
    (submissionAuthority : Option Bool) : Except LabError Unit :=
  match command with
  | .submit _ spec _ =>
    if spec.schemaVersion = 3 then do
      let accepted ←
        orRaise
          (.submissionAuthority
            ("formal v3 submission requires authoritative ownership " ++ "validation"))
          submissionAuthority
      require (accepted = true) (.submissionAuthority "formal submission is not authorized")
    else .ok ()
  | _ => .ok ()

def commandRow (requestId : Uuid) : Option CommandRow :=
  findKey CommandRow.requestId requestId ledger.commands

section

variable (envelope : LabCommandEnvelope) (lease : LabLeaseRecord) (now : Time)
  (submissionAuthority : Option Bool)

def applyFreshCommand : Except LabError (LabCommandReceipt × Ledger) := do
  checkSubmission envelope.command submissionAuthority
  let (receipt, graph) ← ledger.applyNewCommand digests envelope lease now
  pure
    (receipt,
      { ledger with
        toJobGraph := graph
        commands := ledger.commands ++
          [{ requestId := envelope.requestId
             contentHash := digests.commandHash envelope.command
             envelope := envelope
             receipt := receipt
             appliedAt := now }] })

def applyCommand : Except LabError (LabCommandReceipt × Ledger) := do
  require envelope.command.Valid (.value "invalid lab command")
  ledger.validateLease lease now
  match ledger.commandRow envelope.requestId with
  | some row => do
    require (row.contentHash = digests.commandHash envelope.command)
      (.contentConflict ("request_id " ++ uuidText envelope.requestId ++
        " already has different content"))
    pure (row.receipt, ledger)
  | none => ledger.applyFreshCommand digests envelope lease now submissionAuthority

end

end Ledger

end RQuant.Lab
