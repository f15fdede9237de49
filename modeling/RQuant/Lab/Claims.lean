import RQuant.Lab.Reports

/-!
# Lab jobs: claims

Stale claims of the first payload protocol are taken over in place; otherwise
the jobs are visited in the order of their submission, starting after the last
claim, and every fourth claim follows a second cursor.  A claim of the second
protocol also needs an approval.
-/

namespace RQuant.Lab

open Foundation

/-- `_V2PreclaimSnapshotIdentity`. -/
structure PreclaimIdentity where
  (jobId shardId : Uuid)
  payloadHash : Digest
  (shardVersion attemptCount : ℕ)
  specHash : Digest
  claimGeneration : ℕ
  workerId : String
  schedulerFencingToken : ℕ
  (sourceWaitDeadline publicationDeadline : Option Time)
  sourceStageAuthorityHash : Option Digest
  deriving DecidableEq

structure LabPreclaimRejection where
  (jobId shardId : Uuid)
  payloadHash : Digest
  reason : String
  deriving DecidableEq

/-- What the prevalidation of candidates found, before the transaction. -/
structure Prevalidation where
  eligible : List PreclaimIdentity
  rejections : List LabPreclaimRejection
  deriving DecidableEq

/-- The arguments of `claim_next_shard`.  `sourceStageAuthority` is the hash of
the authority of the source stage store; `claimToken` is the fresh UUID. -/
structure ClaimRequest where
  workerId : String
  shardLeaseSeconds : ℤ
  allowedProtocols : List PayloadProtocol
  sourceStageAuthority : Option Digest
  (sourceWaitDeadline publicationDeadline : Option Time)
  prevalidation : Option Prevalidation
  claimToken : Uuid
  deriving DecidableEq

structure LabClaimSelection where
  claim : Option LabShardClaim
  rejections : List LabPreclaimRejection
  deriving DecidableEq

inductive AttemptOutcome where
  | claimed (claim : LabShardClaim)
  | rejected (rejection : LabPreclaimRejection)
  | skipped
  deriving DecidableEq

def AttemptOutcome.claim? : AttemptOutcome → Option LabShardClaim
  | .claimed claim => some claim
  | .rejected _ => none
  | .skipped => none

section

variable (request : ClaimRequest)

/-- The name of the worker, without surrounding white space. -/
def ClaimRequest.worker : String := strip request.workerId

def ClaimRequest.expiresAt (now : Time) : Time :=
  now + seconds request.shardLeaseSeconds

def ShardRow.claimed (row : ShardRow) (claim : LabShardClaim) (attemptCount : ℕ) : ShardRow :=
  { row with
    status := .running, version := row.version + 1, attemptCount, workerId := some claim.workerId,
    schedulerFencingToken := some claim.schedulerFencingToken, claimToken := some claim.claimToken,
    claimGeneration := claim.claimGeneration, claimedAt := some claim.claimedAt,
    heartbeatAt := some claim.claimedAt, leaseExpiresAt := some claim.leaseExpiresAt,
    resultManifestHash := none, failureJson := none, finishedAt := none,
    updatedAt := claim.claimedAt }

/-- `_v2_preclaim_snapshot_identity`. -/
def preclaimIdentity (lease : LabLeaseRecord)
    (job : JobRow) (row : ShardRow) : PreclaimIdentity where
  jobId := job.jobId
  shardId := row.definition.shardId
  payloadHash := row.definition.payloadHash
  shardVersion := row.version
  attemptCount := row.attemptCount
  specHash := job.specHash
  claimGeneration := row.claimGeneration + 1
  workerId := request.worker
  schedulerFencingToken := lease.fencingToken
  sourceWaitDeadline := request.sourceWaitDeadline
  publicationDeadline := request.publicationDeadline
  sourceStageAuthorityHash := request.sourceStageAuthority

def preclaimRejection (row : ShardRow) : LabPreclaimRejection where
  jobId := row.jobId
  shardId := row.definition.shardId
  payloadHash := row.definition.payloadHash
  reason := "source_preclaim_rejected"

def publicationOutlivesClaim : LabError :=
  .value "publication_deadline must not exceed shard lease expiry"

/-- The source store and the deadlines that a claim of the second protocol
needs. -/
def checkExternalDeadlines (now : Time) : Except LabError Unit := do
  require (request.sourceStageAuthority.isSome = true)
    (.value "v2 claim requires an exact source_stage_store")
  let source ←
    orRaise (.value "v2 claim requires explicit source and publication deadlines")
      request.sourceWaitDeadline
  let publication ←
    orRaise (.value "v2 claim requires explicit source and publication deadlines")
      request.publicationDeadline
  require (now < source) (.value "source_wait_deadline must be after claim time")
  require (source ≤ publication)
    (.value "source_wait_deadline must not exceed publication_deadline")
  require (publication ≤ request.expiresAt now) publicationOutlivesClaim

def checkSource (now : Time) : PayloadProtocol → Except LabError Unit
  | .v1 => .ok ()
  | .v2 => checkExternalDeadlines request now

/-- The candidate was approved beforehand, or no approval is needed. -/
def ClaimRequest.Approves (lease : LabLeaseRecord)
    (job : JobRow) (row : ShardRow) : Prop :=
  ∀ prevalidation ∈ request.prevalidation,
    preclaimIdentity request lease job row ∈ prevalidation.eligible
deriving Decidable

def attemptClaim (lease : LabLeaseRecord)
    (now : Time) (job : JobRow) (row : ShardRow) : LabShardClaim where
  jobId := job.jobId
  specHash := job.specHash
  definition := row.definition
  workerId := request.worker
  claimToken := request.claimToken
  claimGeneration := row.claimGeneration + 1
  schedulerFencingToken := lease.fencingToken
  claimedAt := now
  leaseExpiresAt := request.expiresAt now

end

namespace JobGraph

variable (graph : JobGraph)

/-- `_create_held_claim_publication_in_transaction`: an attempt is published
once. -/
def holdPublication (row : ClaimPublicationRow) : Except LabError JobGraph :=
  match findKey ClaimPublicationRow.attemptId row.attemptId graph.publications with
  | some existing => do
    require (existing = row) (.publicationConflict "attempt_content_conflict")
    pure graph
  | none => do
    require ((graph.shardRow row.jobId row.shardId).isSome = true)
      (.integrity "FOREIGN KEY constraint failed")
    pure (graph.addPublication row)

def publishClaim (claim : LabShardClaim) : Except LabError JobGraph :=
  match claim.definition.payload.protocol with
  | .v1 => .ok graph
  | .v2 =>
    graph.holdPublication
      { attemptId := claim.claimToken, jobId := claim.jobId, shardId := claim.definition.shardId,
        claimGeneration := claim.claimGeneration,
        schedulerFencingToken := claim.schedulerFencingToken, workerId := claim.workerId }

/-- The job of a claim runs under the scheduler that hands out the claim. -/
def startJob (job : JobRow) (lease : LabLeaseRecord) (now : Time) :
    Except LabError (JobRow × JobGraph) :=
  if job.status = .queued then
    graph.transitionInTransaction job .running lease "first shard claimed" now
      none none "job_started" false
  else graph.takeOver job lease now

/-- The row that an attempt claims, if it is still as it was read. -/
def claimableRow (source : ShardStatus) (lease : LabLeaseRecord) (now : Time)
    (row stored : ShardRow) : Bool :=
  unchangedShard row stored && stored.status = source &&
    (source ≠ .running ||
      (stored.payloadProtocolVersion = .v1 &&
        stored.attemptCount < stored.maxAttempts && stored.stale lease now))

/-- The savepoint of a claim: the job, the shard and the publication.  Without
a row to claim everything is as before. -/
def claimShard (source : ShardStatus) (claim : LabShardClaim)
    (lease : LabLeaseRecord) (now : Time) (job : JobRow) (row : ShardRow) :
    Except LabError (Option JobGraph) := do
  let (_, started) ← graph.startJob job lease now
  let (claimed, count) ←
    started.updateShards (claimableRow source lease now row)
      (fun stored => stored.claimed claim (row.attemptCount + 1))
      (fun _ => rfl)
  if count ≠ 1 then pure none
  else do
    let published ← claimed.publishClaim claim
    pure (some published)

end JobGraph

namespace Ledger

variable (ledger : Ledger) (digests : LabDigests) (request : ClaimRequest)
  (lease : LabLeaseRecord) (now : Time)

def storePreclaimCursor (position : ShardCursor) (useFairCursor : Bool) : Ledger :=
  let sequence := (ledger.claimCursor.map ClaimCursor.sequence).getD 0 + 1
  if useFairCursor then
    { ledger with
      claimCursor := ledger.claimCursor.map fun cursor => { cursor with sequence := sequence }
      fairCursor := some position }
  else { ledger with claimCursor := some ⟨position, sequence⟩ }

def AttemptOpen (source : ShardStatus) (job : JobRow) (row : ShardRow) : Prop :=
  row.status = source ∧ row.attemptCount + 1 ≤ row.maxAttempts ∧
    (job.status = .queued ∨ job.status = .running) ∧
    job.controlIntent = .none ∧ now < job.deadline

instance (source : ShardStatus) (job : JobRow) (row : ShardRow) :
    Decidable (AttemptOpen now source job row) :=
  inferInstanceAs (Decidable (_ ∧ _))

section

variable (useFairCursor : Bool) (source : ShardStatus) (job : JobRow) (row : ShardRow)

def makeClaim : Except LabError (AttemptOutcome × Ledger) := do
  let claim := attemptClaim request lease now job row
  let claimed ← ledger.claimShard source claim lease now job row
  match claimed with
  | none => pure (.skipped, ledger)
  | some graph =>
    pure
      (.claimed claim,
        { ledger with toJobGraph := graph }.storePreclaimCursor
          ⟨job.createdAt, job.jobId, row.definition.shardIndex,
            row.definition.shardId⟩ useFairCursor)

/-- `_claim_eligible_attempt_in_transaction`. -/
def claimEligibleAttempt : Except LabError (AttemptOutcome × Ledger) := do
  let definition ← definitionFromShardRow digests row
  if definition.payload.protocol = .v2 ∧ ¬ request.Approves lease job row then
    pure (.rejected (preclaimRejection row), ledger)
  else do
    checkSource request now definition.payload.protocol
    requirePositive "lab_shard.max_attempts" row.maxAttempts
    if AttemptOpen now source job row then
      ledger.makeClaim request lease now useFairCursor source job row
    else pure (.skipped, ledger)

end

def claimableJob (job : JobRow) : Bool :=
  (job.status = .queued || job.status = .running) && job.controlIntent = .none && now < job.deadline

/-- `_queued_attempt_protocol_predicate`. -/
def protocolAllowed (row : ShardRow) : Bool :=
  row.payloadProtocolVersion ∈ request.allowedProtocols &&
    request.prevalidation.all fun prevalidation =>
      row.payloadProtocolVersion = .v1 ||
        prevalidation.eligible.any fun identity =>
          identity.jobId = row.jobId && identity.shardId = row.definition.shardId

def queuedCandidate (row : ShardRow) : Bool :=
  row.status = .queued && protocolAllowed request row && row.attemptCount < row.maxAttempts

def afterShard (position : Option ShardCursor) (row : ShardRow) : Bool :=
  position.all fun cursor =>
    toLex (cursor.shardIndex, cursor.shardId) <
      toLex (row.definition.shardIndex, row.definition.shardId)

/-- The shards of a job that may be claimed, in the order of the plan. -/
def candidateRows (position : Option ShardCursor) (jobId : Uuid) (limit : ℕ) : List ShardRow :=
  (sortOn (fun row : ShardRow => toLex (row.definition.shardIndex, row.definition.shardId))
    ((ledger.shardsOf jobId).filter fun row =>
      queuedCandidate request row && afterShard position row)).take limit

def firstJob (property : JobRow → Bool) : Option JobRow :=
  (JobGraph.bySubmission
    (ledger.jobs.filter fun job =>
      claimableJob now job && (ledger.shardsOf job.jobId).any (queuedCandidate request) &&
        property job)).head?

def afterJob (createdAt : Time) (jobId : Uuid) (job : JobRow) : Bool :=
  toLex (createdAt, jobId) < toLex (job.createdAt, job.jobId)

def cursorJob (cursor : ShardCursor) : Option JobRow :=
  (ledger.jobRow cursor.jobId).filter fun job =>
    job.createdAt = cursor.createdAt && claimableJob now job &&
      (ledger.shardsOf job.jobId).any fun row =>
        queuedCandidate request row && afterShard (some cursor) row

/-- The next job, and where to start among its shards. -/
def jobCandidate (cursor : Option ShardCursor) : Option (JobRow × Option ShardCursor) :=
  match cursor with
  | none => (ledger.firstJob request now fun _ => true).map fun job => (job, none)
  | some position =>
    match ledger.cursorJob request now position with
    | some job => some (job, some position)
    | none =>
      ((ledger.firstJob request now (afterJob position.createdAt position.jobId)).or
        (ledger.firstJob request now fun _ => true)).map fun job => (job, none)

/-- `_stale_v1_attempt_plans`, of which the first is used. -/
def staleAttempt : Option (ShardRow × JobRow) := do
  let row ←
    (sortOn ShardRow.planOrder
      (ledger.shards.filter fun row =>
        row.status = .running && row.payloadProtocolVersion = .v1 &&
          PayloadProtocol.v1 ∈ request.allowedProtocols &&
          row.attemptCount < row.maxAttempts &&
          ledger.jobOf row (claimableJob now) && row.stale lease now)).head?
  let job ← ledger.jobRow row.jobId
  pure (row, job)

/-- While the second cursor is followed, stale claims come last. -/
def fairStaleAttempt (useFairCursor : Bool) : Option (ShardRow × JobRow) :=
  if useFairCursor then ledger.staleAttempt request lease now else none

/-! ## The call -/

/-- The outcome of a series of attempts: what the call returns, if one of them
settled it, with the rejections before it and whether an attempt was put off
because its publication would outlive the claim. -/
abbrev AttemptSeries := Option (Option LabShardClaim × Ledger) × List LabPreclaimRejection × Bool

def tryRows (deferring useFairCursor : Bool) (job : JobRow) :
    List ShardRow → Except LabError AttemptSeries
  | [] => .ok (none, [], false)
  | row :: rest =>
    match ledger.claimEligibleAttempt digests request lease now useFairCursor .queued job row with
    | .ok (.claimed claim, next) => .ok (some (some claim, next), [], false)
    | .ok (.skipped, next) => .ok (some (none, next), [], false)
    | .ok (.rejected rejection, _) => do
      let (settled, rejections, deferred) ← tryRows deferring useFairCursor job rest
      pure (settled, rejection :: rejections, deferred)
    | .error raised =>
      if deferring = true ∧ raised = publicationOutlivesClaim then do
        let (settled, rejections, _) ← tryRows deferring useFairCursor job rest
        pure (settled, preclaimRejection row :: rejections, true)
      else .error raised

def claimStale (useFairCursor : Bool) (rejections : List LabPreclaimRejection)
    (plan : Option (ShardRow × JobRow)) :
    Except LabError (LabClaimSelection × Ledger) :=
  match plan with
  | none => .ok (⟨none, rejections⟩, ledger)
  | some (row, job) => do
    let (outcome, next) ←
      ledger.claimEligibleAttempt digests request lease now useFairCursor .running job row
    pure (⟨outcome.claim?, rejections⟩, next)

/-- After the candidates of one job are rejected: those of the next job, then a
stale claim. -/
def claimElsewhere (useFairCursor deferred : Bool) (job : JobRow)
    (tried : ℕ) (rejections : List LabPreclaimRejection) :
    Except LabError (LabClaimSelection × Ledger) :=
  if tried < preclaimCandidateBatchSize then
    match
      (ledger.firstJob request now (afterJob job.createdAt job.jobId)).or
        (ledger.firstJob request now fun other => other.jobId ≠ job.jobId) with
    | none => do
      require (deferred = false) publicationOutlivesClaim
      ledger.claimStale digests request lease now useFairCursor rejections
        (ledger.fairStaleAttempt request lease now useFairCursor)
    | some next => do
      let (settled, more, _) ←
        ledger.tryRows digests request lease now false useFairCursor next
          (ledger.candidateRows request none next.jobId (preclaimCandidateBatchSize - tried))
      match settled with
      | some (claim, final) => pure (⟨claim, rejections ++ more⟩, final)
      | none =>
        ledger.claimStale digests request lease now useFairCursor (rejections ++ more)
          (ledger.fairStaleAttempt request lease now useFairCursor)
  else
    ledger.claimStale digests request lease now useFairCursor rejections
      (ledger.fairStaleAttempt request lease now useFairCursor)

def claimQueued (useFairCursor : Bool) (job : JobRow) (position : Option ShardCursor)
    (rejections : List LabPreclaimRejection) :
    Except LabError (LabClaimSelection × Ledger) := do
  let rows := ledger.candidateRows request position job.jobId preclaimCandidateBatchSize
  require (rows ≠ []) (.invalidStored "claimable job has no claimable shard")
  let (settled, more, deferred) ←
    ledger.tryRows digests request lease now true useFairCursor job rows
  match settled with
  | some (claim, final) => pure (⟨claim, rejections ++ more⟩, final)
  | none =>
    ledger.claimElsewhere digests request lease now useFairCursor deferred
      job rows.length (rejections ++ more)

/-- The choice between stale claims and waiting shards. -/
def selectClaim (rejections : List LabPreclaimRejection) :
    Except LabError (LabClaimSelection × Ledger) :=
  let useFairCursor :=
    ledger.claimCursor.any fun cursor =>
      cursor.sequence % preclaimFairScanInterval = preclaimFairScanInterval - 1
  let cursor :=
    if useFairCursor then ledger.fairCursor
    else ledger.claimCursor.map ClaimCursor.position
  let stale := ledger.staleAttempt request lease now
  if useFairCursor = false ∧ stale.isSome then
    ledger.claimStale digests request lease now useFairCursor rejections stale
  else
    match ledger.jobCandidate request now cursor with
    | none =>
      ledger.claimStale digests request lease now useFairCursor rejections
        (ledger.fairStaleAttempt request lease now useFairCursor)
    | some (job, position) =>
      ledger.claimQueued digests request lease now useFairCursor job position rejections

/-- The worker still holds a claim under this scheduler. -/
def activeWorker : Bool :=
  ledger.shards.any fun row =>
    row.status = .running && row.workerId = some request.worker &&
      row.schedulerFencingToken = some lease.fencingToken &&
      row.leaseExpiresAt.any fun expires => now < expires

def claimNextShard : Except LabError (LabClaimSelection × Ledger) := do
  require (¬ Blank request.workerId) (.value "worker_id must not be empty")
  require (1 ≤ request.shardLeaseSeconds) (.value "shard_lease_seconds must be positive")
  require (request.allowedProtocols ≠ [])
    (.value "allowed_payload_protocol_versions must contain only 1 or 2")
  ledger.validateLease lease now
  let rejections := (request.prevalidation.map Prevalidation.rejections).getD []
  if ledger.activeWorker request lease now then
    pure (⟨none, rejections⟩, ledger)
  else ledger.selectClaim digests request lease now rejections

def createHeldClaimPublication (row : ClaimPublicationRow) : Except LabError (Unit × Ledger) := do
  ledger.validateLease lease now
  require (row.schedulerFencingToken = lease.fencingToken)
    (.leaseFenced "publication_fence_conflict")
  let graph ← ledger.holdPublication row
  pure ((), { ledger with toJobGraph := graph })

end Ledger

end RQuant.Lab
