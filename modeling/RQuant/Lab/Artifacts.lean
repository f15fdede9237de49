import RQuant.Lab.Claims

/-!
# Lab jobs: artifact commits

A finalizer commits the sealed result of a job that is ready.  The commit, the
result index and the success of the job are one transaction, which is checked
once more before it ends.
-/

namespace RQuant.Lab

open Foundation

/-- The validators of an envelope: its claims are about its commit. -/
def LabDigests.ValidEnvelope (digests : LabDigests) (envelope : LabArtifactCommitEnvelope) : Prop :=
  envelope.claims.requestId = envelope.requestId ∧
    envelope.claims.commitContentHash = digests.commitHash envelope.commit ∧
    envelope.claims.jobId = envelope.commit.jobId ∧
    envelope.claims.specHash = envelope.commit.specHash ∧
    envelope.claims.finalizerCodeSha = envelope.commit.codeSha ∧
    envelope.claims.artifactManifestHash = envelope.commit.manifestHash ∧
    envelope.claims.completeResultHash = envelope.commit.completeResultHash

instance (digests : LabDigests) (envelope : LabArtifactCommitEnvelope) :
    Decidable (digests.ValidEnvelope envelope) :=
  inferInstanceAs (Decidable (_ ∧ _))

/-- `LabArtifactCommitReceipt.from_envelope`. -/
def LabDigests.commitReceipt (digests : LabDigests)
    (envelope : LabArtifactCommitEnvelope) (status : ReceiptStatus)
    (reason : String) (now : Time) (jobVersion : Option ℕ) :
    LabArtifactCommitReceipt where
  requestId := envelope.requestId
  contentHash := digests.envelopeHash envelope
  jobId := envelope.commit.jobId
  status := status
  reason := reason
  acceptedAt := now
  jobVersion := jobVersion

/-- `_artifact_binding_identity`: the evidence without its time. -/
def SameBinding (left right : LabArtifactIndexEvidence) : Prop :=
  { left with indexedAt := 0 } = { right with indexedAt := 0 }
deriving Decidable

def LabVerifiedSealedBinding.expectedEvidence
    (binding : LabVerifiedSealedBinding) : LabArtifactIndexEvidence where
  jobId := binding.manifest.jobId
  sealedPath := binding.manifest.sealedPath
  manifestHash := binding.manifest.manifestHash
  completeResultHash := binding.manifest.completeResultHash
  bundleDevice := binding.bundleDevice
  bundleInode := binding.bundleInode
  fileIdentities := binding.fileIdentities
  indexedAt := binding.evidence.indexedAt

namespace JobGraph

variable (graph : JobGraph)

def insertCommit (row : ArtifactCommitRow) : Except LabError JobGraph :=
  if fresh : row.requestId ∉ graph.commits.map ArtifactCommitRow.requestId then
    .ok (graph.addCommit row fresh)
  else
    .error (.integrity "UNIQUE constraint failed: lab_artifact_commit.request_id")

def insertArtifact (row : ResultArtifactRow) : Except LabError JobGraph :=
  if fresh : row.jobId ∉ graph.artifacts.map ResultArtifactRow.jobId then
    .ok (graph.addArtifact row fresh)
  else
    .error (.integrity "UNIQUE constraint failed: lab_job_result_artifact.job_id")

def commitRefusal (job : JobRow) (commit : LabArtifactCommit) (now : Time) : Option String :=
  if job.status ≠ .running then some ("invalid_state:" ++ job.status.text)
  else if job.resultState ≠ .ready then
    some ("invalid_result_state:" ++ job.resultState.text)
  else if job.controlIntent ≠ .none then
    some ("control_intent:" ++ job.controlIntent.text)
  else if job.deadline ≤ now then some "deadline_expired"
  else if job.requiresCompleteResult = false ∨
      job.resultContractVersion ≠ some completeResultContractVersion then
    some "job_contract_mismatch"
  else if ¬ (job.specHash = commit.specHash ∧ job.spec.codeSha = commit.codeSha ∧
      job.spec.datasetSnapshot = commit.datasetSnapshot ∧
      job.resultContractVersion = some commit.resultContractVersion) then
    some "job_identity_mismatch"
  else if ¬ graph.AllSucceeded job.jobId then some "shards_not_succeeded"
  else if ¬ ∀ shard ∈ graph.shardsOf job.jobId,
      shard.definition.planHash = commit.planHash ∧ shard.definition.adapterId = commit.adapterId ∧
        shard.definition.adapterVersion = commit.adapterVersion then
    some "shard_plan_identity_mismatch"
  else none

section

variable (digests : LabDigests) (envelope : LabArtifactCommitEnvelope)

def commitRowOf (receipt : LabArtifactCommitReceipt) (now : Time) : ArtifactCommitRow where
  requestId := envelope.requestId
  contentHash := digests.envelopeHash envelope
  envelope := envelope
  receipt := receipt
  appliedAt := now

/-- `_record_artifact_commit`, for a commit that does not seal its job. -/
def answerCommit (status : ReceiptStatus) (reason : String) (jobVersion : Option ℕ)
    (now : Time) : Except LabError (LabArtifactCommitReceipt × JobGraph) := do
  let receipt := digests.commitReceipt envelope status reason now jobVersion
  let recorded ← graph.insertCommit (commitRowOf digests envelope receipt now)
  pure (receipt, recorded)

/-- The commit, the result index and the success of the job. -/
def sealResult (binding : LabVerifiedSealedBinding) (job : JobRow)
    (lease : LabLeaseRecord) (now : Time) :
    Except LabError (LabArtifactCommitReceipt × JobGraph) := do
  let (receipt, recorded) ←
    graph.answerCommit digests envelope .accepted "artifact_committed" (some (job.version + 1)) now
  let indexed ←
    recorded.insertArtifact
      { jobId := envelope.commit.jobId, commitRequestId := envelope.requestId,
        evidence := binding.evidence }
  let (updated, hit) ←
    indexed.updateJob (.artifactSuccess job.jobId envelope.requestId job.version (job.version + 1))
      job.jobId
      (fun stored =>
        stored.version = job.version && stored.status = .running &&
          stored.resultState = .ready && stored.controlIntent = .none)
      (fun stored =>
        { stored with
          status := .succeeded, resultState := .sealed, version := job.version + 1,
          schedulerFencingToken := some lease.fencingToken, updatedAt := now })
  require (hit = true) (.staleJobVersion "job changed while committing complete result artifact")
  pure
    (receipt,
      updated.insertEvent job.jobId (some envelope.requestId)
        "job_result_sealed" (some .running) .succeeded (job.version + 1)
        "verified complete result artifact indexed" lease.fencingToken now)

end

end JobGraph

namespace Ledger

variable (ledger : Ledger) (digests : LabDigests)
  (envelope : LabArtifactCommitEnvelope) (binding : LabVerifiedSealedBinding)
  (lease : LabLeaseRecord) (now : Time)

def acceptedSuccesses (jobId : Uuid) : List WorkerReportRow :=
  ledger.reports.filter fun row =>
    row.report.jobId = jobId && row.receipt.status = .accepted && row.report.body.isSucceeded

def shardEvidence (shard : ShardRow) : Option FinalizerShardEvidence :=
  match (ledger.acceptedSuccesses shard.jobId).filter fun row =>
      row.report.shardId = shard.definition.shardId with
  | [row] =>
    some
      { shardIndex := shard.definition.shardIndex, shardId := shard.definition.shardId,
        payloadHash := shard.definition.payloadHash, planHash := shard.definition.planHash,
        resultManifestHash := shard.resultManifestHash,
        acceptedReportContentHash := row.contentHash, claimToken := row.report.claimToken,
        claimGeneration := row.report.claimGeneration,
        schedulerFencingToken := row.report.schedulerFencingToken }
  | _ => none

section

variable (job : JobRow)

/-- The claims that a finalizer of the job must have signed. -/
def expectedClaims (event : EventRow) (fence : ℕ)
    (evidence : List FinalizerShardEvidence) : FinalizerClaims where
  requestId := envelope.requestId
  commitContentHash := digests.commitHash envelope.commit
  jobId := job.jobId
  readyEventId := event.eventId
  readyJobVersion := job.version
  schedulerFencingToken := fence
  specHash := job.specHash
  finalizerCodeSha := job.spec.codeSha
  shards := evidence
  artifactManifestHash := envelope.commit.manifestHash
  completeResultHash := envelope.commit.completeResultHash

def readyEvents : List EventRow :=
  (ledger.eventsOf job.jobId).filter fun event =>
    event.eventType = "job_result_ready" && event.jobVersion = job.version

/-- `_finalizer_authority_matches_ready_graph`. -/
def finalizerAuthorityMatches : Except LabError Bool :=
  match ledger.readyEvents job with
  | [event] =>
    match event.schedulerFencingToken with
    | none => .ok false
    | some fence => do
      let shards ←
        (sortOn (fun shard : ShardRow => shard.definition.shardIndex)
          (ledger.shardsOf job.jobId)).mapM (shardFromRow digests)
      let known :=
        (ledger.acceptedSuccesses job.jobId).all fun row =>
          row.report.shardId ∈ shards.map fun shard => shard.definition.shardId
      pure
        (known &&
          (shards.mapM ledger.shardEvidence).any fun evidence =>
            envelope.claims = expectedClaims digests envelope job event fence evidence)
  | _ => .ok false

def replayCommit (authentic : LabArtifactCommitEnvelope → Bool) (record : ArtifactCommitRow) :
    Except LabError (LabArtifactCommitReceipt × Ledger) := do
  require (authentic record.envelope = true) (.authentication "authority proof MAC is invalid")
  require (record.envelope = envelope)
    (.contentConflict ("request_id " ++ uuidText envelope.requestId ++
      " already has different artifact content"))
  if record.receipt.status = .accepted then do
    let indexed ←
      orRaise (.invalidStored "accepted artifact commit is missing its result index")
        (ledger.artifactRow envelope.commit.jobId)
    require (SameBinding indexed.evidence binding.evidence)
      (.invalidStored "accepted artifact commit no longer matches bound index evidence")
    pure (record.receipt, ledger)
  else pure (record.receipt, ledger)

def withCommit (answered : Except LabError (LabArtifactCommitReceipt × JobGraph)) :
    Except LabError (LabArtifactCommitReceipt × Ledger) := do
  let (receipt, graph) ← answered
  pure (receipt, { ledger with toJobGraph := graph })

def commitReady : Except LabError (LabArtifactCommitReceipt × JobGraph) :=
  match ledger.commitRefusal job envelope.commit now with
  | some reason => ledger.answerCommit digests envelope .rejected reason (some job.version) now
  | none => do
    let authorized ← ledger.finalizerAuthorityMatches digests envelope job
    if authorized then
      ledger.sealResult digests envelope binding job lease now
    else
      ledger.answerCommit digests envelope .rejected
        "finalizer_authority_graph_mismatch" (some job.version) now

def commitIndexed (indexed : ResultArtifactRow) :
    Except LabError (LabArtifactCommitReceipt × JobGraph) :=
  if ¬ SameBinding indexed.evidence binding.evidence then
    ledger.answerCommit digests envelope .rejected "artifact_index_conflict" (some job.version) now
  else do
    require (job.status = .succeeded ∧ job.resultState = .sealed)
      (.invalidStored "result index exists for a non-sealed job")
    ledger.answerCommit digests envelope .accepted
      "artifact_already_committed" (some job.version) now

end

def freshCommit : Except LabError (LabArtifactCommitReceipt × JobGraph) :=
  if envelope.commit ≠ binding.manifest then
    ledger.answerCommit digests envelope .rejected "artifact_identity_mismatch" none now
  else do
    require (binding.evidence = binding.expectedEvidence)
      (.invalidStored "artifact binding evidence is internally inconsistent")
    match ledger.jobRow envelope.commit.jobId with
    | none => ledger.answerCommit digests envelope .rejected "job_not_found" none now
    | some row => do
      let job ← jobFromRow row
      match ledger.artifactRow envelope.commit.jobId with
      | some indexed => ledger.commitIndexed digests envelope binding now job indexed
      | none => ledger.commitReady digests envelope binding lease now job

/-- `_apply_artifact_commit_in_transaction`; `authentic` says which proofs the
key ring verifies. -/
def applyArtifactCommit (authentic : LabArtifactCommitEnvelope → Bool) :
    Except LabError (LabArtifactCommitReceipt × Ledger) := do
  require (authentic envelope = true) (.authentication "authority proof MAC is invalid")
  match ledger.commitRow envelope.requestId with
  | some record => ledger.replayCommit envelope binding authentic record
  | none => ledger.withCommit (ledger.freshCommit digests envelope binding lease now)

/-- `_validate_staged_artifact_success`. -/
def validateStagedSuccess (finalNow : Time) : Except LabError Unit := do
  let job ←
    orRaise (.invalidStored "staged artifact success lost its job")
      (ledger.jobRow envelope.commit.jobId)
  require (finalNow < job.deadline)
    (.commitDeadlineExpired "job deadline expired during artifact exit verification")
  require (job.schedulerFencingToken = some lease.fencingToken)
    (.leaseFenced "job fence changed during artifact exit verification")
  require (job.status = .succeeded ∧ job.resultState = .sealed ∧ job.controlIntent = .none)
    (.invalidStored "staged artifact success changed before SQLite commit")
  require
    ((ledger.artifactRow envelope.commit.jobId).map ResultArtifactRow.commitRequestId =
      some envelope.requestId)
    (.invalidStored "staged artifact success lost its result index")

/-- The success that a transaction newly staged is checked before it ends. -/
def validateBeforeCommit (existed : Bool) (receipt : LabArtifactCommitReceipt) (finalNow : Time) :
    Except LabError Unit :=
  if existed = false ∧ receipt.status = .accepted ∧ receipt.reason = "artifact_committed" then
    ledger.validateStagedSuccess envelope lease finalNow
  else .ok ()

/-- `stage_artifact_commit` and the commit of the staged transaction at
`finalNow`. -/
def stageArtifactCommit (authentic : LabArtifactCommitEnvelope → Bool)
    (finalNow : Time) : Except LabError (LabArtifactCommitReceipt × Ledger) := do
  require (digests.ValidEnvelope envelope)
    (.value "authority proof does not match artifact commit identity")
  ledger.validateLease lease now
  let (receipt, staged) ← ledger.applyArtifactCommit digests envelope binding lease now authentic
  staged.validateLease lease finalNow
  staged.validateBeforeCommit envelope lease
    (ledger.commitRow envelope.requestId).isSome receipt finalNow
  pure (receipt, staged)

end Ledger

end RQuant.Lab
