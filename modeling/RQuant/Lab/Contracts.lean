import RQuant.Foundation.Text
import RQuant.Runtime

/-!
# Lab jobs: contracts

The values that schedulers, workers and finalizers exchange with the job store.
Identifiers and content hashes are computed by functions that are parameters of
the store.
-/

namespace RQuant.Lab

open Foundation

/-- A UUID.  Canonical texts of UUIDs are ordered as the numbers are. -/
abbrev Uuid := Fin (2 ^ 128)

-- Named once, so that every module finds the same two instances.
instance uuidNeZero : NeZero (2 ^ 128) := ⟨by positivity⟩

instance uuidLawfulBEq : LawfulBEq Uuid := inferInstance

def uuidText (id : Uuid) : String :=
  let digits := Nat.toDigits 16 id.val
  let padded := List.replicate (32 - digits.length) '0' ++ digits
  String.ofList
    (padded.take 8 ++ '-' :: (padded.drop 8).take 4 ++
      '-' :: (padded.drop 12).take 4 ++ '-' :: (padded.drop 16).take 4 ++
      '-' :: padded.drop 20)

/-- What calls on the job store raise.  `integrity` is a refusal of the
database: a trigger or a unique key. -/
inductive LabError where
  | value (text : String)
  | key (text : String)
  | assertion
  | leaseUnavailable (text : String)
  | leaseFenced (text : String)
  | staleJobVersion (text : String)
  | invalidTransition (text : String)
  | invalidStored (text : String)
  | cancelConfirmation (text : String)
  | submissionAuthority (text : String)
  | planConflict (text : String)
  | commitDeadlineExpired (text : String)
  | publicationConflict (text : String)
  | contentConflict (text : String)
  | authentication (text : String)
  | integrity (text : String)
  deriving DecidableEq

inductive JobStatus where
  | queued
  | running
  | checkpointed
  | succeeded
  | failed
  | cancelled
  deriving DecidableEq

inductive ControlIntent where
  | none
  | pauseRequested
  | cancelRequested
  deriving DecidableEq

inductive LabResultState where
  | pending
  | ready
  | sealed
  | legacyUnsealed
  deriving DecidableEq

inductive ShardStatus where
  | queued
  | running
  | checkpointed
  | succeeded
  | failed
  | cancelled
  deriving DecidableEq

inductive ResearchJobType where
  | strategyReplay
  | parameterSearch
  | ablation
  deriving DecidableEq

inductive ResourceClass where
  | interactive
  | standard
  | heavy
  deriving DecidableEq

inductive ResearchStatus where
  | exploratory
  | comparable
  | paperCandidate
  | monitorApproved
  deriving DecidableEq

def JobStatus.text : JobStatus → String
  | .queued => "queued"
  | .running => "running"
  | .checkpointed => "checkpointed"
  | .succeeded => "succeeded"
  | .failed => "failed"
  | .cancelled => "cancelled"

def ControlIntent.text : ControlIntent → String
  | .none => "none"
  | .pauseRequested => "pause_requested"
  | .cancelRequested => "cancel_requested"

def LabResultState.text : LabResultState → String
  | .pending => "pending"
  | .ready => "ready"
  | .sealed => "sealed"
  | .legacyUnsealed => "legacy_unsealed"

def ShardStatus.text : ShardStatus → String
  | .queued => "queued"
  | .running => "running"
  | .checkpointed => "checkpointed"
  | .succeeded => "succeeded"
  | .failed => "failed"
  | .cancelled => "cancelled"

def JobStatus.Open (status : JobStatus) : Prop :=
  status = .queued ∨ status = .running ∨ status = .checkpointed
deriving Decidable

def ShardStatus.Open (status : ShardStatus) : Prop :=
  status = .queued ∨ status = .running ∨ status = .checkpointed
deriving Decidable

/-- `_ALLOWED_TRANSITIONS`. -/
def JobStatus.allowed : JobStatus → List JobStatus
  | .queued => [.running, .cancelled]
  | .running => [.checkpointed, .succeeded, .failed, .cancelled]
  | .checkpointed => [.running, .cancelled]
  | .succeeded => []
  | .failed => []
  | .cancelled => []

def resultContractVersion : String := "p1.4a-telemetry-v1"

def completeResultContractVersion : String := "p1.4b-complete-result-v1"

def leaseName : String := "strategy-lab-scheduler"

def maxJobShards : ℕ := 128

def staleRecoveryBatchSize : ℕ := 32

def preclaimCandidateBatchSize : ℕ := 32

def preclaimFairScanInterval : ℕ := 4

def idleControlAfterBatchSize : ℕ := staleRecoveryBatchSize / 2

def idleControlBeforeBatchSize : ℕ := staleRecoveryBatchSize - idleControlAfterBatchSize

def maxShardHeartbeatExtensionSeconds : ℕ := 3600

def attemptsExhaustedFailureJson : String := "\x7b\"reason\":\"attempts_exhausted\"\x7d"

def parentAttemptsExhaustedFailureJson : String :=
  "\x7b\"reason\":\"parent_failed_attempts_exhausted\"\x7d"

def parentRecoverableFailureJson : String := "\x7b\"reason\":\"parent_failed_recoverable\"\x7d"

def deadlineExceededFailureJson : String := "\x7b\"reason\":\"deadline_exceeded\"\x7d"

def seconds (count : ℤ) : Time := count * 1000000

structure DatasetSnapshotIdentity where
  (snapshotId bindingHash : Digest)
  auditRunId : Option Digest
  deriving DecidableEq

/-- `ResearchRunSpec`, as far as the store reads it. -/
structure ResearchRunSpec where
  schemaVersion : ℕ
  specHash : Digest
  jobType : ResearchJobType
  resourceClass : ResourceClass
  deadline : Time
  codeSha : String
  datasetSnapshot : Option DatasetSnapshotIdentity
  researchStatus : ResearchStatus
  catalogOwnerEligible : Bool
  deriving DecidableEq

structure LabShardWorkPlan where
  (phase workUnitName : String)
  (workUnits staticDurationMs : ℕ)
  deriving DecidableEq

structure LabShardTelemetry where
  workPlan : LabShardWorkPlan
  (durationMs throughputUnitsPerSecond : ℚ)
  deriving DecidableEq

inductive PayloadProtocol where
  | v1
  | v2
  deriving DecidableEq

/-- The canonical text of a payload, with the protocol it declares. -/
structure ShardPayload where
  json : String
  protocol : PayloadProtocol
  deriving DecidableEq

structure LabShardDefinition where
  shardId : Uuid
  shardIndex : ℕ
  (adapterId adapterVersion : String)
  planHash : Digest
  payload : ShardPayload
  payloadHash : Digest
  workPlan : Option LabShardWorkPlan
  deriving DecidableEq

/-- `LabShardClaim` and `LabShardClaimV2`; which of the two is the protocol of
the payload. -/
structure LabShardClaim where
  jobId : Uuid
  specHash : Digest
  definition : LabShardDefinition
  workerId : String
  claimToken : Uuid
  (claimGeneration schedulerFencingToken : ℕ)
  (claimedAt leaseExpiresAt : Time)
  deriving DecidableEq

structure DigestProvenance where
  manifestSchemaVersion : ℕ
  (contentDigestAlgorithm codeSha : String)
  deriving DecidableEq

def currentResultManifestSchemaVersion : ℕ := 2

def legacyResultManifestSchemaVersion : ℕ := 1

def currentContentDigestAlgorithm : String := "rquant-pandas-table-json-sha256-v2"

def legacyContentDigestAlgorithm : String := "pandas-orient-table-json-sha256-v1"

structure LabResultDigestPolicy where
  legacyAllowlist : List DigestProvenance
  deriving DecidableEq

/-- `LabWorkerReportBody`.  The failure text is canonical. -/
inductive LabWorkerReportBody where
  | heartbeat (leaseExtensionSeconds : ℕ)
  | succeeded (resultManifestHash : Digest) (provenance : Option DigestProvenance)
      (telemetry : Option LabShardTelemetry)
  | failed (failureJson : String)
  | stopped (reason : String)
  deriving DecidableEq

structure LabWorkerReport where
  (reportId jobId shardId : Uuid)
  (specHash payloadHash : Digest)
  workerId : String
  claimToken : Uuid
  (claimGeneration schedulerFencingToken : ℕ)
  reportedAt : Time
  body : LabWorkerReportBody
  deriving DecidableEq

/-- What happened to a report or to an artifact commit. -/
inductive ReceiptStatus where
  | accepted
  | rejected
  deriving DecidableEq

/-- `LabReportReceipt`; the attempt it names is that of its report. -/
structure LabReportReceipt where
  reportId : Uuid
  contentHash : Digest
  status : ReceiptStatus
  reason : String
  acceptedAt : Time
  deriving DecidableEq

/-! ## Commands -/

inductive LabCommand where
  | submit (jobId : Uuid) (spec : ResearchRunSpec) (maxAttempts : ℕ)
  | cancel (jobId : Uuid) (expectedVersion : ℕ) (reason : String)
  | pause (jobId : Uuid) (expectedVersion : ℕ) (reason : String)
  | resume (jobId : Uuid) (expectedVersion : ℕ) (reason : String)
  | retry (jobId : Uuid) (expectedVersion : ℕ) (reason : String)
  deriving DecidableEq

def LabCommand.jobId : LabCommand → Uuid
  | .submit jobId _ _ => jobId
  | .cancel jobId _ _ => jobId
  | .pause jobId _ _ => jobId
  | .resume jobId _ _ => jobId
  | .retry jobId _ _ => jobId

structure LabCommandEnvelope where
  requestId : Uuid
  command : LabCommand
  deriving DecidableEq

inductive CommandStatus where
  | applied
  | rejected
  deriving DecidableEq

structure LabCommandReceipt where
  requestId : Uuid
  contentHash : Digest
  jobId : Uuid
  status : CommandStatus
  reason : String
  jobVersion : Option ℕ
  deriving DecidableEq

structure LabArtifactCommit where
  jobId : Uuid
  (specHash planHash : Digest)
  (adapterId adapterVersion resultContractVersion codeSha : String)
  datasetSnapshot : Option DatasetSnapshotIdentity
  (manifestHash completeResultHash : Digest)
  sealedPath : String
  deriving DecidableEq

/-- `LabFinalizerAuthorityShardEvidence`. -/
structure FinalizerShardEvidence where
  shardIndex : ℕ
  shardId : Uuid
  (payloadHash planHash : Digest)
  resultManifestHash : Option Digest
  acceptedReportContentHash : Digest
  claimToken : Uuid
  (claimGeneration schedulerFencingToken : ℕ)
  deriving DecidableEq

/-- `LabFinalizerAuthorityClaims`. -/
structure FinalizerClaims where
  requestId : Uuid
  commitContentHash : Digest
  jobId : Uuid
  (readyEventId readyJobVersion schedulerFencingToken : ℕ)
  specHash : Digest
  finalizerCodeSha : String
  shards : List FinalizerShardEvidence
  (artifactManifestHash completeResultHash : Digest)
  deriving DecidableEq

/-- `LabArtifactCommitEnvelope`, with the claims of its proof. -/
structure LabArtifactCommitEnvelope where
  requestId : Uuid
  commit : LabArtifactCommit
  claims : FinalizerClaims
  deriving DecidableEq

structure LabArtifactCommitReceipt where
  requestId : Uuid
  contentHash : Digest
  jobId : Uuid
  status : ReceiptStatus
  reason : String
  acceptedAt : Time
  jobVersion : Option ℕ
  deriving DecidableEq

structure LabArtifactIndexEvidence where
  jobId : Uuid
  sealedPath : String
  (manifestHash completeResultHash : Digest)
  (bundleDevice bundleInode : ℕ)
  fileIdentities : Digest
  indexedAt : Time
  deriving DecidableEq

/-- `LabVerifiedSealedBinding`: the manifest of a sealed bundle, what the file
system says about it, and the evidence to index. -/
structure LabVerifiedSealedBinding where
  manifest : LabArtifactCommit
  (bundleDevice bundleInode : ℕ)
  fileIdentities : Digest
  evidence : LabArtifactIndexEvidence
  deriving DecidableEq

/-- The functions by which the protocols compute identifiers and content
hashes, and the comparison of floating-point telemetry. -/
structure LabDigests where
  payloadHash : ShardPayload → Digest
  shardId : ℕ → String → String → Digest → Digest → Option LabShardWorkPlan → Uuid
  telemetryMatches : LabShardTelemetry → Bool
  reportHash : LabWorkerReport → Digest
  commandHash : LabCommand → Digest
  commitHash : LabArtifactCommit → Digest
  envelopeHash : LabArtifactCommitEnvelope → Digest

/-- `LabShardDefinition.validate_identity`. -/
def LabDigests.ValidDefinition (digests : LabDigests) (definition : LabShardDefinition) : Prop :=
  definition.adapterId ≠ "" ∧ definition.adapterVersion ≠ "" ∧
    definition.payloadHash = digests.payloadHash definition.payload ∧
    definition.shardId =
      digests.shardId definition.shardIndex definition.adapterId
        definition.adapterVersion definition.planHash definition.payloadHash
        definition.workPlan

instance (digests : LabDigests) (definition : LabShardDefinition) :
    Decidable (digests.ValidDefinition definition) :=
  inferInstanceAs (Decidable (_ ∧ _))

def LabDigests.ValidBody (digests : LabDigests) : LabWorkerReportBody → Prop
  | .heartbeat extension => 1 ≤ extension ∧ extension ≤ maxShardHeartbeatExtensionSeconds
  | .succeeded _ _ telemetry => ∀ reported ∈ telemetry, digests.telemetryMatches reported = true
  | .failed _ => True
  | .stopped reason => reason ≠ ""

instance (digests : LabDigests) : (body : LabWorkerReportBody) → Decidable (digests.ValidBody body)
  | .heartbeat _ => inferInstanceAs (Decidable (_ ∧ _))
  | .succeeded _ _ telemetry =>
    inferInstanceAs (Decidable (∀ reported ∈ telemetry, digests.telemetryMatches reported = true))
  | .failed _ => isTrue trivial
  | .stopped reason => inferInstanceAs (Decidable (reason ≠ ""))

def LabDigests.ValidReport (digests : LabDigests) (report : LabWorkerReport) : Prop :=
  report.workerId ≠ "" ∧ 1 ≤ report.claimGeneration ∧
    1 ≤ report.schedulerFencingToken ∧ digests.ValidBody report.body

instance (digests : LabDigests) (report : LabWorkerReport) :
    Decidable (digests.ValidReport report) :=
  inferInstanceAs (Decidable (_ ∧ _ ∧ _ ∧ _))

def LabCommand.Valid : LabCommand → Prop
  | .submit _ _ maxAttempts => 1 ≤ maxAttempts
  | .cancel _ _ reason => reason ≠ ""
  | .pause _ _ reason => reason ≠ ""
  | .resume _ _ reason => reason ≠ ""
  | .retry _ _ reason => reason ≠ ""

instance : (command : LabCommand) → Decidable command.Valid
  | .submit _ _ maxAttempts => inferInstanceAs (Decidable (1 ≤ maxAttempts))
  | .cancel _ _ reason => inferInstanceAs (Decidable (reason ≠ ""))
  | .pause _ _ reason => inferInstanceAs (Decidable (reason ≠ ""))
  | .resume _ _ reason => inferInstanceAs (Decidable (reason ≠ ""))
  | .retry _ _ reason => inferInstanceAs (Decidable (reason ≠ ""))

/-- `resolve_success_digest_provenance`: the provenance is the current one of
the job's code, or none for code on the allow list. -/
def provenanceSupported (policy : LabResultDigestPolicy) (codeSha : String)
    (provenance : Option DigestProvenance) : Prop :=
  match provenance with
  | none =>
    ⟨legacyResultManifestSchemaVersion, legacyContentDigestAlgorithm,
      codeSha⟩ ∈ policy.legacyAllowlist
  | some supplied =>
    supplied = ⟨currentResultManifestSchemaVersion, currentContentDigestAlgorithm, codeSha⟩

instance (policy : LabResultDigestPolicy) (codeSha : String) :
    (provenance : Option DigestProvenance) →
      Decidable (provenanceSupported policy codeSha provenance)
  | none => inferInstanceAs (Decidable (_ ∈ _))
  | some _ => inferInstanceAs (Decidable (_ = _))

end RQuant.Lab
