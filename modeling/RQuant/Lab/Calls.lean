import RQuant.Foundation.Runs
import RQuant.Lab.Artifacts

/-!
# Lab jobs: the store

The store answers calls, each in one transaction.  A call that fails changes
nothing.  Beside the database the system keeps the list of all claims that were
ever handed out.
-/

namespace RQuant.Lab

open Foundation

/-- The calls of schedulers, workers and finalizers on the job store. -/
inductive LabCall where
  | acquireSchedulerLease (ownerId : String) (leaseSeconds : ℤ) (now : Time) (token : Uuid)
  | renewSchedulerLease (lease : LabLeaseRecord) (leaseSeconds : ℤ) (now : Time)
  | releaseSchedulerLease (lease : LabLeaseRecord) (now : Time)
  | applyCommand (envelope : LabCommandEnvelope) (lease : LabLeaseRecord)
      (now : Time) (submissionAuthority : Option Bool)
  | planJob (jobId : Uuid) (definitions : List LabShardDefinition)
      (lease : LabLeaseRecord) (now : Time)
  | failUnplannedJob (jobId : Uuid) (reason : String) (lease : LabLeaseRecord) (now : Time)
  | expireDeadlineJobs (lease : LabLeaseRecord) (now : Time)
  | recoverStaleShards (lease : LabLeaseRecord) (now : Time)
  | recoverExpiredJobs (lease : LabLeaseRecord) (now : Time)
  | claimNextShard (request : ClaimRequest) (lease : LabLeaseRecord) (now : Time)
  | applyWorkerReport (policy : LabResultDigestPolicy)
      (report : LabWorkerReport) (lease : LabLeaseRecord) (now : Time)
  | transitionJob (jobId : Uuid) (expectedVersion : ℕ) (target : JobStatus)
      (lease : LabLeaseRecord) (reason : String) (now : Time)
      (recoverable : Option Bool)
  | confirmCancelledJob (jobId : Uuid) (expectedVersion : ℕ)
      (lease : LabLeaseRecord) (reason : String) (now : Time)
  | createHeldClaimPublication (row : ClaimPublicationRow) (lease : LabLeaseRecord) (now : Time)
  | stageArtifactCommit (envelope : LabArtifactCommitEnvelope) (binding : LabVerifiedSealedBinding)
      (authentic : LabArtifactCommitEnvelope → Bool)
      (lease : LabLeaseRecord) (now finalNow : Time)

def withoutClaim {α : Type} (answered : Except LabError (α × Ledger)) :
    Except LabError (List LabShardClaim × Ledger) := do
  let (_, next) ← answered
  pure ([], next)

/-- The claims that a call hands out, and the database after it. -/
def LabCall.execute (digests : LabDigests) (ledger : Ledger) :
    LabCall → Except LabError (List LabShardClaim × Ledger)
  | .acquireSchedulerLease ownerId leaseSeconds now token =>
    withoutClaim (ledger.acquireSchedulerLease ownerId leaseSeconds now token)
  | .renewSchedulerLease lease leaseSeconds now =>
    withoutClaim (ledger.renewSchedulerLease lease leaseSeconds now)
  | .releaseSchedulerLease lease now => withoutClaim (ledger.releaseSchedulerLease lease now)
  | .applyCommand envelope lease now submissionAuthority =>
    withoutClaim (ledger.applyCommand digests envelope lease now submissionAuthority)
  | .planJob jobId definitions lease now =>
    withoutClaim (ledger.planJob digests jobId definitions lease now)
  | .failUnplannedJob jobId reason lease now =>
    withoutClaim (ledger.failUnplannedJob jobId reason lease now)
  | .expireDeadlineJobs lease now => withoutClaim (ledger.expireDeadlineJobs lease now)
  | .recoverStaleShards lease now => withoutClaim (ledger.recoverStaleShards lease now)
  | .recoverExpiredJobs lease now => withoutClaim (ledger.recoverExpiredJobs lease now)
  | .claimNextShard request lease now => do
    let (selection, next) ← ledger.claimNextShard digests request lease now
    pure (selection.claim.toList, next)
  | .applyWorkerReport policy report lease now =>
    withoutClaim (ledger.applyWorkerReport digests policy report lease now)
  | .transitionJob jobId expectedVersion target lease reason now recoverable =>
    withoutClaim (ledger.transitionJob jobId expectedVersion target lease reason now recoverable)
  | .confirmCancelledJob jobId expectedVersion lease reason now =>
    withoutClaim (ledger.confirmCancelledJob jobId expectedVersion lease reason now)
  | .createHeldClaimPublication row lease now =>
    withoutClaim (ledger.createHeldClaimPublication lease now row)
  | .stageArtifactCommit envelope binding authentic lease now finalNow =>
    withoutClaim (ledger.stageArtifactCommit digests envelope binding lease now authentic finalNow)

/-- The database and the claims that were handed out so far. -/
structure LabSystem where
  ledger : Ledger
  issued : List LabShardClaim

variable {digests : LabDigests}

namespace LabSystem

def initial : LabSystem where
  ledger := Ledger.empty
  issued := []

def apply (digests : LabDigests) (system : LabSystem) (call : LabCall) : LabSystem :=
  match call.execute digests system.ledger with
  | .ok (claims, next) => ⟨next, system.issued ++ claims⟩
  | .error _ => system

def resume (digests : LabDigests) (system : LabSystem) (calls : List LabCall) : LabSystem :=
  calls.foldl (apply digests) system

/-- The system after a sequence of calls on a new database. -/
def run (digests : LabDigests) (calls : List LabCall) : LabSystem := initial.resume digests calls

theorem run_append : run digests (calls ++ more) = (run digests calls).resume digests more :=
  List.foldl_append

/-- What holds at the start and is kept by every call that succeeds holds in
the end. -/
theorem resume_invariant {motive : LabSystem → Prop} {start : LabSystem} (initially : motive start)
    (kept : ∀ {system : LabSystem} {call : LabCall} {claims : List LabShardClaim}
      {next : Ledger}, motive system →
      call.execute digests system.ledger = .ok (claims, next) →
      motive ⟨next, system.issued ++ claims⟩)
    (calls : List LabCall) : motive (start.resume digests calls) := by
  have reached : Reaches (fun source call target => apply digests source call = target)
      (fun _ _ => True) start (start.resume digests calls) :=
    reaches_foldl (fun _ _ => trivial) start calls
  refine reached.invariant (motive := motive) initially ?_
  rintro source call target holds - rfl
  unfold apply
  split
  · rename_i executed
    exact kept holds executed
  · exact holds

end LabSystem

def blankDigests : LabDigests where
  payloadHash := fun _ => 0
  shardId := fun _ _ _ _ _ _ => 1
  telemetryMatches := fun _ => true
  reportHash := fun _ => 0
  commandHash := fun _ => 0
  commitHash := fun _ => 0
  envelopeHash := fun _ => 0

def tenSecondLease (number : ℕ) (token : Uuid) (now : Time) : LabLeaseRecord where
  leaseId := number
  leaseName := leaseName
  ownerId := "scheduler"
  token := token
  fencingToken := number
  acquiredAt := now
  heartbeatAt := now
  expiresAt := now + seconds 10
  releasedAt := none

/-- A job is submitted and planned with one shard. -/
def plannedCalls (shardId : Uuid) (adapterId : String) : List LabCall :=
  [.acquireSchedulerLease "scheduler" 10 0 1,
    .applyCommand
      ⟨7, .submit 5
        ⟨2, 0, .strategyReplay, .standard, seconds 1000, "sha", none, .exploratory, false⟩ 3⟩
      (tenSecondLease 1 1 0) 1 none,
    .planJob 5 [⟨shardId, 0, adapterId, "v1", 0, ⟨"payload", .v1⟩, 0, none⟩]
      (tenSecondLease 1 1 0) 2]

/-- A worker claims the shard. -/
def claimedCalls : List LabCall :=
  plannedCalls 1 "adapter" ++
    [.claimNextShard ⟨"worker", 5, [.v1], none, none, none, none, 9⟩ (tenSecondLease 1 1 0) 3]

end RQuant.Lab
