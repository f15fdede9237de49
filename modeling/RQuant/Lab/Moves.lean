import RQuant.Lab.Calls

/-!
# Lab jobs: moves

Every transaction of the store is a sequence of a few kinds of moves on the job
graph, and the invariants are proved move by move.  Claims and successes are the
labels of the moves that make them.
-/

namespace RQuant.Lab

open Foundation

variable {old : JobRow}

namespace JobGraph

variable {graph : JobGraph} {jobId : Uuid} {row new : JobRow} {change : ShardRow → ShardRow}

theorem mem_of_jobRow (found : graph.jobRow jobId = some row) :
    row ∈ graph.jobs ∧ row.jobId = jobId :=
  mem_of_findKey found

theorem jobRow_of_mem (mem : row ∈ graph.jobs) : graph.jobRow row.jobId = some row :=
  findKey_of_mem graph.uniqueJobs mem

theorem shard_eq_of_key {row other : ShardRow} (mem : row ∈ graph.shards)
    (otherMem : other ∈ graph.shards) (same : row.key = other.key) :
    row = other :=
  eq_of_key_eq graph.uniqueShards mem otherMem same

@[simp] theorem mem_shardsOf {row : ShardRow} :
    row ∈ graph.shardsOf jobId ↔ row ∈ graph.shards ∧ row.jobId = jobId := by
  simp [shardsOf]

theorem jobRow_setJob (found : graph.jobRow new.jobId = some old) :
    (graph.setJob new).jobRow new.jobId = some new := by
  obtain ⟨mem, sameId⟩ := mem_of_jobRow found
  have written : new ∈ (graph.setJob new).jobs := mem_updateKey.mpr ⟨old, mem, .inl ⟨sameId, rfl⟩⟩
  exact jobRow_of_mem written

theorem jobRow_setJob_of_ne (different : jobId ≠ new.jobId) :
    (graph.setJob new).jobRow jobId = graph.jobRow jobId := by
  ext row
  have before : graph.jobRow jobId = some row ↔ row ∈ graph.jobs ∧ row.jobId = jobId :=
    findKey_eq_some graph.uniqueJobs
  have after : (graph.setJob new).jobRow jobId = some row ↔
      row ∈ (graph.setJob new).jobs ∧ row.jobId = jobId :=
    findKey_eq_some (graph.setJob new).uniqueJobs
  rw [before, after]
  constructor
  · rintro ⟨mem, rfl⟩
    obtain ⟨_, oldMem, ⟨-, rfl⟩ | ⟨-, rfl⟩⟩ := mem_updateKey.mp mem
    · exact absurd rfl different
    · exact ⟨oldMem, rfl⟩
  · rintro ⟨mem, rfl⟩
    exact ⟨mem_updateKey.mpr ⟨row, mem, .inr ⟨different, rfl⟩⟩, rfl⟩

theorem mem_setJob (mem : row ∈ (graph.setJob new).jobs) :
    row = new ∨ (row ∈ graph.jobs ∧ row.jobId ≠ new.jobId) := by
  obtain ⟨_, oldMem, ⟨-, rfl⟩ | ⟨different, rfl⟩⟩ := mem_updateKey.mp mem
  · exact .inl rfl
  · exact .inr ⟨oldMem, different⟩

theorem shardsOf_mapShards :
    (graph.mapShards change keeps).shardsOf jobId = (graph.shardsOf jobId).map change := by
  have sameJob : ∀ row, (change row).jobId = row.jobId := fun row => congrArg Prod.fst (keeps row)
  unfold shardsOf mapShards
  rw [List.filter_map]
  simp only [Function.comp_def, sameJob]

end JobGraph

/-- What a transaction hands out or settles. -/
inductive LabEvent where
  | claimed (claim : LabShardClaim)
  | succeeded (jobId shardId : Uuid)
  deriving DecidableEq

def LabEvent.claim? : LabEvent → Option LabShardClaim
  | .claimed claim => some claim
  | .succeeded _ _ => none

def LabEvent.success? : LabEvent → Option (Uuid × Uuid)
  | .claimed _ => none
  | .succeeded jobId shardId => some (jobId, shardId)

/-- A change of the state of a job: its version grows by one, its identity and
its contract stay. -/
structure JobMove (old new : JobRow) : Prop where
  identity :
    { new with
      status := old.status, controlIntent := old.controlIntent, version := old.version,
      attemptCount := old.attemptCount, recoverable := old.recoverable,
      schedulerFencingToken := old.schedulerFencingToken, resultState := old.resultState,
      updatedAt := old.updatedAt } = old
  version : new.version = old.version + 1
  fence : new.schedulerFencingToken = old.schedulerFencingToken ∨
    ∀ fence ∈ new.schedulerFencingToken, 1 ≤ fence
  paused : new.status = .checkpointed → old.status = .running ∨ old.status = .checkpointed

structure Logs (event : EventRow) (old new : JobRow) : Prop where
  job : event.jobId = new.jobId
  priorStatus : event.priorStatus = some old.status
  newStatus : event.newStatus = new.status
  version : event.jobVersion = new.version

structure LogsSubmission (event : EventRow) (row : JobRow) : Prop where
  job : event.jobId = row.jobId
  type : event.eventType = "job_submitted"
  priorStatus : event.priorStatus = none
  newStatus : event.newStatus = .queued
  version : event.jobVersion = 0

/-- A change of a shard that neither claims it nor makes it succeed. -/
inductive ShardMove : ShardRow → ShardRow → Prop
  | failed {old : ShardRow} (failure : String) (now : Time) : old.status.Open →
      ShardMove old (old.ended .failed (some failure) now)
  | cancelled {old : ShardRow} (now : Time) : old.status.Open →
      ShardMove old (old.ended .cancelled none now)
  | stopped {old : ShardRow} (now : Time) : old.status = .running →
      ShardMove old (old.terminalized .cancelled none none none none now)
  | requeued {old : ShardRow} (now : Time) :
      old.status = .running → old.attemptCount < old.maxAttempts →
      ShardMove old (old.requeued now)
  | retried {old : ShardRow} (now : Time) :
      old.status ≠ .succeeded → old.attemptCount < old.maxAttempts →
      ShardMove old (old.retried now)
  | heartbeat {old : ShardRow} (expiresAt now : Time) : old.status = .running →
      (∀ claimedAt ∈ old.claimedAt, claimedAt ≤ now) →
      (∃ before ∈ old.leaseExpiresAt, before ≤ expiresAt) →
      ShardMove old (old.heartbeat expiresAt now)

structure ChangesOnly (graph : JobGraph) (change : ShardRow → ShardRow)
    (row new : ShardRow) : Prop where
  member : row ∈ graph.shards
  changed : change row = new
  others : ∀ other ∈ graph.shards, other ≠ row → change other = other

structure ClaimMove (row : ShardRow) (claim : LabShardClaim) : Prop where
  waiting : row.status = .queued ∨ row.status = .running
  attempts : row.attemptCount < row.maxAttempts
  job : claim.jobId = row.jobId
  definition : claim.definition = row.definition
  generation : claim.claimGeneration = row.claimGeneration + 1
  worker : claim.workerId ≠ ""
  fence : 1 ≤ claim.schedulerFencingToken
  lease : claim.claimedAt < claim.leaseExpiresAt

/-- A claimed shard that succeeds, with telemetry for its work plan. -/
structure SuccessMove (digests : LabDigests) (row new : ShardRow) : Prop where
  running : row.status = .running
  succeeds : ∃ manifest telemetry sequence now,
    new = row.terminalized .succeeded (some manifest) none telemetry sequence now ∧
      telemetry.map LabShardTelemetry.workPlan = row.definition.workPlan ∧
      (∀ reported ∈ telemetry, digests.telemetryMatches reported = true) ∧
      sequence.isSome = telemetry.isSome ∧ ∀ number ∈ sequence, 1 ≤ number

def JobRow.planned (job : JobRow) : JobRow :=
  { job with resultContractVersion := some completeResultContractVersion }

/-- The moves that transactions are made of. -/
inductive Move (digests : LabDigests) : JobGraph → List LabEvent → JobGraph → Prop
  | submitted {graph : JobGraph} (jobId : Uuid) (spec : ResearchRunSpec)
      (maxAttempts : ℕ) (now : Time) {event : EventRow}
      (fresh :
        (JobGraph.submittedRow jobId spec maxAttempts now).jobId ∉ graph.jobs.map JobRow.jobId) :
      1 ≤ maxAttempts →
      LogsSubmission event (JobGraph.submittedRow jobId spec maxAttempts now) →
      Move digests graph []
        ((graph.addJob (JobGraph.submittedRow jobId spec maxAttempts now) fresh).addEvent event)
  | planned {graph : JobGraph} {job : JobRow} (now : Time) (definitions : List LabShardDefinition)
      (fresh : (((graph.setJob job.planned).shards ++
        definitions.map (JobGraph.plannedRow job now)).map ShardRow.key).Nodup) :
      graph.jobRow job.jobId = some job →
      job.status = .queued →
      graph.shardsOf job.jobId = [] →
      definitions ≠ [] →
      definitions.length ≤ maxJobShards →
      graph.checkJobUpdate .none job job.planned = .ok () →
      (∀ definition ∈ definitions, shardFromRow digests (JobGraph.plannedRow job now definition) =
        .ok (JobGraph.plannedRow job now definition)) →
      Move digests graph []
        ((graph.setJob job.planned).addShards (definitions.map (JobGraph.plannedRow job now)) fresh)
  | jobMoved {graph : JobGraph} {old new : JobRow} {event : EventRow}
      (authorization : JobGraph.Authorization) :
      graph.jobRow new.jobId = some old →
      JobMove old new →
      graph.checkJobUpdate authorization old new = .ok () →
      Logs event old new →
      Move digests graph [] ((graph.setJob new).addEvent event)
  | shardsMoved {graph : JobGraph} {change : ShardRow → ShardRow}
      (keeps : ∀ row, (change row).key = row.key) :
      (∀ row ∈ graph.shards, change row = row ∨
        (graph.shardsMutable row.jobId = true ∧ ShardMove row (change row))) →
      Move digests graph [] (graph.mapShards change keeps)
  | claimed {graph : JobGraph} {change : ShardRow → ShardRow} {row : ShardRow}
      {claim : LabShardClaim} (keeps : ∀ row, (change row).key = row.key) :
      ChangesOnly graph change row (row.claimed claim (row.attemptCount + 1)) →
      graph.shardsMutable row.jobId = true →
      ClaimMove row claim →
      Move digests graph [.claimed claim] (graph.mapShards change keeps)
  | succeeded {graph : JobGraph} {change : ShardRow → ShardRow} {row new : ShardRow} {job : JobRow}
      (keeps : ∀ row, (change row).key = row.key) :
      ChangesOnly graph change row new →
      graph.shardsMutable row.jobId = true →
      SuccessMove digests row new →
      graph.jobRow row.jobId = some job →
      job.status = .running →
      (job.resultContractVersion = some completeResultContractVersion →
        ¬ (graph.mapShards change keeps).AllSucceeded row.jobId) →
      Move digests graph [.succeeded row.jobId row.definition.shardId]
        (graph.mapShards change keeps)
  | readied {graph : JobGraph} {change : ShardRow → ShardRow}
      {row new : ShardRow} {old job : JobRow} {event : EventRow}
      (keeps : ∀ row, (change row).key = row.key) :
      ChangesOnly graph change row new →
      graph.shardsMutable row.jobId = true →
      SuccessMove digests row new →
      job.jobId = row.jobId →
      graph.jobRow job.jobId = some old →
      JobMove old job →
      job.resultState = .ready →
      (graph.mapShards change keeps).checkJobUpdate .none old job = .ok () →
      Logs event old job →
      Move digests graph [.succeeded row.jobId row.definition.shardId]
        (((graph.mapShards change keeps).setJob job).addEvent event)
  | committed {graph : JobGraph} {row : ArtifactCommitRow}
      (fresh : row.requestId ∉ graph.commits.map ArtifactCommitRow.requestId) :
      Move digests graph [] (graph.addCommit row fresh)
  | sealed {graph : JobGraph} {old new : JobRow} {event : EventRow} {artifact : ResultArtifactRow}
      (authorization : JobGraph.Authorization)
      (fresh : artifact.jobId ∉ graph.artifacts.map ResultArtifactRow.jobId) :
      artifact.jobId = new.jobId →
      artifact.evidence.jobId = artifact.jobId →
      new.resultState = .sealed →
      graph.jobRow new.jobId = some old →
      JobMove old new →
      (graph.addArtifact artifact fresh).checkJobUpdate authorization old new = .ok () →
      Logs event old new →
      Move digests graph [] (((graph.addArtifact artifact fresh).setJob new).addEvent event)
  | published {graph : JobGraph} (row : ClaimPublicationRow) :
      Move digests graph [] (graph.addPublication row)

abbrev Moves (digests : LabDigests) : JobGraph → List LabEvent → JobGraph → Prop :=
  Trace (Move digests)

end RQuant.Lab
