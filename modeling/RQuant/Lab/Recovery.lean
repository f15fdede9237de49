import RQuant.Lab.Planning

/-!
# Lab jobs: recovery of stale shards

A shard whose claim has expired, or was made under another scheduler, goes back
to the queue, fails its job when it has no attempts left, or is cancelled with
it.  Jobs without workers then reach the pause or cancellation requested.
-/

namespace RQuant.Lab

open Foundation

/-- The claim of a shard has expired or belongs to another scheduler. -/
def ShardRow.stale (row : ShardRow) (lease : LabLeaseRecord) (now : Time) : Bool :=
  row.schedulerFencingToken ≠ some lease.fencingToken ||
    row.leaseExpiresAt.all fun expires => expires ≤ now

def ShardRow.planOrder (row : ShardRow) : Uuid ×ₗ (ℕ ×ₗ Uuid) :=
  toLex (row.jobId, toLex (row.definition.shardIndex, row.definition.shardId))

/-- The job that fails, with the shard that is to blame. -/
abbrev FailureCauses := List (Uuid × Uuid)

def FailureCauses.setDefault (causes : FailureCauses) (jobId shardId : Uuid) : FailureCauses :=
  if (findKey Prod.fst jobId causes).isSome then causes
  else causes ++ [(jobId, shardId)]

namespace JobGraph

section

variable (graph : JobGraph)

def jobOf (row : ShardRow) (property : JobRow → Bool) : Bool :=
  (graph.jobRow row.jobId).any property

/-- The claimed shards that nobody works on any more. -/
def staleRows (lease : LabLeaseRecord) (now : Time) : List ShardRow :=
  (sortOn ShardRow.planOrder
    (graph.shards.filter fun row =>
      row.status = .running && graph.jobOf row (fun job => job.status = .running) &&
        row.payloadProtocolVersion = .v1 && row.stale lease now)).take
    staleRecoveryBatchSize

/-- The waiting shards of one status that have no attempts left. -/
def exhaustedRowsOf (status : ShardStatus) : List ShardRow :=
  (sortOn ShardRow.planOrder
    (graph.shards.filter fun row =>
      graph.jobOf row (fun job => decide job.status.Open && job.controlIntent ≠ .cancelRequested) &&
        row.status = status && row.maxAttempts ≤ row.attemptCount &&
        row.payloadProtocolVersion = .v1)).take
    staleRecoveryBatchSize

/-- The waiting shards that have no attempts left: half of a batch of each
status, then what is left over. -/
def exhaustedRows : List ShardRow :=
  let queued := graph.exhaustedRowsOf .queued
  let checkpointed := graph.exhaustedRowsOf .checkpointed
  let share := staleRecoveryBatchSize / 2
  let first := queued.take share ++ checkpointed.take share
  let overflow := sortOn ShardRow.planOrder (queued.drop share ++ checkpointed.drop share)
  sortOn ShardRow.planOrder (first ++ overflow.take (staleRecoveryBatchSize - first.length))

def waitingCauses : FailureCauses :=
  graph.exhaustedRows.foldl
    (fun causes row => causes.setDefault row.jobId row.definition.shardId) []

def staleCause (causes : FailureCauses) (stale : ShardRow) : Except LabError FailureCauses := do
  let job ← orRaise .assertion (graph.jobRow stale.jobId)
  requirePositive "lab_shard.max_attempts" stale.maxAttempts
  pure
    (if job.controlIntent ≠ .cancelRequested ∧ stale.maxAttempts ≤ stale.attemptCount then
      causes.setDefault stale.jobId stale.definition.shardId
    else causes)

end

/-- One stale shard.  The shards of jobs in `causes` are left to the failure of
their job. -/
def reclaimShard (causes : FailureCauses) (now : Time) (graph : JobGraph)
    (stale : ShardRow) : Except LabError (Option Uuid × JobGraph) :=
  if (findKey Prod.fst stale.jobId causes).isSome ∨ stale.definition.payload.protocol = .v2 then
    .ok (none, graph)
  else do
    let job ← orRaise .assertion (graph.jobRow stale.jobId)
    if job.controlIntent = .cancelRequested then do
      let (updated, hit) ← graph.terminalizeClaimedShard stale .cancelled now none none none none
      pure (if hit then some stale.jobId else none, updated)
    else do
      let (updated, count) ←
        graph.updateShards (fun stored => unchangedShard stale stored && stored.status = .running)
          (fun stored => stored.requeued now) (ShardRow.key_requeued now)
      pure (if count = 1 then some stale.jobId else none, updated)

/-- The running jobs that wait for a pause or a cancellation and have no worker
left. -/
def idleControlRows (graph : JobGraph) : List JobRow :=
  bySubmission
    (graph.jobs.filter fun row =>
      row.status = .running && row.controlIntent ≠ .none && graph.Idle row.jobId)

def idleCandidates (graph : JobGraph) (cursor : Option (Time × Uuid)) : List JobRow × List JobRow :=
  match cursor with
  | none => (graph.idleControlRows.take idleControlAfterBatchSize, [])
  | some position =>
    ((graph.idleControlRows.filter fun row =>
        toLex position < toLex (row.createdAt, row.jobId)).take
        idleControlAfterBatchSize,
      (graph.idleControlRows.filter fun row =>
        toLex (row.createdAt, row.jobId) ≤ toLex position).take
        idleControlBeforeBatchSize)

def failExhaustedJob (causes : FailureCauses) (lease : LabLeaseRecord)
    (now : Time) (graph : JobGraph) (jobId : Uuid) :
    Except LabError (Unit × JobGraph) := do
  let row ← orRaise .assertion (graph.jobRow jobId)
  if row.status.Open then do
    let (_, cause) ← orRaise .assertion (findKey Prod.fst jobId causes)
    let (_, failed) ←
      graph.failJobTreeAfterAttemptsExhausted row cause lease now
        "shard attempts exhausted during stale reclaim"
    pure ((), failed)
  else pure ((), graph)

section

variable (lease : LabLeaseRecord) (now : Time) (graph : JobGraph)

/-- The control that was requested for a job without a worker takes place. -/
def settleControl (row : JobRow) : Except LabError (JobRow × JobGraph) := do
  let (adopted, taken) ← graph.takeOver row lease now
  if row.controlIntent = .pauseRequested then
    taken.transitionInTransaction adopted .checkpointed lease
      "all active shard leases expired during pause" now none none
      "job_checkpointed" false
  else
    taken.cancelJob adopted "all active shard leases expired during cancel"
      lease now none "job_cancel_confirmed" true

def converge (jobId : Uuid) : Except LabError (Unit × JobGraph) := do
  let row ← orRaise .assertion (graph.jobRow jobId)
  if row.status = .running ∧ graph.activeShardCount jobId = 0 ∧ row.controlIntent ≠ .none then do
    let (_, settled) ← graph.settleControl lease now row
    pure ((), settled)
  else pure ((), graph)

end

def sortedIds (ids : List Uuid) : List Uuid := sortOn (fun jobId : Uuid => jobId) ids.dedup

end JobGraph

namespace Ledger

def recoverStaleShards (ledger : Ledger) (lease : LabLeaseRecord)
    (now : Time) : Except LabError (List Uuid × Ledger) := do
  ledger.validateLease lease now
  let stale := ledger.staleRows lease now
  let causes ← stale.foldlM ledger.toJobGraph.staleCause ledger.waitingCauses
  let failing := causes.filter fun cause => !ledger.requiresReconciliation cause.1
  let (reclaimed, first) ← sweep (JobGraph.reclaimShard causes now) stale ledger.toJobGraph
  let (after, before) := first.idleCandidates ledger.idleCursor
  let idle := (after ++ before).map JobRow.jobId
  let (_, second) ←
    sweep (JobGraph.failExhaustedJob failing lease now)
      (JobGraph.sortedIds (failing.map Prod.fst)) first
  let converging := reclaimed.reduceOption ++ idle
  let (_, third) ← sweep (JobGraph.converge lease now) (JobGraph.sortedIds converging) second
  pure
    (JobGraph.sortedIds (converging ++ failing.map Prod.fst),
      { ledger with
        toJobGraph := third
        idleCursor := (after.getLast?.map fun row => (row.createdAt, row.jobId)).or
          ledger.idleCursor })

end Ledger

end RQuant.Lab
