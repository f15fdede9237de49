import RQuant.Lab.Steps

/-!
# Lab jobs: shard transactions as moves

Recovery, reports, claims and artifact commits as sequences of moves.
-/

namespace RQuant.Lab

open Foundation
open List hiding after next count minimum

variable {reason : String} {answer : Unit} {other shardId : Uuid} {stored : ShardRow}
  {rest : List ShardRow} {after : FailureCauses} {lease : LabLeaseRecord} {hit : Bool} {count : ℕ}

namespace JobGraph

variable {digests : LabDigests} {graph next : JobGraph}
  {row : ShardRow} {matching : ShardRow → Bool} {change : ShardRow → ShardRow} {now : Time}
  {causes : FailureCauses} {jobId : Uuid} {rows : List ShardRow}

theorem key_of_unchangedShard (unchanged : unchangedShard row stored = true) :
    stored.key = row.key := by
  unfold unchangedShard at unchanged
  simp only [Bool.and_eq_true, decide_eq_true_eq] at unchanged
  exact unchanged.1

theorem key_of_running (matched : (unchangedShard row stored && stored.status = .running) = true) :
    stored.key = row.key :=
  key_of_unchangedShard (Bool.and_eq_true _ _ ▸ matched).1

section

variable (mem : row ∈ graph.shards)
  (byKey : ∀ stored, matching stored = true → stored.key = row.key)

include mem byKey

theorem changesOnly_of_matching (matched : matching row = true) :
    ChangesOnly graph (changeMatching matching change) row (change row) where
  member := mem
  changed := if_pos matched
  others := fun other otherMem different => by
    refine if_neg fun otherMatched => different ?_
    exact shard_eq_of_key otherMem mem (byKey other otherMatched)

theorem matching_of_count (count : (graph.shards.filter matching).length = 1) :
    matching row = true := by
  obtain ⟨found, only⟩ := length_eq_one_iff.mp count
  have foundMem : found ∈ graph.shards.filter matching := by simp [only]
  obtain ⟨stored, matched⟩ := mem_filter.mp foundMem
  have same : found = row := shard_eq_of_key stored mem (byKey found matched)
  exact same ▸ matched

end

theorem terminalizeClaimedShard_eq_ok {target : ShardStatus} {manifest : Option Digest}
    {failure : Option String} {telemetry : Option LabShardTelemetry} {sequence : Option ℕ}
    (done : graph.terminalizeClaimedShard row target now manifest failure telemetry
      sequence = .ok (next, hit)) :
    ∃ count,
      graph.updateShards (fun stored => unchangedShard row stored && stored.status = .running)
          (fun stored => stored.terminalized target manifest failure telemetry sequence now)
          (fun _ => rfl) = .ok (next, count) ∧
        hit = decide (count = 1) := by
  unfold terminalizeClaimedShard at done
  simp only [pair_eq_ok] at done
  obtain ⟨-, _, count, update, rfl, rfl⟩ := done
  exact ⟨count, update, rfl⟩

theorem setDefault_isSome :
    (findKey Prod.fst jobId (causes.setDefault jobId shardId)).isSome = true := by
  unfold FailureCauses.setDefault
  split
  · assumption
  · simp [findKey]

theorem isSome_setDefault (present : (findKey Prod.fst other causes).isSome = true) :
    (findKey Prod.fst other (causes.setDefault jobId shardId)).isSome = true := by
  unfold FailureCauses.setDefault
  split
  · exact present
  · obtain ⟨_, found⟩ := Option.isSome_iff_exists.mp present
    rw [findKey_append_of_some found]
    rfl

/-- What the first pass over the stale shards establishes for each of them. -/
def Sorted (graph : JobGraph) (causes : FailureCauses) (row : ShardRow) : Prop :=
  ∃ job, graph.jobRow row.jobId = some job ∧
    (job.controlIntent = .cancelRequested ∨ row.attemptCount < row.maxAttempts ∨
      (findKey Prod.fst row.jobId causes).isSome = true)

theorem staleCause_eq_ok (done : graph.staleCause causes row = .ok after) : Sorted graph after row ∧
    ∀ jobId, (findKey Prod.fst jobId causes).isSome = true →
      (findKey Prod.fst jobId after).isSome = true := by
  unfold staleCause requirePositive at done
  simp only [run_eq_ok, orRaise_eq_ok] at done
  obtain ⟨job, found, -, rfl⟩ := done
  by_cases exhausted : job.controlIntent ≠ .cancelRequested ∧ row.maxAttempts ≤ row.attemptCount
  · rw [if_pos exhausted]
    exact ⟨⟨job, found, .inr (.inr setDefault_isSome)⟩, fun _ present => isSome_setDefault present⟩
  · rw [if_neg exhausted]
    refine ⟨⟨job, found, ?_⟩, fun _ present => present⟩
    by_cases cancelling : job.controlIntent = .cancelRequested
    · exact .inl cancelling
    · exact .inr (.inl (by
        by_contra none
        exact exhausted ⟨cancelling, not_lt.mp none⟩))

theorem sorted_of_foldlM (done : rows.foldlM graph.staleCause causes = .ok after) :
    (∀ row ∈ rows, Sorted graph after row) ∧
      ∀ jobId, (findKey Prod.fst jobId causes).isSome = true →
        (findKey Prod.fst jobId after).isSome = true := by
  induction rows generalizing causes with
  | nil =>
    cases done
    refine ⟨?_, fun _ present => present⟩
    intro row mem
    cases mem
  | cons row rest ih =>
    rw [foldlM_cons, bind_eq_ok] at done
    obtain ⟨_, first, done⟩ := done
    obtain ⟨⟨job, found, sorted⟩, kept⟩ := staleCause_eq_ok first
    obtain ⟨restSorted, restKept⟩ := ih done
    refine ⟨?_, fun jobId present => restKept _ (kept _ present)⟩
    intro other mem
    rcases mem_cons.mp mem with rfl | later
    · refine ⟨job, found, sorted.imp_right (Or.imp_right (restKept _))⟩
    · exact restSorted other later

/-- The shards that a loop has still to visit are as they were read. -/
def UnvisitedShards (rows : List ShardRow) (graph : JobGraph) : Prop :=
  (rows.map ShardRow.key).Nodup ∧ ∀ row ∈ rows, row ∈ graph.shards

theorem UnvisitedShards.tail (unvisited : UnvisitedShards (row :: rest) graph)
    (byKey : ∀ stored, matching stored = true → stored.key = row.key)
    (updated : graph.updateShards matching change keeps = .ok (next, count)) :
    UnvisitedShards rest next := by
  obtain ⟨distinct, stored⟩ := unvisited
  rw [map_cons, nodup_cons] at distinct
  obtain ⟨-, rfl, -⟩ := updateShards_eq_ok updated
  refine ⟨distinct.2, ?_⟩
  intro other mem
  have unmatched : ¬ matching other = true := by
    intro matched
    exact distinct.1 (byKey other matched ▸ mem_map_of_mem mem)
  refine mem_map.mpr ⟨other, stored other (mem_cons_of_mem _ mem), ?_⟩
  exact if_neg unmatched

/-- What the second pass relies on: the shards that are left, and that no job
row has changed. -/
structure Reclaiming (before : JobGraph) (causes : FailureCauses)
    (rows : List ShardRow) (graph : JobGraph) : Prop where
  unvisited : UnvisitedShards rows graph
  jobs : ∀ jobId, graph.jobRow jobId = before.jobRow jobId
  sorted : ∀ row ∈ rows, Sorted before causes row

/-- Reclaiming one shard leaves the rest of the list to be reclaimed. -/
theorem reclaimShard_step {before : JobGraph} {reclaimed : Option Uuid}
    (ready : Reclaiming before causes (row :: rest) graph)
    (done : reclaimShard causes now graph row = .ok (reclaimed, next)) :
    Moves digests graph [] next ∧ Reclaiming before causes rest next := by
  have restSorted : ∀ other ∈ rest, Sorted before causes other :=
    fun other mem => ready.sorted other (mem_cons_of_mem _ mem)
  have stored : row ∈ graph.shards := ready.unvisited.2 row (by simp)
  unfold reclaimShard at done
  split at done
  · cases done
    refine ⟨.refl _, ?_, ready.jobs, restSorted⟩
    exact ⟨(nodup_cons.mp ready.unvisited.1).2, fun other mem =>
      ready.unvisited.2 other (mem_cons_of_mem _ mem)⟩
  · rename_i unblamed
    push Not at unblamed
    simp only [bind_eq_ok, orRaise_eq_ok] at done
    obtain ⟨job, found, done⟩ := done
    split at done
    · simp only [pair_eq_ok] at done
      obtain ⟨updated, _, terminalized, -, rfl⟩ := done
      obtain ⟨count, update, -⟩ := terminalizeClaimedShard_eq_ok terminalized
      obtain ⟨moves, sameJobs⟩ : ShardMoves digests graph updated := by
        refine moves_of_updateShards update ?_
        intro other _ matched
        simp only [Bool.and_eq_true, decide_eq_true_eq] at matched
        exact .stopped now matched.2
      exact ⟨moves, ready.unvisited.tail (fun _ => key_of_running) update,
        fun jobId => (sameJobs jobId).trans (ready.jobs jobId), restSorted⟩
    · rename_i continuing
      simp only [pair_eq_ok] at done
      obtain ⟨updated, count, update, -, rfl⟩ := done
      have attempts : row.attemptCount < row.maxAttempts := by
        obtain ⟨stale, staleFound, sorted⟩ := ready.sorted row (by simp)
        have same : stale = job :=
          Option.some_inj.mp (staleFound.symm.trans ((ready.jobs _).symm.trans found))
        rcases sorted with cancelling | remaining | blamed
        · exact absurd (same ▸ cancelling) continuing
        · exact remaining
        · exact absurd blamed unblamed.1
      obtain ⟨moves, sameJobs⟩ : ShardMoves digests graph updated := by
        refine moves_of_updateShards update ?_
        intro other mem matched
        have same : other = row := shard_eq_of_key mem stored (key_of_running matched)
        simp only [Bool.and_eq_true, decide_eq_true_eq] at matched
        exact .requeued now matched.2 (same ▸ attempts)
      exact ⟨moves, ready.unvisited.tail (fun _ => key_of_running) update,
        fun jobId => (sameJobs jobId).trans (ready.jobs jobId), restSorted⟩

theorem unvisitedShards_of_sublist
    (selected : ∃ sorted, rows.Sublist sorted ∧ sorted.Perm (graph.shards.filter keep)) :
    UnvisitedShards rows graph := by
  obtain ⟨sorted, sublist, perm⟩ := selected
  constructor
  · have distinct : (sorted.map ShardRow.key).Nodup :=
      (perm.map ShardRow.key).nodup_iff.mpr (graph.uniqueShards.sublist (filter_sublist.map _))
    exact distinct.sublist (sublist.map _)
  · intro _ mem
    exact mem_of_mem_filter (perm.mem_iff.mp (sublist.subset mem))

theorem moves_of_failExhaustedJob (positive : 1 ≤ lease.fencingToken)
    (done : failExhaustedJob causes lease now graph jobId = .ok (answer, next)) :
    Moves digests graph [] next := by
  unfold failExhaustedJob at done
  simp only [bind_eq_ok, orRaise_eq_ok] at done
  obtain ⟨_, found, done⟩ := done
  split at done
  · simp only [pair_eq_ok, orRaise_eq_ok] at done
    obtain ⟨-, _, -, _, _, failing, -, rfl⟩ := done
    have sameId := (mem_of_jobRow found).2
    exact moves_of_failJobTree positive (sameId ▸ found) failing
  · cases done
    exact .refl _

theorem moves_of_converge (positive : 1 ≤ lease.fencingToken)
    (done : converge lease now graph jobId = .ok (answer, next)) :
    Moves digests graph [] next := by
  unfold converge at done
  simp only [bind_eq_ok, orRaise_eq_ok] at done
  obtain ⟨row, found, done⟩ := done
  have sameId := (mem_of_jobRow found).2
  split at done
  · unfold settleControl at done
    simp only [pair_eq_ok] at done
    obtain ⟨_, _, ⟨adopted, taken, takeover, settling⟩, -, rfl⟩ := done
    have adopting : JobStep digests graph row adopted taken :=
      jobStep_of_adopt positive (sameId ▸ found) takeover
    have adoptedFound : taken.jobRow adopted.jobId = some adopted :=
      adopting.sameId ▸ adopting.found
    split at settling
    · exact adopting.moves.trans (jobStep_of_transition positive adoptedFound settling).moves
    · exact adopting.moves.trans (moves_of_cancelJob positive adoptedFound settling)
  · cases done
    exact .refl _

section Reports

variable {job : JobRow} {shard : ShardRow} {now : Time}

theorem moves_of_applyHeartbeatReport (mem : shard ∈ graph.shards)
    (running : shard.status = .running) (claimed : ∀ claimedAt ∈ shard.claimedAt, claimedAt ≤ now)
    (done : graph.applyHeartbeatReport shard extension now = .ok (reason, next)) :
    Moves digests graph [] next := by
  unfold applyHeartbeatReport at done
  simp only [run_eq_ok, orRaise_eq_ok, Prod.exists, Prod.mk.injEq] at done
  obtain ⟨existing, expires, _, _, update, -, rfl⟩ := done
  refine (moves_of_updateShards update ?_).1
  intro other otherMem matched
  have same : other = shard := shard_eq_of_key otherMem mem (key_of_unchangedShard matched)
  rw [same]
  exact .heartbeat _ now running claimed ⟨existing, expires, le_max_left existing _⟩

variable {manifest : Digest} {telemetry : Option LabShardTelemetry}

theorem success_of_terminalize {sequence : Option ℕ} (mem : shard ∈ graph.shards)
    (plan : telemetry.map LabShardTelemetry.workPlan = shard.definition.workPlan)
    (matching : ∀ reported ∈ telemetry, digests.telemetryMatches reported = true)
    (numbered : graph.nextCompletionSequence job.jobId telemetry = .ok sequence)
    (done : graph.terminalizeClaimedShard shard .succeeded now (some manifest) none
      telemetry sequence = .ok (next, true)) :
    ∃ change : ShardRow → ShardRow,
      ∃ keeps : ∀ row, (change row).key = row.key, next = graph.mapShards change keeps ∧
        ChangesOnly graph change shard
          (shard.terminalized .succeeded (some manifest) none telemetry sequence now) ∧
        graph.shardsMutable shard.jobId = true ∧
        SuccessMove digests shard
          (shard.terminalized .succeeded (some manifest) none telemetry sequence now) := by
  obtain ⟨count, update, counted⟩ := terminalizeClaimedShard_eq_ok done
  have one : count = 1 := by simpa using counted.symm
  obtain ⟨allowed, rfl, length⟩ := updateShards_eq_ok update
  have matched := matching_of_count mem (fun _ => key_of_running) (length.symm.trans one)
  have running : shard.status = .running := by
    simp only [Bool.and_eq_true, decide_eq_true_eq] at matched
    exact matched.2
  refine ⟨_, _, rfl, changesOnly_of_matching mem (fun _ => key_of_running) matched,
    allowed shard mem matched, running, manifest, telemetry, sequence, now, rfl, plan, matching, ?_⟩
  unfold nextCompletionSequence at numbered
  split at numbered
  · cases numbered
    exact ⟨rfl, nofun⟩
  · simp only [run_eq_ok] at numbered
    obtain ⟨-, rfl⟩ := numbered
    refine ⟨rfl, ?_⟩
    intro _ same
    rw [← Option.some_inj.mp same]
    exact Nat.le_add_left 1 _

section

variable {lease : LabLeaseRecord} (positive : 1 ≤ lease.fencingToken)
  (found : graph.jobRow job.jobId = some job)

include positive found

/-- A report of success moves its shard, and the job with the last of them. -/
theorem moves_of_applySucceededReport (runningJob : job.status = .running)
    (mem : shard ∈ graph.shards) (sameJob : shard.jobId = job.jobId)
    (plan : telemetry.map LabShardTelemetry.workPlan = shard.definition.workPlan)
    (matching : ∀ reported ∈ telemetry, digests.telemetryMatches reported = true)
    (done :
      graph.applySucceededReport manifest telemetry lease job shard now = .ok (reason, next)) :
    Moves digests graph [.succeeded shard.jobId shard.definition.shardId]
      next := by
  unfold applySucceededReport at done
  simp only [pair_eq_ok] at done
  obtain ⟨_, numbered, _, _, terminalized, rfl, _, concluding, -, rfl⟩ := done
  obtain ⟨change, keeps, rfl, changes, mutable, success⟩ :=
    success_of_terminalize mem plan matching numbered terminalized
  have stillFound : (graph.mapShards change keeps).jobRow job.jobId = some job := found
  have shardFound : graph.jobRow shard.jobId = some job := sameJob ▸ found
  -- the shard alone: its job is not ready, or cannot be
  have alone : (job.resultContractVersion = some completeResultContractVersion →
      ¬ (graph.mapShards change keeps).AllSucceeded shard.jobId) →
      Moves digests graph [.succeeded shard.jobId shard.definition.shardId]
        (graph.mapShards change keeps) := fun unfinished =>
    .single (.succeeded keeps changes mutable success shardFound runningJob unfinished)
  unfold concludeSuccess at concluding
  split at concluding
  · split at concluding
    · unfold markResultReady at concluding
      simp only [run_eq_ok, Prod.exists] at concluding
      obtain ⟨-, -, _, _, update, -, rfl⟩ := concluding
      obtain ⟨checked, rfl⟩ := updateJob_of_found stillFound (by simp [runningJob]) update
      refine .single (.readied keeps changes mutable success sameJob.symm found ?_ rfl checked ?_)
      · exact ⟨rfl, rfl, .inl rfl, .inr⟩
      · exact ⟨rfl, congrArg some runningJob.symm, runningJob.symm, rfl⟩
    · rename_i legacy
      simp only [run_eq_ok, Prod.exists] at concluding
      obtain ⟨new, failed, failing, rfl⟩ := concluding
      have step : JobStep digests (graph.mapShards change keeps) job new failed :=
        jobStep_of_transition positive stillFound failing
      exact (alone fun complete => absurd complete legacy).append step.moves
  · rename_i remaining
    have unfinished : ¬ (graph.mapShards change keeps).AllSucceeded shard.jobId := by
      rw [sameJob]
      exact fun all => remaining all.2
    split at concluding
    · simp only [run_eq_ok, Prod.exists] at concluding
      obtain ⟨new, paused, pausing, rfl⟩ := concluding
      have step : JobStep digests (graph.mapShards change keeps) job new paused :=
        jobStep_of_transition positive stillFound pausing
      exact (alone fun _ => unfinished).append step.moves
    · cases concluding
      exact alone fun _ => unfinished

theorem moves_of_applyFailedReport
    (done : graph.applyFailedReport failureJson lease job shard now = .ok (reason, next)) :
    Moves digests graph [] next := by
  unfold applyFailedReport at done
  simp only [run_eq_ok] at done
  obtain ⟨-, done⟩ := done
  split at done
  all_goals
    simp only [pair_eq_ok] at done
    obtain ⟨_, _, failing, -, rfl⟩ := done
    exact moves_of_failJobTree positive found failing

theorem moves_of_stopCancelled
    (done : graph.stopCancelled lease job shard now = .ok (reason, next)) :
    Moves digests graph [] next := by
  unfold stopCancelled at done
  simp only [run_eq_ok, Prod.exists] at done
  obtain ⟨updated, _, terminalized, -, ended, _, ending, done⟩ := done
  obtain ⟨matched, update, -⟩ := terminalizeClaimedShard_eq_ok terminalized
  obtain ⟨stopMoves, sameJobs⟩ : ShardMoves digests graph updated := by
    refine moves_of_updateShards update ?_
    intro _ _ matched
    simp only [Bool.and_eq_true, decide_eq_true_eq] at matched
    exact .stopped now matched.2
  obtain ⟨endMoves, endJobs⟩ : ShardMoves digests updated ended :=
    moves_of_terminalizeNonterminalShards ending
  have stillFound : ended.jobRow job.jobId = some job :=
    ((endJobs _).trans (sameJobs _)).trans found
  split at done
  · simp only [pair_eq_ok] at done
    obtain ⟨_, _, cancelling, -, rfl⟩ := done
    exact (stopMoves.trans endMoves).trans
      (jobStep_of_transition positive stillFound cancelling).moves
  · cases done
    exact stopMoves.trans endMoves

theorem moves_of_stopRequeued (mem : shard ∈ graph.shards) (running : shard.status = .running)
    (attempts : shard.attemptCount < shard.maxAttempts)
    (done : graph.stopRequeued lease job shard now = .ok (reason, next)) :
    Moves digests graph [] next := by
  unfold stopRequeued at done
  simp only [bind_eq_ok, Prod.exists] at done
  obtain ⟨updated, _, update, done⟩ := done
  obtain ⟨moves, sameJobs⟩ : ShardMoves digests graph updated := by
    refine moves_of_updateShards update ?_
    intro other otherMem matched
    have same : other = shard := shard_eq_of_key otherMem mem (key_of_unchangedShard matched)
    rw [same]
    exact .requeued now running attempts
  split at done
  · simp only [pair_eq_ok] at done
    obtain ⟨_, _, pausing, -, rfl⟩ := done
    exact moves.trans (jobStep_of_transition positive ((sameJobs _).trans found) pausing).moves
  · cases done
    exact moves

theorem moves_of_applyWorkerStoppedReport (mem : shard ∈ graph.shards)
    (running : shard.status = .running)
    (done : graph.applyWorkerStoppedReport lease job shard now = .ok (reason, next)) :
    Moves digests graph [] next := by
  unfold applyWorkerStoppedReport at done
  split at done
  · exact moves_of_stopCancelled positive found done
  · simp only [run_eq_ok] at done
    obtain ⟨-, done⟩ := done
    split at done
    · simp only [pair_eq_ok] at done
      obtain ⟨_, _, failing, -, rfl⟩ := done
      exact moves_of_failJobTree positive found failing
    · rename_i remaining
      exact moves_of_stopRequeued positive found mem running (not_le.mp remaining) done

end

end Reports

end JobGraph

end RQuant.Lab
