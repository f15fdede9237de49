import RQuant.Lab.Moves

/-!
# Lab jobs: transactions as moves

One lemma per function of the store: what it does to the job graph is a
sequence of moves.
-/

namespace RQuant.Lab

open Foundation

variable {now : Time} {eventType reason : String} {envelope : LabCommandEnvelope}
  {receipt : LabCommandReceipt} {count maxAttempts : ℕ} {confirmed hit : Bool}
  {lease : LabLeaseRecord} {matching : JobRow → Bool} {change : JobRow → JobRow}
  {authorization : JobGraph.Authorization} {event : EventRow} {spec : ResearchRunSpec}
  {job : JobRow}

namespace JobGraph

variable {digests : LabDigests} {graph next : JobGraph} {jobId : Uuid} {row new : JobRow}

theorem updateJob_of_found (found : graph.jobRow jobId = some row) (matched : matching row = true)
    (updated : graph.updateJob authorization jobId matching change = .ok (next, hit)) :
    graph.checkJobUpdate authorization row (change row) = .ok () ∧
      next = graph.setJob (change row) := by
  unfold updateJob at updated
  rw [found] at updated
  simp only [run_eq_ok, matched, if_true, Prod.mk.injEq] at updated
  obtain ⟨checked, rfl, -⟩ := updated
  exact ⟨checked, rfl⟩

theorem matching_of_updateJob (found : graph.jobRow jobId = some row)
    (updated : graph.updateJob authorization jobId matching change = .ok (next, true)) :
    matching row = true := by
  unfold updateJob at updated
  rw [found] at updated
  by_contra different
  simp only [if_neg different] at updated
  cases updated

theorem updateShards_eq_ok {matching : ShardRow → Bool} {change : ShardRow → ShardRow}
    {keeps : ∀ row, (change row).key = row.key}
    (updated : graph.updateShards matching change keeps = .ok (next, count)) :
    (∀ row ∈ graph.shards, matching row = true → graph.shardsMutable row.jobId = true) ∧
      next = graph.mapShards (changeMatching matching change) (key_changeMatching keeps) ∧
      count = (graph.shards.filter matching).length := by
  unfold updateShards at updated
  simp only [pair_eq_ok] at updated
  obtain ⟨allowed, rfl, rfl⟩ := updated
  exact ⟨allowed, rfl, rfl⟩

/-- Shards move; the jobs stay. -/
abbrev ShardMoves (digests : LabDigests) (graph next : JobGraph) : Prop :=
  Moves digests graph [] next ∧ ∀ jobId, next.jobRow jobId = graph.jobRow jobId

theorem moves_of_updateShards {matching : ShardRow → Bool} {change : ShardRow → ShardRow}
    {keeps : ∀ row, (change row).key = row.key}
    (updated : graph.updateShards matching change keeps = .ok (next, count))
    (each : ∀ row ∈ graph.shards, matching row = true → ShardMove row (change row)) :
    ShardMoves digests graph next := by
  obtain ⟨allowed, rfl, -⟩ := updateShards_eq_ok updated
  refine ⟨.single (.shardsMoved _ ?_), fun _ => rfl⟩
  intro row mem
  unfold changeMatching
  by_cases matched : matching row = true
  · rw [if_pos matched]
    exact .inr ⟨allowed row mem matched, each row mem matched⟩
  · rw [if_neg matched]
    exact .inl rfl

/-- The job `row` becomes `new`; the shards and the other jobs stay. -/
structure JobStep (digests : LabDigests) (graph : JobGraph) (row new : JobRow)
    (next : JobGraph) : Prop where
  moves : Moves digests graph [] next
  found : next.jobRow row.jobId = some new
  sameId : new.jobId = row.jobId
  shards : next.shards = graph.shards
  others : ∀ jobId, jobId ≠ row.jobId → next.jobRow jobId = graph.jobRow jobId

section

variable (found : graph.jobRow row.jobId = some row)

include found

theorem JobStep.refl : JobStep digests graph row row graph :=
  ⟨.refl graph, found, rfl, rfl, fun _ _ => rfl⟩

section

variable (matched : matching row = true)
  (updated : graph.updateJob authorization row.jobId matching change = .ok (next, hit))
  (sameId : (change row).jobId = row.jobId) (moved : JobMove row (change row))
  (logged : Logs event row (change row))

include matched updated sameId moved logged

theorem jobStep_of_write : JobStep digests graph row (change row) (next.addEvent event) := by
  obtain ⟨checked, rfl⟩ := updateJob_of_found found matched updated
  exact
    { moves := .single (.jobMoved _ (sameId ▸ found) moved checked logged)
      found := sameId ▸ jobRow_setJob (sameId ▸ found)
      sameId := sameId
      shards := rfl
      others := fun _ different => jobRow_setJob_of_ne (sameId ▸ different) }

theorem jobStep_of_update (reloaded : (next.addEvent event).reload row.jobId = .ok (new, final)) :
    JobStep digests graph row new final := by
  have step : JobStep digests graph row (change row) (next.addEvent event) :=
    jobStep_of_write found matched updated sameId moved logged
  unfold reload at reloaded
  rw [step.found] at reloaded
  cases reloaded
  exact step

end

end

theorem jobStep_of_adopt (positive : 1 ≤ lease.fencingToken)
    (found : graph.jobRow row.jobId = some row)
    (adopted : graph.adoptRunningJobFence row lease now eventType reason = .ok (new, next)) :
    JobStep digests graph row new next := by
  unfold adoptRunningJobFence at adopted
  split at adopted
  · cases adopted
    exact .refl found
  · rename_i needed
    push Not at needed
    simp only [run_eq_ok, Prod.exists] at adopted
    obtain ⟨_, _, update, -, reloaded⟩ := adopted
    refine jobStep_of_update found (by simp [needed.1]) update rfl ?_ ?_ reloaded
    · exact
        { identity := rfl
          version := rfl
          fence := .inr fun fence same => Option.some_inj.mp same ▸ positive
          paused := fun paused => .inr paused }
    · exact
        { job := rfl
          priorStatus := by rw [needed.1]
          newStatus := needed.1.symm
          version := rfl }

theorem jobStep_of_transition (positive : 1 ≤ lease.fencingToken)
    (found : graph.jobRow row.jobId = some row)
    (moved : graph.transitionInTransaction row target lease reason now requestId
      recoverable eventType confirmed = .ok (new, next)) :
    JobStep digests graph row new next := by
  unfold transitionInTransaction at moved
  simp only [run_eq_ok, Prod.exists] at moved
  obtain ⟨-, -, allowed, -, -, -, _, _, update, reloaded⟩ := moved
  refine jobStep_of_update found (by simp) update rfl ?_ ?_ reloaded
  · exact
      { identity := rfl
        version := rfl
        fence := by
          change nextFence row target lease = _ ∨ _
          unfold transitioned nextFence
          split
          · exact .inr fun fence same => Option.some_inj.mp same ▸ positive
          · exact .inl rfl
        paused := by
          rintro rfl
          cases status : row.status <;> rw [status] at allowed
          all_goals simp_all [JobStatus.allowed] }
  · exact ⟨rfl, rfl, rfl, rfl⟩

theorem jobStep_of_setControlIntent
    (found : graph.jobRow row.jobId = some row)
    (moved :
      graph.setControlIntentInTransaction row intent lease reason now requestId = .ok (new, next)) :
    JobStep digests graph row new next := by
  unfold setControlIntentInTransaction at moved
  simp only [run_eq_ok, Prod.exists] at moved
  obtain ⟨-, -, _, _, update, reloaded⟩ := moved
  refine jobStep_of_update found (by simp) update rfl ?_ ⟨rfl, rfl, rfl, rfl⟩ reloaded
  exact ⟨rfl, rfl, .inl rfl, .inr⟩

theorem jobStep_of_endJob (found : graph.jobRow row.jobId = some row)
    (ended :
      graph.endJob authorization row recoverable lease now eventType reason changed = .ok next) :
    ∃ new, JobStep digests graph row new next := by
  unfold endJob at ended
  simp only [run_eq_ok, Prod.exists] at ended
  obtain ⟨_, _, update, -, rfl⟩ := ended
  refine ⟨_, jobStep_of_write found (by simp) update rfl ?_ ⟨rfl, rfl, rfl, rfl⟩⟩
  exact ⟨rfl, rfl, .inr (by rintro _ ⟨⟩), by rintro ⟨⟩⟩

theorem moves_of_failShards {failure : ShardRow → String}
    {keeps : ∀ row : ShardRow, (row.ended .failed (some (failure row)) now).key = row.key}
    (updated : graph.updateShards (openShard jobId)
      (fun stored => stored.ended .failed (some (failure stored)) now)
      keeps = .ok (next, count)) :
    ShardMoves digests graph next := by
  refine moves_of_updateShards updated ?_
  intro row _ matched
  unfold openShard at matched
  simp only [Bool.and_eq_true, decide_eq_true_eq] at matched
  exact .failed _ now matched.2

theorem moves_of_terminalizeNonterminalShards {target : ShardStatus}
    (updated : graph.terminalizeNonterminalShards jobId target now = .ok (next, count)) :
    ShardMoves digests graph next := by
  unfold terminalizeNonterminalShards at updated
  simp only [run_eq_ok] at updated
  obtain ⟨rfl, updated⟩ := updated
  refine moves_of_updateShards updated ?_
  intro _ _ matched
  unfold openShard at matched
  simp only [Bool.and_eq_true, decide_eq_true_eq] at matched
  exact .cancelled now matched.2

section

variable {lease : LabLeaseRecord} (positive : 1 ≤ lease.fencingToken)
  (found : graph.jobRow row.jobId = some row)

include positive found

theorem moves_of_cancelJob
    (cancelled :
      graph.cancelJob row reason lease now requestId eventType confirmed = .ok (new, next)) :
    Moves digests graph [] next := by
  unfold cancelJob at cancelled
  simp only [bind_eq_ok, Prod.exists] at cancelled
  obtain ⟨ended, _, updated, moved⟩ := cancelled
  obtain ⟨shardMoves, sameJobs⟩ := moves_of_terminalizeNonterminalShards updated
  have step : JobStep digests ended row new next :=
    jobStep_of_transition positive ((sameJobs _).trans found) moved
  exact shardMoves.trans step.moves

theorem moves_of_failJobRow
    (failed : graph.failJobRow row treeRecoverable lease now reason = .ok (new, next)) :
    Moves digests graph [] next := by
  unfold failJobRow at failed
  split at failed
  · simp only [bind_eq_ok] at failed
    obtain ⟨_, update, reloaded⟩ := failed
    obtain ⟨_, step⟩ := jobStep_of_endJob found update
    unfold reload at reloaded
    rw [step.found] at reloaded
    cases reloaded
    exact step.moves
  · exact (jobStep_of_transition positive found failed).moves

theorem moves_of_failJobTree
    (failed :
      graph.failJobTree row failedShardId failedShardFailureJson siblingFailureJson recoverable
        lease now reason = .ok (new, next)) :
    Moves digests graph [] next := by
  unfold failJobTree at failed
  split at failed
  · cases failed
    exact .refl _
  · simp only [run_eq_ok, Prod.exists] at failed
    obtain ⟨adopted, taken, takeover, ended, _, update, -, concluded⟩ := failed
    have adopting : JobStep digests graph row adopted taken :=
      jobStep_of_adopt positive found takeover
    obtain ⟨shardMoves, sameJobs⟩ := moves_of_failShards update
    have stillFound : ended.jobRow adopted.jobId = some adopted :=
      (sameJobs _).trans (adopting.sameId ▸ adopting.found)
    exact (adopting.moves.trans shardMoves).trans
      (moves_of_failJobRow positive stillFound concluded)

end

section Commands

theorem moves_of_acceptCommand
    (accepted : acceptCommand digests envelope reason changed = .ok (receipt, next))
    (moves : ∀ {new}, changed = .ok (new, next) → Moves digests graph [] next) :
    Moves digests graph [] next := by
  unfold acceptCommand at accepted
  simp only [pair_eq_ok] at accepted
  obtain ⟨_, _, done, -, rfl⟩ := accepted
  exact moves done

theorem moves_of_rejectCommand
    (rejected : graph.rejectCommand digests envelope reason jobVersion = .ok (receipt, next)) :
    Moves digests graph [] next := by
  cases rejected
  exact .refl graph

theorem moves_of_submitJob (valid : 1 ≤ maxAttempts)
    (submitted : graph.submitJob envelope jobId spec maxAttempts lease now = .ok next) :
    Moves digests graph [] next := by
  unfold submitJob insertJob at submitted
  simp only [run_eq_ok] at submitted
  obtain ⟨_, inserted, rfl⟩ := submitted
  split at inserted
  · rename_i fresh
    cases inserted
    exact .single (.submitted jobId spec maxAttempts now fresh valid ⟨rfl, rfl, rfl, rfl, rfl⟩)
  · cases inserted

theorem moves_of_applySubmitCommand (valid : 1 ≤ maxAttempts)
    (applied : graph.applySubmitCommand digests envelope jobId spec maxAttempts lease
      now = .ok (receipt, next)) :
    Moves digests graph [] next := by
  unfold applySubmitCommand at applied
  split at applied
  · exact moves_of_rejectCommand applied
  · split at applied
    · exact moves_of_rejectCommand applied
    · simp only [pair_eq_ok] at applied
      obtain ⟨_, submitted, -, rfl⟩ := applied
      exact moves_of_submitJob valid submitted

section

variable {lease : LabLeaseRecord} (positive : 1 ≤ lease.fencingToken)
  (found : graph.jobRow row.jobId = some row)

include positive found

theorem moves_of_applyCancelCommand
    (applied :
      graph.applyCancelCommand digests envelope row reason lease now = .ok (receipt, next)) :
    Moves digests graph [] next := by
  unfold applyCancelCommand at applied
  split_ifs at applied
  · exact moves_of_acceptCommand applied (moves_of_cancelJob positive found)
  · exact moves_of_acceptCommand applied fun done => (jobStep_of_setControlIntent found done).moves
  · exact moves_of_acceptCommand applied (moves_of_cancelJob positive found)
  · exact moves_of_rejectCommand applied

theorem moves_of_applyPauseCommand
    (applied :
      graph.applyPauseCommand digests envelope row reason lease now = .ok (receipt, next)) :
    Moves digests graph [] next := by
  unfold applyPauseCommand at applied
  split_ifs at applied
  · exact moves_of_rejectCommand applied
  · exact moves_of_rejectCommand applied
  · exact moves_of_rejectCommand applied
  · exact moves_of_acceptCommand applied fun done =>
      (jobStep_of_transition positive found done).moves
  · exact moves_of_acceptCommand applied fun done => (jobStep_of_setControlIntent found done).moves

theorem moves_of_applyResumeCommand
    (applied :
      graph.applyResumeCommand digests envelope row reason lease now = .ok (receipt, next)) :
    Moves digests graph [] next := by
  unfold applyResumeCommand at applied
  split_ifs at applied
  · exact moves_of_acceptCommand applied fun done => (jobStep_of_setControlIntent found done).moves
  · exact moves_of_rejectCommand applied
  · exact moves_of_acceptCommand applied fun done =>
      (jobStep_of_transition positive found done).moves

end

section

variable (found : graph.jobRow row.jobId = some row)

include found

theorem moves_of_fenceRetry (failed : row.status = .failed)
    (fenced : graph.fenceRetry envelope row lease now = .ok next) :
    Moves digests graph [] next := by
  unfold fenceRetry at fenced
  simp only [run_eq_ok, Prod.exists] at fenced
  obtain ⟨_, _, update, -, rfl⟩ := fenced
  refine (jobStep_of_write found (by simp [failed]) update rfl ?_ ?_).moves
  · exact ⟨rfl, rfl, .inl rfl, .inr⟩
  · exact ⟨rfl, congrArg some failed.symm, failed.symm, rfl⟩

theorem moves_of_retryJob (remaining : graph.hasExhaustedShard row.jobId = false)
    (retried : graph.retryJob envelope row reason lease now = .ok next) :
    Moves digests graph [] next := by
  unfold retryJob at retried
  simp only [run_eq_ok, Prod.exists] at retried
  obtain ⟨queued, _, update, _, _, jobUpdate, rfl⟩ := retried
  obtain ⟨shardMoves, sameJobs⟩ : ShardMoves digests graph queued := by
    refine moves_of_updateShards update ?_
    intro _ mem unfinished
    unfold unfinishedShard at unfinished
    unfold hasExhaustedShard at remaining
    simp only [Bool.and_eq_true, decide_eq_true_eq] at unfinished
    rw [List.any_eq_false] at remaining
    have notExhausted := remaining _ (mem_shardsOf.mpr ⟨mem, unfinished.1⟩)
    exact .retried now unfinished.2 (by simpa [unfinished.2] using notExhausted)
  have stillFound : queued.jobRow row.jobId = some row := (sameJobs _).trans found
  refine shardMoves.trans
    (jobStep_of_write stillFound (by simp) jobUpdate rfl ?_ ⟨rfl, rfl, rfl, rfl⟩).moves
  exact ⟨rfl, rfl, .inr (by rintro _ ⟨⟩), by rintro ⟨⟩⟩

theorem moves_of_applyRetryCommand
    (applied :
      graph.applyRetryCommand digests envelope row reason lease now = .ok (receipt, next)) :
    Moves digests graph [] next := by
  unfold applyRetryCommand at applied
  split at applied
  · exact moves_of_rejectCommand applied
  · rename_i failed
    rw [not_not] at failed
    split at applied
    · exact moves_of_rejectCommand applied
    · split at applied
      · simp only [pair_eq_ok] at applied
        obtain ⟨_, fencing, -, rfl⟩ := applied
        exact moves_of_fenceRetry found failed fencing
      · rename_i remaining
        simp only [run_eq_ok] at applied
        obtain ⟨-, applied⟩ := applied
        split at applied
        · exact moves_of_rejectCommand applied
        · simp only [pair_eq_ok] at applied
          obtain ⟨_, retried, -, rfl⟩ := applied
          exact moves_of_retryJob found (by simpa using remaining) retried

end

/-- A control command either changes nothing or is applied to its job. -/
theorem moves_of_applyControl
    (applied :
      graph.applyControl digests envelope jobId expectedVersion apply = .ok (receipt, next))
    (each : ∀ row, graph.jobRow row.jobId = some row →
      apply row = .ok (receipt, next) → Moves digests graph [] next) :
    Moves digests graph [] next := by
  unfold applyControl at applied
  split at applied
  · exact moves_of_rejectCommand applied
  · rename_i stored found
    split at applied
    · exact moves_of_rejectCommand applied
    · have sameId := (mem_of_jobRow found).2
      exact each stored (sameId ▸ found) applied

theorem moves_of_applyNewCommand
    (positive : 1 ≤ lease.fencingToken) (valid : envelope.command.Valid)
    (applied : graph.applyNewCommand digests envelope lease now = .ok (receipt, next)) :
    Moves digests graph [] next := by
  unfold applyNewCommand at applied
  split at applied
  case h_1 command =>
    rw [command] at valid
    exact moves_of_applySubmitCommand valid applied
  case h_2 =>
    exact moves_of_applyControl applied fun row found done =>
      moves_of_applyCancelCommand positive found done
  case h_3 =>
    exact moves_of_applyControl applied fun row found done =>
      moves_of_applyPauseCommand positive found done
  case h_4 =>
    exact moves_of_applyControl applied fun row found done =>
      moves_of_applyResumeCommand positive found done
  case h_5 =>
    exact moves_of_applyControl applied fun row found done => moves_of_applyRetryCommand found done

end Commands

/-! ## Planning, deadlines and recovery of jobs -/

theorem moves_of_storePlan (found : graph.jobRow job.jobId = some job)
    (unplanned : graph.shardsOf job.jobId = []) (nonempty : definitions ≠ [])
    (short : definitions.length ≤ maxJobShards)
    (stored : graph.storePlan digests job definitions now = .ok (records, next)) :
    Moves digests graph [] next := by
  unfold storePlan insertShards at stored
  simp only [pair_eq_ok] at stored
  obtain ⟨queued, -, _, _, update, planned, inserted, _, readBack, -, rfl⟩ := stored
  obtain ⟨checked, rfl⟩ := updateJob_of_found found rfl update
  split at inserted
  · rename_i fresh
    cases inserted
    refine .single (.planned now definitions fresh found queued unplanned nonempty short checked ?_)
    intro definition mem
    unfold storedPlan at readBack
    simp only [run_eq_ok] at readBack
    have stored :
        plannedRow job now definition ∈ graph.shards ++ definitions.map (plannedRow job now) :=
      List.mem_append_right _ (List.mem_map_of_mem mem)
    obtain ⟨record, -, isRead⟩ :=
      exists_of_mapM_eq_ok readBack.2 (mem_sortOn.mpr (mem_shardsOf.mpr ⟨stored, rfl⟩))
    have same : record = plannedRow job now definition := by
      unfold shardFromRow at isRead
      simp only [run_eq_ok] at isRead
      exact isRead.2.2.symm
    rw [isRead, same]
  · cases inserted

/-- The rows that a loop has still to visit are as they were read. -/
def Unvisited (rows : List JobRow) (graph : JobGraph) : Prop :=
  (rows.map JobRow.jobId).Nodup ∧ ∀ row ∈ rows, graph.jobRow row.jobId = some row

theorem unvisited_of_perm (selected : rows.Perm (graph.jobs.filter keep)) :
    Unvisited rows graph := by
  constructor
  · exact (selected.map JobRow.jobId).nodup_iff.mpr
      (graph.uniqueJobs.sublist (List.filter_sublist.map _))
  · intro _ mem
    exact jobRow_of_mem (List.mem_of_mem_filter (selected.mem_iff.mp mem))

theorem Unvisited.tail (unvisited : Unvisited (row :: rest) graph)
    (others : ∀ jobId, jobId ≠ row.jobId → next.jobRow jobId = graph.jobRow jobId) :
    Unvisited rest next := by
  obtain ⟨distinct, unchanged⟩ := unvisited
  rw [List.map_cons, List.nodup_cons] at distinct
  refine ⟨distinct.2, ?_⟩
  intro other mem
  have different : other.jobId ≠ row.jobId := by
    intro same
    exact distinct.1 (same ▸ List.mem_map_of_mem mem)
  rw [others _ different]
  exact unchanged other (List.mem_cons_of_mem _ mem)

theorem moves_of_expireJob (found : graph.jobRow row.jobId = some row)
    (done : expireJob lease now graph row = .ok (expired, next)) :
    Moves digests graph [] next ∧
      ∀ jobId, jobId ≠ row.jobId → next.jobRow jobId = graph.jobRow jobId := by
  unfold expireJob at done
  simp only [pair_eq_ok] at done
  obtain ⟨failed, _, update, _, ending, -, rfl⟩ := done
  obtain ⟨shardMoves, sameJobs⟩ := moves_of_failShards update
  have stillFound : failed.jobRow row.jobId = some row := (sameJobs _).trans found
  obtain ⟨_, step⟩ := jobStep_of_endJob stillFound ending
  exact ⟨shardMoves.trans step.moves, fun jobId different =>
    (step.others jobId different).trans (sameJobs jobId)⟩

theorem jobStep_of_recoverJob (positive : 1 ≤ lease.fencingToken) (running : row.status = .running)
    (found : graph.jobRow row.jobId = some row)
    (done : recoverJob lease now graph row = .ok (record, next)) :
    ∃ new, JobStep digests graph row new next := by
  unfold recoverJob at done
  simp only [pair_eq_ok] at done
  obtain ⟨-, _, _, update, new, _, reloaded, _, -, -, rfl⟩ := done
  refine ⟨new, jobStep_of_update found (by simp) update rfl ?_ ?_ reloaded⟩
  · exact
      { identity := rfl
        version := rfl
        fence := .inr fun fence same => Option.some_inj.mp same ▸ positive
        paused := fun _ => .inl running }
  · exact ⟨rfl, by rw [running], rfl, rfl⟩

end JobGraph

end RQuant.Lab
