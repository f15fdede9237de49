import RQuant.Lab.Readable

/-!
# Lab jobs: control commands

In a sound store a control command is always answered, except for one case: a
running job that still carries the fence of an earlier scheduler refuses to be
cancelled, paused or resumed by the current one.
-/

namespace RQuant.Lab

open Foundation JobGraph Ledger

/-- A computation that fails with the fence error of a foreign job when
`refused` holds, and succeeds otherwise. -/
structure Settles {α : Type} (outcome : Except LabError α) (refused : Prop) : Prop where
  fails : refused → outcome = .error JobGraph.foreignFence
  succeeds : ¬ refused → ∃ value, outcome = .ok value

namespace Settles

variable {α β : Type} {refused : Prop}
  {value : α} {first : Except LabError α} {next : α → Except LabError β}

theorem of_ok (done : outcome = .ok value) (never : ¬ refused) : Settles outcome refused :=
  ⟨fun holds => absurd holds never, fun _ => ⟨value, done⟩⟩

theorem bind (settles : Settles first refused)
    (follows : ∀ value, first = .ok value → ∃ result, next value = .ok result) :
    Settles (first >>= next) refused := by
  constructor
  · intro holds
    rw [settles.fails holds, error_bind]
  · intro fails
    obtain ⟨value, done⟩ := settles.succeeds fails
    rw [done, ok_bind]
    exact follows value done

theorem after (done : first = .ok value) (settles : Settles (next value) refused) :
    Settles (first >>= next) refused := by
  rw [done, ok_bind]
  exact settles

theorem check {condition : Prop} [Decidable condition] {next : Unit → Except LabError β}
    (refusal : refused ↔ ¬ condition) (follows : condition → ∃ result, next () = .ok result) :
    Settles (require condition JobGraph.foreignFence >>= next) refused := by
  constructor
  · intro holds
    rw [require_of_not (refusal.mp holds), error_bind]
  · intro fails
    have holds : condition := by
      by_contra absent
      exact fails (refusal.mpr absent)
    rw [require_of holds, ok_bind]
    exact follows holds

end Settles

/-- A running job, not ready, that another scheduler runs. -/
def JobRow.Foreign (row : JobRow) (lease : LabLeaseRecord) : Prop :=
  row.status = .running ∧ row.resultState ≠ .ready ∧
    row.schedulerFencingToken ≠ some lease.fencingToken
deriving Decidable

variable {jobId : Uuid} {answer eventType reason : String} {now : Time} {requestId : Option Uuid}
  {authority : Option Bool} {target : JobStatus} {authorization : JobGraph.Authorization}
  {row : JobRow}

namespace JobGraph

variable {graph : JobGraph} {old new : JobRow}

theorem updateJob_eq_ok (found : graph.jobRow jobId = some old) (matched : matching old = true)
    (checked : graph.checkJobUpdate authorization old (change old) = .ok ()) :
    graph.updateJob authorization jobId matching change =
      .ok (graph.setJob (change old), true) := by
  unfold updateJob
  rw [found]
  simp only [matched, if_true]
  rw [checked, ok_bind]
  rfl

theorem reload_insertEvent (new : JobRow) (found : graph.jobRow new.jobId = some old) :
    ∃ result, ((graph.setJob new).insertEvent new.jobId requestId eventType
      priorStatus newStatus jobVersion reason fencingToken now).reload new.jobId = .ok result := by
  unfold reload
  have written : ((graph.setJob new).insertEvent new.jobId requestId eventType
      priorStatus newStatus jobVersion reason fencingToken now).jobRow
        new.jobId = some new := jobRow_setJob found
  rw [written]
  exact ⟨_, rfl⟩

structure StaysPending (graph : JobGraph) (old new : JobRow) : Prop where
  complete : old.requiresCompleteResult = true
  sameComplete : new.requiresCompleteResult = old.requiresCompleteResult
  before : old.resultState = .pending
  after : new.resultState = .pending
  status : new.status ≠ .succeeded
  unindexed : graph.artifactRow new.jobId = none
  unfinished : new.status = .running → new.Contracted → ¬ graph.AllSucceeded new.jobId

/-- The triggers accept a row that stays pending, unless it comes back from a
state that is final. -/
theorem checkJobUpdate_of_staysPending (stays : StaysPending graph old new)
    (notFinal : old.status = .succeeded ∨ old.status = .cancelled → new.status = old.status)
    (retried : old.status = .failed →
      new.status = .failed ∨ new.status = .queued ∧ ¬ RetryRefused authorization old new) :
    graph.checkJobUpdate authorization old new = .ok () := by
  unfold checkJobUpdate
  simp only [run_eq_ok]
  refine ⟨?_, stays.sameComplete, ?_, ?_⟩
  · rintro ⟨-, isSealed⟩
    rw [stays.before] at isSealed
    cases isSealed
  · rintro ⟨-, ready⟩
    rw [stays.before] at ready
    cases ready
  · rintro (⟨legacy, -⟩ | ⟨-, ⟨-, refused⟩ | ⟨ready, -⟩ | ⟨isSealed, -⟩⟩ |
      ⟨final, changed⟩ | ⟨failed, other, notQueued⟩ |
      ⟨failed, queued, refused⟩)
    · rw [stays.after] at legacy
      cases legacy
    · rcases refused with succeeded | ⟨-, ready, -⟩ | indexed | ⟨running, contracted, finished⟩
      · exact stays.status succeeded
      · rw [stays.before] at ready
        cases ready
      · rw [stays.unindexed] at indexed
        cases indexed
      · exact stays.unfinished running contracted finished
    · rw [stays.after] at ready
      cases ready
    · rw [stays.after] at isSealed
      cases isSealed
    · exact changed (notFinal final)
    · rcases retried failed with same | ⟨same, -⟩
      · exact other same
      · exact notQueued same
    · rcases retried failed with same | ⟨-, allowed⟩
      · rw [queued] at same
        cases same
      · exact allowed refused

theorem checkJobUpdate_of_readyEnd (ready : ReadySound graph old)
    (wasReady : old.resultState = .ready) (identity : SameIdentity old new)
    (status : new.status = .cancelled) (intent : new.controlIntent = .none)
    (version : new.version = old.version + 1) (pending : new.resultState = .pending)
    (authorized : authorization =
      .readyTerminal new.jobId new.status old.version new.version
        new.recoverable new.schedulerFencingToken) :
    graph.checkJobUpdate authorization old new = .ok () := by
  have sameId : new.jobId = old.jobId := identity.1
  have sameComplete : new.requiresCompleteResult = old.requiresCompleteResult :=
    identity.2.2.2.2.2.2.2.2.2.2
  unfold checkJobUpdate
  simp only [run_eq_ok]
  refine ⟨?_, sameComplete, ?_, ?_⟩
  · rintro ⟨-, isSealed⟩
    rw [wasReady] at isSealed
    cases isSealed
  · intro _
    exact ⟨identity, .inr ⟨.inr status, intent, version, pending, authorized⟩⟩
  · have running := ready.status
    rintro (⟨legacy, -⟩ | ⟨-, ⟨-, refused⟩ | ⟨isReady, -⟩ | ⟨isSealed, -⟩⟩ |
      ⟨final | final, -⟩ | ⟨failed, -⟩ | ⟨failed, -⟩)
    · rw [pending] at legacy
      cases legacy
    · rcases refused with succeeded | ⟨-, -, -, other⟩ | indexed | ⟨isRunning, -⟩
      · rw [status] at succeeded
        cases succeeded
      · exact other status
      · rw [sameId, ready.unindexed] at indexed
        cases indexed
      · rw [status] at isRunning
        cases isRunning
    · rw [pending] at isReady
      cases isReady
    · rw [pending] at isSealed
      cases isSealed
    · rw [running] at final
      cases final
    · rw [running] at final
      cases final
    · rw [running] at failed
      cases failed
    · rw [running] at failed
      cases failed

theorem idle_of_allSucceeded (finished : graph.AllSucceeded jobId) : graph.Idle jobId := by
  refine ⟨finished.1, ?_⟩
  unfold activeShardCount
  rw [List.length_eq_zero_iff, List.filter_eq_nil_iff]
  intro shard mem
  simp [finished.2 shard mem]

section Transitions

theorem settles_transition
    (found : graph.jobRow row.jobId = some row)
    (positive : ∀ fence ∈ row.schedulerFencingToken, 1 ≤ fence)
    (requested : row.status = .running → row.controlIntent = .cancelRequested → target = .cancelled)
    (confirmed : row.status = .running → target = .cancelled → confirmation = true)
    (allowed : target ∈ row.status.allowed) (unsealed : target ≠ .succeeded)
    (checked : graph.checkJobUpdate (terminalAuthorization row target lease recoverable)
      row (transitioned row target lease recoverable now row) = .ok ()) :
    Settles
      (graph.transitionInTransaction row target lease reason now requestId
        recoverable eventType confirmation)
      (row.Foreign lease) := by
  unfold transitionInTransaction
  refine .after (require_of fun running intent =>
    ⟨requested running intent, confirmed running (requested running intent)⟩) ?_
  refine .after (require_of confirmed) ?_
  refine .after (require_of allowed) ?_
  refine .after (requireNullablePositive_eq_ok.mpr positive) ?_
  refine .check ?_ ?_
  · unfold JobRow.Foreign
    simp only [Classical.not_imp, ne_eq]
  · intro _
    rw [require_of unsealed, ok_bind, updateJob_eq_ok found (by simp) checked, ok_bind]
    exact reload_insertEvent (transitioned row target lease recoverable now row) found

theorem updateShards_of_mutable
    (mutable :
      ∀ shard ∈ graph.shards, matching shard = true → graph.shardsMutable shard.jobId = true) :
    graph.updateShards matching change keeps =
      .ok (graph.mapShards (changeMatching matching change) (key_changeMatching keeps),
        (graph.shards.filter matching).length) := by
  unfold updateShards
  rw [require_of mutable, ok_bind]
  rfl

end Transitions

end JobGraph

namespace Sound

variable {digests : LabDigests} {graph : JobGraph} {row : JobRow}
  {lease : LabLeaseRecord} {now : Time} {reason : String}
  {envelope : LabCommandEnvelope}

section

variable (sound : Sound digests graph none) (found : graph.jobRow row.jobId = some row)
  (status : row.status ≠ .succeeded)

include sound found status

theorem pending_of_status (unready : row.resultState ≠ .ready) : row.resultState = .pending := by
  have result := sound.resultSound found
  cases state : row.resultState with
  | pending => rfl
  | ready => exact absurd state unready
  | sealed => exact absurd (result.sealed state).status status
  | legacyUnsealed => exact absurd state result.current

theorem pending_of_not_running (notRunning : row.status ≠ .running) : row.resultState = .pending :=
  sound.pending_of_status found status fun ready =>
    notRunning ((sound.resultSound found).ready ready).status

end

theorem mutable_of_pending (found : graph.jobRow row.jobId = some row)
    (pending : row.resultState = .pending) :
    graph.shardsMutable row.jobId = true := by
  unfold JobGraph.shardsMutable
  rw [found]
  simp [pending]

variable {next : JobGraph}

section

variable (sound : Sound digests graph none)

include sound

section

variable (found : graph.jobRow row.jobId = some row)

include found

theorem staysPending (pending : row.resultState = .pending) (sameId : new.jobId = row.jobId)
    (sameComplete : new.requiresCompleteResult = row.requiresCompleteResult)
    (after : new.resultState = .pending) (status : new.status ≠ .succeeded)
    (artifacts : next.artifactRow row.jobId = graph.artifactRow row.jobId)
    (unfinished : new.status = .running → new.Contracted → ¬ next.AllSucceeded new.jobId) :
    JobGraph.StaysPending next row new where
  complete := (sound.jobSound found).known.complete
  sameComplete := sameComplete
  before := pending
  after := after
  status := status
  unindexed := by
    rw [sameId, artifacts]
    exact ((sound.resultSound found).pending pending).unindexed
  unfinished := unfinished

theorem mutable_of_openShard (isOpen : row.status.Open) (mem : shard ∈ graph.shards)
    (matched : JobGraph.openShard row.jobId shard = true) :
    graph.shardsMutable shard.jobId = true := by
  unfold JobGraph.openShard at matched
  simp only [Bool.and_eq_true, decide_eq_true_eq] at matched
  obtain ⟨sameJob, shardOpen⟩ := matched
  rw [sameJob]
  by_cases ready : row.resultState = .ready
  · -- the shards of a ready job have succeeded
    have finished := ((sound.resultSound found).ready ready).finished
    have succeeded := finished.2 shard (mem_shardsOf.mpr ⟨mem, sameJob⟩)
    exact absurd succeeded (not_succeeded_of_open shardOpen)
  · have status : row.status ≠ .succeeded := by
      rintro succeeded
      rw [succeeded] at isOpen
      simp [JobStatus.Open] at isOpen
    exact mutable_of_pending found (sound.pending_of_status found status ready)

theorem checkJobUpdate_cancelled (isOpen : row.status.Open)
    (artifacts : next.artifactRow row.jobId = graph.artifactRow row.jobId)
    (shards : row.resultState = .ready → next.shardsOf row.jobId = graph.shardsOf row.jobId) :
    next.checkJobUpdate (JobGraph.terminalAuthorization row .cancelled lease none) row
      (JobGraph.transitioned row .cancelled lease none now row) = .ok () := by
  have notFinal : row.status ≠ .succeeded ∧ row.status ≠ .cancelled ∧ row.status ≠ .failed := by
    rcases isOpen with status | status | status <;> simp [status]
  by_cases ready : row.resultState = .ready
  · have before := (sound.resultSound found).ready ready
    have readyNext : ReadySound next row :=
      { status := before.status
        intent := before.intent
        contract := before.contract
        unindexed := artifacts.trans before.unindexed
        finished := by
          unfold JobGraph.AllSucceeded
          rw [shards ready]
          exact before.finished }
    refine checkJobUpdate_of_readyEnd readyNext ready
      ⟨rfl, rfl, rfl, rfl, rfl, rfl, ?_, rfl, rfl, rfl, rfl⟩ rfl rfl rfl ?_ ?_
    · simp [JobGraph.transitioned, JobGraph.nextAttemptCount]
    · simp [JobGraph.transitioned, JobGraph.nextResultState]
    · unfold JobGraph.terminalAuthorization
      rw [if_pos ready]
      rfl
  · have pending := sound.pending_of_status found notFinal.1 ready
    have stays :
        JobGraph.StaysPending next row (JobGraph.transitioned row .cancelled lease none now row) :=
      sound.staysPending found pending rfl rfl
        (by simp [JobGraph.transitioned, JobGraph.nextResultState])
        nofun artifacts
        nofun
    refine checkJobUpdate_of_staysPending stays ?_ ?_
    · rintro (status | status)
      · exact absurd status notFinal.1
      · exact absurd status notFinal.2.1
    · exact fun failed => absurd failed notFinal.2.2

theorem settles_cancelJob (isOpen : row.status.Open)
    (confirmation : row.status = .running → confirmed = true) :
    Settles (graph.cancelJob row reason lease now requestId eventType confirmed)
      (row.Foreign lease) := by
  have ended : graph.terminalizeNonterminalShards row.jobId .cancelled now =
      .ok (graph.mapShards
          (JobGraph.changeMatching (JobGraph.openShard row.jobId)
            fun stored => stored.ended .cancelled none now)
          (key_changeMatching fun _ => rfl),
        (graph.shards.filter (JobGraph.openShard row.jobId)).length) := by
    unfold JobGraph.terminalizeNonterminalShards
    rw [require_of rfl, ok_bind]
    exact updateShards_of_mutable fun shard mem matched =>
      sound.mutable_of_openShard found isOpen mem matched
  unfold JobGraph.cancelJob
  refine .after ended (settles_transition found
    (sound.jobSound found).fence (fun _ _ => rfl)
    (fun running _ => confirmation running) ?_ (by simp) ?_)
  · rcases isOpen with status | status | status <;>
      simp [status, JobStatus.allowed]
  · refine sound.checkJobUpdate_cancelled found isOpen rfl ?_
    intro ready
    have finished := ((sound.resultSound found).ready ready).finished
    rw [shardsOf_mapShards]
    refine (List.map_congr_left ?_).trans (List.map_id _)
    intro shard mem
    have settled : ¬ JobGraph.openShard row.jobId shard = true := by
      unfold JobGraph.openShard
      simp only [Bool.and_eq_true, decide_eq_true_eq, not_and]
      intro _ shardOpen
      exact not_succeeded_of_open shardOpen (finished.2 shard mem)
    unfold JobGraph.changeMatching
    rw [if_neg settled]
    rfl

end

end

theorem settles_acceptCommand {refused : Prop} (settles : Settles changed refused) :
    Settles (JobGraph.acceptCommand digests envelope answer changed)
      refused := by
  unfold JobGraph.acceptCommand
  exact settles.bind fun value _ => ⟨_, rfl⟩

section

variable (sound : Sound digests graph none)

include sound

section

variable (found : graph.jobRow row.jobId = some row)

include found

theorem settles_requestIntent
    (running : row.status = .running) (unready : row.resultState ≠ .ready) :
    Settles
      (JobGraph.acceptCommand digests envelope answer
        (graph.setControlIntentInTransaction row intent lease reason now envelope.requestId))
      (row.Foreign lease) := by
  have pending := sound.pending_of_status found (by simp [running]) unready
  have before := (sound.resultSound found).pending pending
  refine settles_acceptCommand ?_
  unfold setControlIntentInTransaction
  refine .after (requireNullablePositive_eq_ok.mpr (sound.jobSound found).fence) (.check ?_ ?_)
  · unfold JobRow.Foreign
    simp [running, unready]
  · intro _
    rw [updateJob_eq_ok found (by simp) (checkJobUpdate_of_staysPending
      (sound.staysPending found pending rfl rfl pending before.status rfl
        fun _ => before.unfinished (.inl running)) (fun _ => rfl)
      fun failed => absurd (running.symm.trans failed) (by simp)), ok_bind]
    exact reload_insertEvent
      { row with controlIntent := intent, version := row.version + 1, updatedAt := now } found

theorem settles_pausing
    (pending : row.resultState = .pending)
    (status : row.status = .running ∨ row.status = .checkpointed)
    (free : row.status = .running → row.controlIntent = .none)
    (paused : target = .running ∨ target = .checkpointed) (allowed : target ∈ row.status.allowed) :
    Settles
      (JobGraph.acceptCommand digests envelope answer
        (graph.transitionInTransaction row target lease reason now
          (some envelope.requestId) none eventType false))
      (row.Foreign lease) := by
  have before := (sound.resultSound found).pending pending
  have notCancelled : target ≠ .cancelled := by rcases paused with rfl | rfl <;> simp
  have notSucceeded : target ≠ .succeeded := by rcases paused with rfl | rfl <;> simp
  refine settles_acceptCommand (settles_transition found
    (sound.jobSound found).fence ?_ ?_ allowed notSucceeded ?_)
  · intro running requested
    rw [free running] at requested
    cases requested
  · exact fun _ cancelled => absurd cancelled notCancelled
  · refine checkJobUpdate_of_staysPending
      (sound.staysPending found pending rfl rfl ?_ notSucceeded rfl
        fun _ => before.unfinished status) ?_ ?_
    · rcases paused with rfl | rfl <;>
        simp [JobGraph.transitioned, JobGraph.nextResultState, pending]
    · rcases status with status | status <;> simp [status]
    · rcases status with status | status <;> simp [status]

theorem settles_applyCancelCommand :
    Settles (graph.applyCancelCommand digests envelope row reason lease now)
      (row.Foreign lease) := by
  unfold JobGraph.applyCancelCommand
  by_cases isOpen : row.status.Open
  · rw [if_neg (not_not.mpr isOpen)]
    by_cases running : row.status = .running
    · rw [if_pos running]
      by_cases idle : graph.Idle row.jobId
      · rw [if_pos idle]
        exact settles_acceptCommand (sound.settles_cancelJob found isOpen fun _ => rfl)
      · rw [if_neg idle]
        -- the shards of a ready job are idle, so this one is not ready
        refine sound.settles_requestIntent found running fun ready => idle ?_
        exact idle_of_allSucceeded ((sound.resultSound found).ready ready).finished
    · rw [if_neg running]
      exact settles_acceptCommand
        (sound.settles_cancelJob found isOpen fun isRunning => absurd isRunning running)
  · rw [if_pos isOpen]
    refine .of_ok rfl ?_
    rintro ⟨running, -⟩
    exact isOpen (.inr (.inl running))

theorem settles_applyPauseCommand :
    Settles (graph.applyPauseCommand digests envelope row reason lease now)
      (row.Foreign lease ∧ row.controlIntent = .none) := by
  unfold JobGraph.applyPauseCommand
  by_cases running : row.status = .running
  · rw [if_neg (not_not.mpr running)]
    by_cases ready : row.resultState = .ready
    · rw [if_pos ready]
      exact .of_ok rfl fun refused => refused.1.2.1 ready
    · rw [if_neg ready]
      by_cases intent : row.controlIntent = .none
      · rw [if_neg (not_not.mpr intent)]
        simp only [intent, and_true]
        by_cases idle : graph.Idle row.jobId
        · rw [if_pos idle]
          have pending := sound.pending_of_status found (by simp [running]) ready
          exact sound.settles_pausing found pending (.inl running) (fun _ => intent) (.inr rfl)
            (by simp [running, JobStatus.allowed])
        · rw [if_neg idle]
          exact sound.settles_requestIntent found running ready
      · rw [if_pos intent]
        exact .of_ok rfl fun refused => intent refused.2
  · rw [if_pos running]
    exact .of_ok rfl fun refused => running refused.1.1

theorem settles_applyResumeCommand :
    Settles (graph.applyResumeCommand digests envelope row reason lease now)
      (row.Foreign lease ∧ row.controlIntent = .pauseRequested) := by
  unfold JobGraph.applyResumeCommand
  by_cases withdrawn : row.status = .running ∧ row.controlIntent = .pauseRequested
  · rw [if_pos withdrawn]
    obtain ⟨running, intent⟩ := withdrawn
    simp only [intent, and_true]
    refine sound.settles_requestIntent found running fun ready => ?_
    exact absurd (intent.symm.trans ((sound.resultSound found).ready ready).intent) (by simp)
  · rw [if_neg withdrawn]
    have never : ¬ (row.Foreign lease ∧ row.controlIntent = .pauseRequested) :=
      fun refused => withdrawn ⟨refused.1.1, refused.2⟩
    by_cases paused : row.status = .checkpointed
    · rw [if_neg (not_not.mpr paused)]
      have notRunning : row.status ≠ .running := by simp [paused]
      have pending := sound.pending_of_not_running found (by simp [paused]) notRunning
      have answered : Settles
          (JobGraph.acceptCommand digests envelope "resumed"
            (graph.transitionInTransaction row .running lease reason now
              (some envelope.requestId) none "job_resumed" false))
          (row.Foreign lease) :=
        sound.settles_pausing found pending (.inr paused) (fun running => absurd running notRunning)
          (.inl rfl) (by simp [paused, JobStatus.allowed])
      obtain ⟨_, resumed⟩ := answered.succeeds fun foreign => notRunning foreign.1
      exact .of_ok resumed never
    · rw [if_pos paused]
      exact .of_ok rfl never

theorem retryJob_succeeds (failed : row.status = .failed) (pending : row.resultState = .pending)
    (recoverable : ¬ row.recoverable = false) :
    ∃ next, graph.retryJob envelope row reason lease now = .ok next := by
  have mutable : ∀ shard ∈ graph.shards, JobGraph.unfinishedShard row.jobId shard = true →
      graph.shardsMutable shard.jobId = true := by
    intro shard _ matched
    unfold JobGraph.unfinishedShard at matched
    simp only [Bool.and_eq_true, decide_eq_true_eq] at matched
    rw [matched.1]
    exact mutable_of_pending found pending
  unfold JobGraph.retryJob
  refine ⟨_, bind_eq_ok.mpr ⟨_, updateShards_of_mutable mutable,
    bind_eq_ok.mpr ⟨_, updateJob_eq_ok found (by simp) ?_, rfl⟩⟩⟩
  refine checkJobUpdate_of_staysPending
    (sound.staysPending found pending rfl rfl rfl nofun rfl nofun) ?_ ?_
  · rintro (status | status)
    · exact absurd (failed.symm.trans status) (by simp)
    · exact absurd (failed.symm.trans status) (by simp)
  · intro _
    refine .inr ⟨rfl, ?_⟩
    rintro (other | fixed | intent | version | still | fence | state | complete | contract)
    · exact other rfl
    · exact recoverable fixed
    · exact intent rfl
    · exact version rfl
    · cases still
    · exact fence rfl
    · exact state rfl
    · exact complete rfl
    · exact contract rfl

theorem settles_applyRetryCommand :
    Settles (graph.applyRetryCommand digests envelope row reason lease now)
      False := by
  have result := sound.resultSound found
  unfold JobGraph.applyRetryCommand
  by_cases failed : row.status = .failed
  · rw [if_neg (not_not.mpr failed)]
    have pending := sound.pending_of_not_running found (by simp [failed]) (by simp [failed])
    have before := result.pending pending
    by_cases recoverable : row.recoverable = false
    · rw [if_pos recoverable]
      exact .of_ok rfl id
    · rw [if_neg recoverable]
      by_cases exhausted : graph.hasExhaustedShard row.jobId = true
      · rw [if_pos exhausted]
        have checked : graph.checkJobUpdate .none row
            { row with
              recoverable := false, version := row.version + 1, updatedAt := now } = .ok () := by
          refine checkJobUpdate_of_staysPending
            (sound.staysPending found pending rfl rfl pending before.status
              rfl fun running => absurd (failed.symm.trans running) (by simp)) ?_ ?_
          · exact fun _ => rfl
          · exact fun _ => .inl failed
        unfold JobGraph.fenceRetry
        rw [updateJob_eq_ok found (by simp [failed]) checked]
        exact .of_ok rfl id
      · rw [if_neg exhausted]
        refine .after (require_of (sound.jobSound found).known.attempts) ?_
        split
        · exact .of_ok rfl id
        · obtain ⟨_, retried⟩ := sound.retryJob_succeeds found failed pending recoverable
          exact .of_ok (by rw [retried]; rfl) id
  · rw [if_pos failed]
    exact .of_ok rfl id

end

end

end Sound

/-! ## The call -/

def LabCommand.Control : LabCommand → Prop
  | .submit _ _ _ => False
  | .cancel _ _ _ => True
  | .pause _ _ _ => True
  | .resume _ _ _ => True
  | .retry _ _ _ => True

namespace Ledger

variable {digests : LabDigests} {ledger : Ledger} {lease : LabLeaseRecord}
  {envelope : LabCommandEnvelope} {now : Time}

/-- The command meets its job at the expected version, running under the fence
of another scheduler, and wants to change it. -/
def Stranded (ledger : Ledger) (lease : LabLeaseRecord) : LabCommand → Prop
  | .submit _ _ _ => False
  | .cancel jobId version _ =>
    ∃ row ∈ ledger.jobRow jobId, row.version = version ∧ row.Foreign lease
  | .pause jobId version _ =>
    ∃ row ∈ ledger.jobRow jobId, row.version = version ∧
      row.Foreign lease ∧ row.controlIntent = .none
  | .resume jobId version _ =>
    ∃ row ∈ ledger.jobRow jobId, row.version = version ∧
      row.Foreign lease ∧ row.controlIntent = .pauseRequested
  | .retry _ _ _ => False

/-- The request is not stored with another content, and if it is new its
command is not stranded. -/
structure Answerable (ledger : Ledger) (digests : LabDigests)
    (envelope : LabCommandEnvelope) (lease : LabLeaseRecord) : Prop where
  agrees : ∀ row ∈ ledger.commandRow envelope.requestId,
    row.contentHash = digests.commandHash envelope.command
  unstranded :
    ledger.commandRow envelope.requestId = none → ¬ ledger.Stranded lease envelope.command

/-- The command returns a receipt, and the receipt is stored. -/
def Answers (ledger : Ledger) (digests : LabDigests)
    (envelope : LabCommandEnvelope) (lease : LabLeaseRecord) (now : Time)
    (authority : Option Bool) : Prop :=
  ∃ receipt next, ledger.applyCommand digests envelope lease now authority = .ok (receipt, next) ∧
    (next.commandRow envelope.requestId).map CommandRow.receipt = some receipt

theorem settles_applyControl {apply : JobRow → Except LabError (LabCommandReceipt × JobGraph)}
    {refused : JobRow → Prop}
    (settles : ∀ row, ledger.jobRow row.jobId = some row → Settles (apply row) (refused row)) :
    Settles (ledger.applyControl digests envelope jobId version apply)
      (∃ row ∈ ledger.jobRow jobId, row.version = version ∧ refused row) := by
  unfold JobGraph.applyControl
  cases found : ledger.jobRow jobId with
  | none => exact .of_ok rfl (by simp)
  | some row =>
    simp only
    by_cases same : row.version = version
    · rw [if_neg (not_not.mpr same)]
      have sameId := (mem_of_jobRow found).2
      have answer := settles row (sameId ▸ found)
      constructor
      · rintro ⟨_, ⟨⟩, -, holds⟩
        exact answer.fails holds
      · intro fails
        exact answer.succeeds fun holds => fails ⟨row, rfl, same, holds⟩
    · rw [if_pos same]
      refine .of_ok rfl ?_
      rintro ⟨_, ⟨⟩, sameVersion, -⟩
      exact same sameVersion

section

variable (sound : Sound digests ledger.toJobGraph none)

include sound

/-- A new control command fails at the fence exactly when it is stranded. -/
theorem settles_applyNewCommand (control : envelope.command.Control) :
    Settles (ledger.applyNewCommand digests envelope lease now)
      (ledger.Stranded lease envelope.command) := by
  unfold JobGraph.applyNewCommand Stranded
  cases command : envelope.command with
  | submit jobId spec maxAttempts =>
    rw [command] at control
    cases control
  | cancel jobId version reason =>
    exact settles_applyControl fun row found => sound.settles_applyCancelCommand found
  | pause jobId version reason =>
    exact settles_applyControl fun row found => sound.settles_applyPauseCommand found
  | resume jobId version reason =>
    exact settles_applyControl fun row found => sound.settles_applyResumeCommand found
  | retry jobId version reason =>
    have answer : Settles
        (ledger.applyControl digests envelope jobId version fun row =>
          ledger.applyRetryCommand digests envelope row reason lease now)
        (∃ row ∈ ledger.jobRow jobId, row.version = version ∧ False) :=
      settles_applyControl fun row found => sound.settles_applyRetryCommand found
    obtain ⟨_, done⟩ := answer.succeeds (by simp)
    exact .of_ok done id

omit sound in
theorem checkSubmission_of_control (control : envelope.command.Control) :
    checkSubmission envelope.command authority = .ok () := by
  unfold checkSubmission
  cases command : envelope.command with
  | submit jobId spec maxAttempts =>
    rw [command] at control
    cases control
  | cancel | pause | resume | retry => rfl

section

variable (control : envelope.command.Control) (wellFormed : envelope.command.Valid)
  (valid : ledger.validateLease lease now = .ok ())
  (fresh : ledger.commandRow envelope.requestId = none)

include control wellFormed valid fresh

theorem applyCommand_of_stranded (stranded : ledger.Stranded lease envelope.command) :
    ledger.applyCommand digests envelope lease now authority = .error JobGraph.foreignFence := by
  unfold applyCommand
  rw [require_of wellFormed, ok_bind, valid, ok_bind, fresh]
  simp only
  unfold applyFreshCommand
  rw [checkSubmission_of_control control, ok_bind,
    (settles_applyNewCommand sound control).fails stranded]
  rfl

theorem answers_of_fresh (unstranded : ¬ ledger.Stranded lease envelope.command) :
    ledger.Answers digests envelope lease now authority := by
  obtain ⟨⟨receipt, graph⟩, applied⟩ :
      ∃ answer, ledger.applyNewCommand digests envelope lease now = .ok answer :=
    (settles_applyNewCommand sound control).succeeds unstranded
  let row : CommandRow :=
    ⟨envelope.requestId, digests.commandHash envelope.command, envelope, receipt, now⟩
  refine ⟨receipt, { ledger with toJobGraph := graph, commands := ledger.commands ++ [row] },
    ?_, ?_⟩
  · unfold applyCommand
    rw [require_of wellFormed, ok_bind, valid, ok_bind, fresh]
    simp only
    unfold applyFreshCommand
    rw [checkSubmission_of_control control, ok_bind, applied]
    rfl
  · have stored :
        findKey CommandRow.requestId row.requestId (ledger.commands ++ [row]) = some row :=
      findKey_append_singleton (findKey_eq_none.mp fresh)
    exact congrArg (Option.map CommandRow.receipt) stored

end

end

end Ledger

/-- In every run, under a valid lease, a control command is answered exactly when
its request is not stored with another content and, if it is new, its command is
not stranded; a stranded command raises the error of the fence. -/
theorem control_command_answered (digests : LabDigests) (calls : List LabCall)
    (envelope : LabCommandEnvelope) (lease : LabLeaseRecord) (now : Time)
    (authority : Option Bool) (control : envelope.command.Control)
    (wellFormed : envelope.command.Valid)
    (valid : (LabSystem.run digests calls).ledger.validateLease lease now = .ok ()) :
    ((LabSystem.run digests calls).ledger.Answers digests envelope lease now authority ↔
      (LabSystem.run digests calls).ledger.Answerable digests envelope lease) ∧
    ((LabSystem.run digests calls).ledger.commandRow envelope.requestId = none →
      (LabSystem.run digests calls).ledger.Stranded lease envelope.command →
      (LabSystem.run digests calls).ledger.applyCommand digests envelope lease
        now authority = .error JobGraph.foreignFence) := by
  have sound := sound_run digests calls
  constructor
  · constructor
    · rintro ⟨receipt, _, applied, -⟩
      constructor
      · intro row stored
        have found :
            (LabSystem.run digests calls).ledger.commandRow envelope.requestId = some row := stored
        unfold Ledger.applyCommand at applied
        rw [require_of wellFormed, ok_bind, valid, ok_bind, found] at applied
        simp only [run_eq_ok] at applied
        exact applied.1
      · intro fresh stranded
        rw [applyCommand_of_stranded sound control wellFormed valid fresh stranded] at applied
        cases applied
    · rintro ⟨agrees, unstranded⟩
      cases stored : (LabSystem.run digests calls).ledger.commandRow envelope.requestId with
      | none =>
        exact answers_of_fresh sound control wellFormed valid stored (unstranded stored)
      | some row =>
        refine ⟨row.receipt, (LabSystem.run digests calls).ledger, ?_, ?_⟩
        · unfold Ledger.applyCommand
          rw [require_of wellFormed, ok_bind, valid, ok_bind, stored]
          simp only
          rw [require_of (agrees row stored)]
          rfl
        · rw [stored]
          rfl
  · exact fun fresh stranded =>
      applyCommand_of_stranded sound control wellFormed valid fresh stranded

/-- The lease of the claim expires, a second scheduler takes over and recovers
what its predecessor left. -/
def takeoverCalls : List LabCall :=
  claimedCalls ++
    [.acquireSchedulerLease "scheduler" 10 (seconds 20) 2,
      .recoverStaleShards (tenSecondLease 2 2 (seconds 20)) (seconds 20 + 1),
      .recoverExpiredJobs (tenSecondLease 2 2 (seconds 20)) (seconds 20 + 2)]

/-- The job that was taken over keeps the fence of the first scheduler, and the
second one cannot cancel it. -/
theorem takeover_strands_control_command :
    (LabSystem.run blankDigests takeoverCalls).ledger.validateLease
        (tenSecondLease 2 2 (seconds 20)) (seconds 20 + 3) = .ok () ∧
      ((LabSystem.run blankDigests takeoverCalls).ledger.applyCommand
        blankDigests ⟨8, .cancel 5 1 "stop"⟩
        (tenSecondLease 2 2 (seconds 20)) (seconds 20 + 3) none).map
          Prod.fst = .error JobGraph.foreignFence := by
  decide +kernel

/-- The scheduler that runs a job cancels it. -/
theorem control_command_answered_for_running_job :
    (LabSystem.run blankDigests claimedCalls).ledger.jobs.map
        (fun job => (job.status, job.schedulerFencingToken)) = [(.running, some 1)] ∧
      (LabSystem.run blankDigests claimedCalls).ledger.Answers blankDigests
        ⟨8, .cancel 5 1 "stop"⟩ (tenSecondLease 1 1 0) 4 none := by
  refine ⟨by decide +kernel, ?_⟩
  refine (control_command_answered blankDigests claimedCalls ⟨8, .cancel 5 1 "stop"⟩
    (tenSecondLease 1 1 0) 4 none trivial (by decide) (by decide +kernel)).1.mpr ⟨?_, fun _ => ?_⟩
  · decide +kernel
  · unfold Ledger.Stranded
    decide +kernel

end RQuant.Lab
