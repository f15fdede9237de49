import RQuant.Lab.ShardSteps

/-!
# Lab jobs: calls as moves

What each call does to the job graph, which claims it hands out and which
successes it records.
-/

namespace RQuant.Lab

open Foundation JobGraph Ledger
open List hiding after next count minimum

/-- A report that passed every check: it names the claim that its shard carries
now, and the claim has not expired. -/
structure LiveReport (report : LabWorkerReport) (lease : LabLeaseRecord)
    (job : JobRow) (shard : ShardRow) (now : Time) : Prop where
  sameJob : shard.jobId = report.jobId
  scheduler : report.schedulerFencingToken = lease.fencingToken
  fence : shard.schedulerFencingToken = some report.schedulerFencingToken
  running : shard.status = .running
  worker : shard.workerId.getD "" = report.workerId
  token : shard.claimToken = some report.claimToken
  generation : shard.claimGeneration = report.claimGeneration
  unexpired : ∃ expires ∈ shard.leaseExpiresAt, now < expires
  runningJob : job.status = .running
  claimed : ∀ claimedAt ∈ shard.claimedAt, claimedAt ≤ now
  telemetry :
    ∀ manifest provenance reported, report.body = .succeeded manifest provenance reported →
      reported.map LabShardTelemetry.workPlan = shard.definition.workPlan

theorem map_workPlan_of_telemetryRejection
    (accepted : telemetryRejection expected reported = none) :
    reported.map LabShardTelemetry.workPlan = expected := by
  unfold telemetryRejection at accepted
  split at accepted
  · rfl
  · cases accepted
  · cases accepted
  · split at accepted
    · cases accepted
    · rename_i same
      exact congrArg some (not_not.mp same)

variable {job : JobRow} {now : Time} {digests : LabDigests} {leases : List LabLeaseRecord}
  {ledger next : Ledger}

variable {jobId token : Uuid} {reason : String} {deferred useFairCursor : Bool}
  {report : LabWorkerReport} {shard : ShardRow} {after : JobGraph} {selection : LabClaimSelection}
  {expectedVersion limit tried : ℕ} {rejections : List LabPreclaimRejection} {record : JobRow}
  {binding : LabVerifiedSealedBinding} {leaseSeconds : ℤ} {source : ShardStatus}
  {status : ReceiptStatus} {new old : List LabLeaseRecord}

theorem claimRejection_eq_none (accepted : claimRejection report job shard now = none) :
    shard.schedulerFencingToken = some report.schedulerFencingToken ∧
      shard.status = .running ∧ shard.workerId.getD "" = report.workerId ∧
      shard.claimToken = some report.claimToken ∧
      shard.claimGeneration = report.claimGeneration ∧
      (∃ expires ∈ shard.leaseExpiresAt, now < expires) ∧
      job.status = .running := by
  unfold claimRejection at accepted
  simp only [Option.all_eq_true, decide_eq_true_eq] at accepted
  split_ifs at accepted with fence running worker token generation expired runningJob
  rw [not_not] at fence running worker token generation runningJob
  refine ⟨fence, running, worker, token, generation, ?_, runningJob⟩
  cases expires : shard.leaseExpiresAt with
  | none => exact absurd (by simp [expires]) expired
  | some time => exact ⟨time, rfl, by simpa [expires] using expired⟩

theorem liveReport_of_rejectionReason
    (accepted : workerReportRejectionReason digests policy report lease job shard now = .ok none) :
    LiveReport report lease job shard now := by
  unfold workerReportRejectionReason at accepted
  split at accepted
  · cases accepted
  · rename_i identified
    simp only [run_eq_ok] at accepted
    obtain ⟨-, accepted⟩ := accepted
    split at accepted
    · cases accepted
    · rename_i current
      obtain ⟨fence, running, worker, token, generation, unexpired,
        runningJob⟩ := claimRejection_eq_none current
      unfold identityRejection at identified
      split_ifs at identified with otherJob otherSpec otherPayload otherFence
      rw [not_not] at otherJob otherFence
      unfold liveClaimRejection at accepted
      simp only [bind_eq_ok, orRaise_eq_ok] at accepted
      obtain ⟨claimedAt, isClaimed, heartbeatAt, -, accepted⟩ := accepted
      split at accepted
      · cases accepted
      · rename_i dated
        split at accepted
        · cases accepted
        · refine ⟨otherJob, otherFence, fence, running, worker, token,
            generation, unexpired, runningJob, ?_, ?_⟩
          · intro time same
            have sameTime : claimedAt = time := Option.some_inj.mp (isClaimed.symm.trans same)
            have ordered : max claimedAt heartbeatAt ≤ min now report.reportedAt := not_lt.mp dated
            exact sameTime ▸ (le_max_left _ _).trans (ordered.trans (min_le_left _ _))
          · intro _ _ _ body
            unfold successRejection at accepted
            rw [body] at accepted
            simp only [bind_eq_ok] at accepted
            obtain ⟨_, -, accepted⟩ := accepted
            split at accepted
            · cases accepted
            · unfold definitionFromShardRow at accepted
              simp only [run_eq_ok] at accepted
              obtain ⟨_, ⟨-, rfl⟩, plan⟩ := accepted
              exact map_workPlan_of_telemetryRejection plan

namespace JobGraph

variable {digests : LabDigests} {graph next : JobGraph}
  {job : JobRow} {lease : LabLeaseRecord} {now : Time} {claim : LabShardClaim}

theorem moves_of_holdPublication (held : graph.holdPublication row = .ok next) :
    Moves digests graph [] next := by
  unfold holdPublication at held
  split at held
  · simp only [run_eq_ok] at held
    obtain ⟨-, rfl⟩ := held
    exact .refl _
  · simp only [run_eq_ok] at held
    obtain ⟨-, rfl⟩ := held
    exact .single (.published row)

theorem moves_of_publishClaim (published : graph.publishClaim claim = .ok next) :
    Moves digests graph [] next := by
  unfold publishClaim at published
  split at published
  · cases published
    exact .refl _
  · exact moves_of_holdPublication published

theorem moves_of_claimShard (positive : 1 ≤ lease.fencingToken)
    (found : graph.jobRow job.jobId = some job)
    (mem : row ∈ graph.shards) (claimable : ClaimMove row claim)
    (claimed : graph.claimShard source claim lease now job row = .ok (some next)) :
    Moves digests graph [.claimed claim] next := by
  unfold claimShard at claimed
  simp only [bind_eq_ok, Prod.exists] at claimed
  obtain ⟨new, started, starting, _, _, update, claimed⟩ := claimed
  have step : JobStep digests graph job new started := by
    unfold startJob at starting
    split at starting
    · exact jobStep_of_transition positive found starting
    · exact jobStep_of_adopt positive found starting
  obtain ⟨allowed, rfl, length⟩ := updateShards_eq_ok update
  split at claimed
  · cases claimed
  · rename_i one
    rw [not_not] at one
    simp only [run_eq_ok, Option.some_inj] at claimed
    obtain ⟨_, publishing, rfl⟩ := claimed
    have startedMem : row ∈ started.shards := step.shards.symm ▸ mem
    have byKey :
        ∀ stored, claimableRow source lease now row stored = true → stored.key = row.key := by
      intro stored matched
      unfold claimableRow at matched
      simp only [Bool.and_eq_true] at matched
      exact key_of_unchangedShard matched.1.1
    have matched := matching_of_count startedMem byKey (length.symm.trans one)
    have changes : ChangesOnly started
        (changeMatching (claimableRow source lease now row) fun stored =>
          stored.claimed claim (row.attemptCount + 1))
        row (row.claimed claim (row.attemptCount + 1)) :=
      changesOnly_of_matching startedMem byKey matched
    have mutable := allowed row startedMem matched
    exact (step.moves.append
      (.single (.claimed _ changes mutable claimable))).append (moves_of_publishClaim publishing)

end JobGraph

/-- The shards with an accepted success, in the order of the reports. -/
def Ledger.successKeys (ledger : Ledger) : List (Uuid × Uuid) :=
  (ledger.reports.filter fun row =>
    row.receipt.status = .accepted && row.report.body.isSucceeded).map
      fun row => (row.report.jobId, row.report.shardId)

/-- A lease row after a call: it keeps its identity, and a released lease stays
released. -/
structure LeaseKept (old new : LabLeaseRecord) : Prop where
  leaseId : new.leaseId = old.leaseId
  leaseName : new.leaseName = old.leaseName
  token : new.token = old.token
  fencingToken : new.fencingToken = old.fencingToken
  released : new.releasedAt = none → old.releasedAt = none

theorem LeaseKept.refl (row : LabLeaseRecord) : LeaseKept row row := ⟨rfl, rfl, rfl, rfl, id⟩

/-- A lease that is acquired when every other lease of its name is released. -/
structure LeaseAcquired (leases : List LabLeaseRecord) (lease : LabLeaseRecord) : Prop where
  leaseId : lease.leaseId = leases.length + 1
  named : lease.leaseName = leaseName
  fence : lease.fencingToken = (leases.map LabLeaseRecord.fencingToken).foldl max 0 + 1
  alone : ∀ row ∈ leases, row.leaseName = leaseName → row.releasedAt ≠ none

def LeaseMove (old new : List LabLeaseRecord) : Prop :=
  ∃ kept added, new = kept ++ added ∧ List.Forall₂ LeaseKept old kept ∧
    (added = [] ∨ ∃ lease, added = [lease] ∧ LeaseAcquired kept lease)

def Ledger.books (ledger : Ledger) : List LabLeaseRecord × List WorkerReportRow :=
  (ledger.leases, ledger.reports)

/-- What a call did: its moves, the claims that it handed out, the successes
that it recorded, and the tables beside the job graph. -/
structure CallEffect (digests : LabDigests) (ledger : Ledger)
    (emitted : List LabEvent) (claims : List LabShardClaim) (next : Ledger) :
    Prop where
  moves : Moves digests ledger.toJobGraph emitted next.toJobGraph
  claimed : emitted.filterMap LabEvent.claim? = claims
  succeeded : next.successKeys = ledger.successKeys ++ emitted.filterMap LabEvent.success?
  reports : ledger.reports <+: next.reports
  leases : LeaseMove ledger.leases next.leases

def CallMoves (digests : LabDigests) (ledger : Ledger)
    (claims : List LabShardClaim) (next : Ledger) : Prop :=
  ∃ emitted : List LabEvent, CallEffect digests ledger emitted claims next

theorem leaseMove_of_forall₂ (kept : List.Forall₂ LeaseKept old new) : LeaseMove old new :=
  ⟨new, [], by simp, kept, .inl rfl⟩

theorem LeaseMove.refl (leases : List LabLeaseRecord) : LeaseMove leases leases :=
  leaseMove_of_forall₂ (forall₂_same.mpr fun row _ => .refl row)

theorem forall₂_updateKey (kept : ∀ row, LeaseKept row (change row)) :
    List.Forall₂ LeaseKept leases (updateKey LabLeaseRecord.leaseId leaseId change leases) := by
  unfold updateKey
  rw [forall₂_map_right_iff]
  refine forall₂_same.mpr ?_
  intro row _
  split
  · exact kept row
  · exact .refl row

/-- A call that records no success and does not touch the other tables. -/
theorem callEffect_of_books (moves : Moves digests ledger.toJobGraph emitted next.toJobGraph)
    (silent : emitted.filterMap LabEvent.success? = []) (books : next.books = ledger.books) :
    CallEffect digests ledger emitted (emitted.filterMap LabEvent.claim?) next := by
  have leases : next.leases = ledger.leases := congrArg Prod.fst books
  have reports : next.reports = ledger.reports := congrArg Prod.snd books
  refine ⟨moves, rfl, ?_, ?_, ?_⟩
  · unfold Ledger.successKeys
    rw [reports, silent, append_nil]
  · rw [reports]
  · rw [leases]
    exact .refl _

theorem callMoves_of_silent (moves : Moves digests ledger.toJobGraph [] next.toJobGraph)
    (books : next.books = ledger.books) :
    CallMoves digests ledger [] next :=
  ⟨[], callEffect_of_books moves rfl books⟩

theorem CallMoves.refl (ledger : Ledger) : CallMoves digests ledger [] ledger :=
  callMoves_of_silent (.refl _) rfl

theorem callMoves_of_leases (moved : LeaseMove ledger.leases leases) :
    CallMoves digests ledger [] { ledger with leases := leases } := by
  refine ⟨[], .refl _, rfl, ?_, prefix_refl _, moved⟩
  unfold Ledger.successKeys
  simp

namespace Ledger

variable {ledger : Ledger} {lease : LabLeaseRecord}

theorem positive_of_validateLease (valid : ledger.validateLease lease now = .ok ()) :
    1 ≤ lease.fencingToken :=
  (holds_of_validateLease valid).positive

theorem forall₂_of_releaseExpired
    (done : ledger.releaseExpired active now = .ok released) :
    List.Forall₂ LeaseKept ledger.leases released := by
  unfold releaseExpired at done
  split at done
  · cases done
    exact forall₂_same.mpr fun row _ => .refl row
  · simp only [run_eq_ok] at done
    obtain ⟨-, rfl⟩ := done
    exact forall₂_updateKey fun row => ⟨rfl, rfl, rfl, rfl, nofun⟩

theorem map_of_forall₂ {β : Type} {column : LabLeaseRecord → β}
    (same : ∀ before after, LeaseKept before after → column after = column before)
    (kept : List.Forall₂ LeaseKept old new) :
    new.map column = old.map column := by
  induction kept with
  | nil => rfl
  | cons head _ ih => rw [map_cons, map_cons, ih, same _ _ head]

theorem callMoves_of_acquire
    (done : ledger.acquireSchedulerLease ownerId leaseSeconds now token = .ok (acquired, next)) :
    CallMoves digests ledger [] next := by
  unfold acquireSchedulerLease at done
  simp only [pair_eq_ok] at done
  obtain ⟨-, -, released, releasing, -, alone, -, rfl⟩ := done
  have kept := forall₂_of_releaseExpired releasing
  refine callMoves_of_leases ⟨released, [_], rfl, kept, .inr ⟨_, rfl, ?_⟩⟩
  have sameFences :
      released.map LabLeaseRecord.fencingToken = ledger.leases.map LabLeaseRecord.fencingToken :=
    map_of_forall₂ (fun _ _ row => row.fencingToken) kept
  exact
    { leaseId := congrArg (· + 1) kept.length_eq
      named := rfl
      fence := by
        rw [sameFences]
        rfl
      alone := alone }

theorem callMoves_of_renew
    (done : ledger.renewSchedulerLease lease leaseSeconds now = .ok (renewed, next)) :
    CallMoves digests ledger [] next := by
  unfold renewSchedulerLease at done
  simp only [pair_eq_ok] at done
  obtain ⟨-, -, -, rfl⟩ := done
  exact callMoves_of_leases (leaseMove_of_forall₂
    (forall₂_updateKey fun _ => ⟨rfl, rfl, rfl, rfl, id⟩))

theorem callMoves_of_release
    (done : ledger.releaseSchedulerLease lease now = .ok (released, next)) :
    CallMoves digests ledger [] next := by
  unfold releaseSchedulerLease at done
  simp only [pair_eq_ok] at done
  obtain ⟨-, -, rfl⟩ := done
  exact callMoves_of_leases (leaseMove_of_forall₂
    (forall₂_updateKey fun _ => ⟨rfl, rfl, rfl, rfl, nofun⟩))

/-! ### Jobs -/

theorem callMoves_of_applyCommand
    (done : ledger.applyCommand digests envelope lease now authority = .ok (receipt, next)) :
    CallMoves digests ledger [] next := by
  unfold applyCommand at done
  simp only [run_eq_ok] at done
  obtain ⟨wellFormed, valid, done⟩ := done
  split at done
  · simp only [pair_eq_ok] at done
    obtain ⟨-, -, rfl⟩ := done
    exact .refl _
  · unfold applyFreshCommand at done
    simp only [pair_eq_ok] at done
    obtain ⟨-, _, _, applying, -, rfl⟩ := done
    exact callMoves_of_silent
      (moves_of_applyNewCommand (positive_of_validateLease valid) wellFormed applying)
      rfl

theorem callMoves_of_planJob
    (done : ledger.planJob digests jobId definitions lease now = .ok (records, next)) :
    CallMoves digests ledger [] next := by
  unfold planJob knownJob at done
  simp only [run_eq_ok, orRaise_eq_ok] at done
  obtain ⟨_, ordering, -, _, found, done⟩ := done
  split at done
  · simp only [pair_eq_ok] at done
    obtain ⟨stored, -, -, rfl⟩ := done
    exact .refl _
  · rename_i unplanned
    rw [not_not] at unplanned
    simp only [pair_eq_ok] at done
    obtain ⟨stored, _, storing, -, rfl⟩ := done
    unfold JobGraph.orderedPlan at ordering
    simp only [run_eq_ok] at ordering
    obtain ⟨nonempty, short, -, -, -, -, rfl⟩ := ordering
    have sameId := (mem_of_jobRow found).2
    have permuted : (sortOn LabShardDefinition.shardIndex definitions).Perm definitions :=
      perm_sortOn definitions
    refine callMoves_of_silent
      (moves_of_storePlan (sameId ▸ found) (sameId ▸ unplanned) ?_ ?_ storing)
      rfl
    · intro empty
      rw [empty] at permuted
      exact nonempty permuted.nil_eq.symm
    · rw [permuted.length_eq]
      exact short

theorem callMoves_of_failUnplannedJob
    (done : ledger.failUnplannedJob jobId reason lease now = .ok (failed, next)) :
    CallMoves digests ledger [] next := by
  unfold failUnplannedJob knownJob at done
  simp only [run_eq_ok, orRaise_eq_ok] at done
  obtain ⟨-, -, _, found, done⟩ := done
  have sameId := (mem_of_jobRow found).2
  split at done
  · cases done
    exact .refl _
  · simp only [pair_eq_ok] at done
    obtain ⟨_, ending, -, rfl⟩ := done
    obtain ⟨_, step⟩ := jobStep_of_endJob (sameId ▸ found) ending
    exact callMoves_of_silent step.moves rfl

theorem callMoves_of_expireDeadlineJobs
    (done : ledger.expireDeadlineJobs lease now = .ok (expired, next)) :
    CallMoves digests ledger [] next := by
  unfold expireDeadlineJobs at done
  simp only [pair_eq_ok] at done
  obtain ⟨-, _, graph, swept, -, rfl⟩ := done
  have unvisited : JobGraph.Unvisited (ledger.expiredRows now) ledger.toJobGraph :=
    unvisited_of_perm (perm_sortOn _)
  have moves : Moves digests ledger.toJobGraph [] graph := by
    refine trace_of_sweep JobGraph.Unvisited ?_ unvisited swept
    intro row _ _ _ _ ready step
    obtain ⟨moved, others⟩ := moves_of_expireJob (ready.2 row (by simp)) step
    exact ⟨moved, ready.tail others⟩
  exact callMoves_of_silent moves rfl

theorem callMoves_of_recoverExpiredJobs
    (done : ledger.recoverExpiredJobs lease now = .ok (recovered, next)) :
    CallMoves digests ledger [] next := by
  unfold recoverExpiredJobs at done
  simp only [pair_eq_ok] at done
  obtain ⟨valid, _, first, firstSweep, _, second, secondSweep, -, rfl⟩ := done
  have positive := positive_of_validateLease valid
  have abandonedMoves : Moves digests ledger.toJobGraph [] first := by
    refine trace_of_sweep
      (fun rows graph => JobGraph.Unvisited rows graph ∧ ∀ row ∈ rows, row.status = .running)
      ?_ ⟨unvisited_of_perm (perm_sortOn _), ?_⟩ firstSweep
    · rintro row rest state answer after ⟨unvisited, running⟩ step
      obtain ⟨new, moved⟩ := jobStep_of_recoverJob positive
        (running row (by simp)) (unvisited.2 row (by simp)) step
      exact ⟨moved.moves, unvisited.tail moved.others, fun other mem =>
        running other (mem_cons_of_mem _ mem)⟩
    · intro row mem
      simp only [mem_sortOn, mem_filter, Bool.and_eq_true, decide_eq_true_eq] at mem
      exact mem.2.1.1
  have readyMoves : Moves digests first [] second := by
    have unvisited : JobGraph.Unvisited (first.readyRows lease) first :=
      unvisited_of_perm (perm_sortOn _)
    refine trace_of_sweep JobGraph.Unvisited ?_ unvisited secondSweep
    intro row rest state answer after ready step
    unfold recoverReadyJob at step
    simp only [pair_eq_ok] at step
    obtain ⟨_, _, adopting, _, -, -, rfl⟩ := step
    have moved : JobStep digests _ _ _ _ :=
      jobStep_of_adopt positive (ready.2 row (by simp)) adopting
    exact ⟨moved.moves, ready.tail moved.others⟩
  exact callMoves_of_silent (abandonedMoves.trans readyMoves) rfl

theorem jobRow_of_expectedJob (expected : ledger.expectedJob jobId expectedVersion = .ok row) :
    ledger.jobRow row.jobId = some row := by
  unfold expectedJob at expected
  simp only [run_eq_ok, orRaise_eq_ok] at expected
  obtain ⟨_, found, -, rfl⟩ := expected
  exact (mem_of_jobRow found).2 ▸ found

theorem callMoves_of_transitionJob
    (done : ledger.transitionJob jobId expectedVersion target lease reason now
      recoverable = .ok (record, next)) :
    CallMoves digests ledger [] next := by
  unfold transitionJob at done
  simp only [pair_eq_ok] at done
  obtain ⟨valid, _, expected, -, _, _, moved, _, -, -, rfl⟩ := done
  exact callMoves_of_silent
    (jobStep_of_transition (positive_of_validateLease valid)
      (jobRow_of_expectedJob expected) moved).moves
    rfl

theorem callMoves_of_confirmCancelledJob
    (done :
      ledger.confirmCancelledJob jobId expectedVersion lease reason now = .ok (record, next)) :
    CallMoves digests ledger [] next := by
  unfold confirmCancelledJob at done
  simp only [pair_eq_ok] at done
  obtain ⟨valid, _, expected, -, _, _, moved, _, -, -, rfl⟩ := done
  exact callMoves_of_silent
    (moves_of_cancelJob (positive_of_validateLease valid) (jobRow_of_expectedJob expected) moved)
    rfl

theorem callMoves_of_recoverStaleShards
    (done : ledger.recoverStaleShards lease now = .ok (recovered, next)) :
    CallMoves digests ledger [] next := by
  unfold recoverStaleShards at done
  simp only [pair_eq_ok] at done
  obtain ⟨valid, causes, sorting, _, first, firstSweep, _, second,
    secondSweep, _, third, thirdSweep, -, rfl⟩ := done
  have positive := positive_of_validateLease valid
  have ready : JobGraph.Reclaiming ledger.toJobGraph causes (ledger.staleRows lease now)
      ledger.toJobGraph :=
    { unvisited :=
        unvisitedShards_of_sublist ⟨_, take_sublist _ _, perm_sortOn _⟩
      jobs := fun _ => rfl
      sorted := (sorted_of_foldlM sorting).1 }
  have reclaimMoves : Moves digests ledger.toJobGraph [] first :=
    trace_of_sweep (JobGraph.Reclaiming ledger.toJobGraph causes)
      (fun holds step => reclaimShard_step holds step) ready
      firstSweep
  have failMoves : Moves digests first [] second := trace_of_sweep (fun _ _ => True)
    (fun _ step => ⟨moves_of_failExhaustedJob positive step, trivial⟩)
    trivial secondSweep
  have controlMoves : Moves digests second [] third := trace_of_sweep (fun _ _ => True)
    (fun _ step => ⟨moves_of_converge positive step, trivial⟩)
    trivial thirdSweep
  exact callMoves_of_silent ((reclaimMoves.trans failMoves).trans controlMoves) rfl

section Claims

variable {request : ClaimRequest}

@[simp] theorem storePreclaimCursor_frame :
    (ledger.storePreclaimCursor position useFairCursor).toJobGraph = ledger.toJobGraph ∧
    (ledger.storePreclaimCursor position useFairCursor).books = ledger.books := by
  unfold storePreclaimCursor
  split <;> exact ⟨rfl, rfl⟩

theorem callMoves_of_claim
    (moves : Moves digests ledger.toJobGraph [.claimed claim] next.toJobGraph)
    (books : next.books = ledger.books) :
    CallMoves digests ledger [claim] next :=
  ⟨_, callEffect_of_books moves rfl books⟩

/-- What an attempt relies on: the request is sound, and the rows are those of
the database. -/
structure Attempting (ledger : Ledger) (request : ClaimRequest)
    (lease : LabLeaseRecord) (job : JobRow) (row : ShardRow) : Prop where
  worker : request.worker ≠ ""
  duration : 1 ≤ request.shardLeaseSeconds
  fence : 1 ≤ lease.fencingToken
  found : ledger.jobRow row.jobId = some job
  member : row ∈ ledger.shards

theorem claimEligibleAttempt_eq_ok (attempting : Attempting ledger request lease job row)
    (waiting : source = .queued ∨ source = .running)
    (done : ledger.claimEligibleAttempt digests request lease now useFairCursor
      source job row = .ok (outcome, next)) :
    CallMoves digests ledger outcome.claim?.toList next := by
  unfold claimEligibleAttempt at done
  simp only [bind_eq_ok] at done
  obtain ⟨definition, -, done⟩ := done
  split at done
  · cases done
    exact .refl _
  · simp only [run_eq_ok] at done
    obtain ⟨-, -, done⟩ := done
    split at done
    · rename_i attempt
      obtain ⟨status, attempts, -, -, -⟩ := attempt
      unfold makeClaim at done
      simp only [bind_eq_ok] at done
      obtain ⟨claimed, claiming, done⟩ := done
      have sameId : job.jobId = row.jobId := (mem_of_jobRow attempting.found).2
      have claimable : ClaimMove row (attemptClaim request lease now job row) :=
        { waiting := status ▸ waiting
          attempts := attempts
          job := sameId
          definition := rfl
          generation := rfl
          worker := attempting.worker
          fence := attempting.fence
          lease := by
            have positive : 0 < seconds request.shardLeaseSeconds := by
              have duration := attempting.duration
              unfold seconds
              change (0 : ℤ) < _
              omega
            exact lt_add_of_pos_right now positive }
      split at done
      · cases done
        exact .refl _
      · rename_i graph
        cases done
        have moves : Moves digests ledger.toJobGraph
            [.claimed (attemptClaim request lease now job row)] graph :=
          moves_of_claimShard attempting.fence
            (sameId ▸ attempting.found) attempting.member claimable claiming
        exact callMoves_of_claim (by simpa using moves) storePreclaimCursor_frame.2
    · cases done
      exact .refl _

/-- The call is sound: who asks, for how long, and under which lease. -/
structure Asking (request : ClaimRequest) (lease : LabLeaseRecord) : Prop where
  worker : request.worker ≠ ""
  duration : 1 ≤ request.shardLeaseSeconds
  fence : 1 ≤ lease.fencingToken

theorem Asking.attempting (asking : Asking request lease)
    (stored : job ∈ ledger.jobs) (mem : row ∈ ledger.shardsOf job.jobId) :
    Attempting ledger request lease job row := by
  obtain ⟨shard, sameJob⟩ := mem_shardsOf.mp mem
  exact ⟨asking.worker, asking.duration, asking.fence, sameJob ▸ jobRow_of_mem stored, shard⟩

theorem mem_of_candidateRows (mem : row ∈ ledger.candidateRows request position jobId limit) :
    row ∈ ledger.shardsOf jobId := by
  unfold candidateRows at mem
  have sorted := mem_of_mem_take mem
  rw [mem_sortOn] at sorted
  exact mem_of_mem_filter sorted

theorem callMoves_of_tryRows (attempting : ∀ row ∈ rows, Attempting ledger request lease job row)
    (done : ledger.tryRows digests request lease now deferring useFairCursor job
      rows = .ok (some (claim, next), rejections, deferred)) :
    CallMoves digests ledger claim.toList next := by
  induction rows generalizing rejections deferred with
  | nil => cases done
  | cons row rest ih =>
    have first := attempting row (by simp)
    have others : ∀ other ∈ rest, Attempting ledger request lease job other :=
      fun other mem => attempting other (mem_cons_of_mem _ mem)
    unfold tryRows at done
    split at done
    · rename_i attempt
      cases done
      exact claimEligibleAttempt_eq_ok first (.inl rfl) attempt
    · rename_i attempt
      cases done
      exact claimEligibleAttempt_eq_ok first (.inl rfl) attempt
    · simp only [pair_eq_ok] at done
      obtain ⟨settled, more, put, series, rfl, -, -⟩ := done
      exact ih others series
    · split at done
      · simp only [pair_eq_ok] at done
        obtain ⟨settled, more, put, series, rfl, -, -⟩ := done
        exact ih others series
      · cases done

theorem mem_of_firstJob (first : ledger.firstJob request now property = some job) :
    job ∈ ledger.jobs := by
  unfold firstJob JobGraph.bySubmission at first
  have mem := mem_of_mem_head? first
  rw [mem_sortOn] at mem
  exact mem_of_mem_filter mem

theorem mem_of_jobCandidate
    (candidate : ledger.jobCandidate request now cursor = some (job, position)) :
    job ∈ ledger.jobs := by
  unfold jobCandidate at candidate
  split at candidate
  · obtain ⟨found, first, same⟩ := Option.map_eq_some_iff.mp candidate
    cases same
    exact mem_of_firstJob first
  · split at candidate
    · rename_i found
      cases candidate
      unfold cursorJob at found
      exact (mem_of_jobRow (Option.eq_some_of_filter_eq_some found)).1
    · obtain ⟨found, first, same⟩ := Option.map_eq_some_iff.mp candidate
      cases same
      rcases Option.or_eq_some_iff.mp first with after | ⟨-, any⟩
      · exact mem_of_firstJob after
      · exact mem_of_firstJob any

section

variable (asking : Asking request lease)

include asking

theorem attempting_of_staleAttempt
    (stale : ledger.staleAttempt request lease now = some (row, job)) :
    Attempting ledger request lease job row := by
  unfold staleAttempt at stale
  simp only [Option.bind_eq_bind, Option.bind_eq_some_iff, Option.pure_def,
    Option.some_inj, Prod.mk.injEq] at stale
  obtain ⟨_, first, _, isStored, rfl, rfl⟩ := stale
  have mem := mem_of_mem_head? first
  rw [mem_sortOn] at mem
  exact ⟨asking.worker, asking.duration, asking.fence, isStored, mem_of_mem_filter mem⟩

theorem attempting_of_fairStaleAttempt
    (stale : ledger.fairStaleAttempt request lease now useFairCursor = some (row, job)) :
    Attempting ledger request lease job row := by
  unfold fairStaleAttempt at stale
  split at stale
  · exact attempting_of_staleAttempt asking stale
  · cases stale

omit asking in
theorem callMoves_of_claimStale
    (attempting : ∀ row job, plan = some (row, job) → Attempting ledger request lease job row)
    (done : ledger.claimStale digests request lease now useFairCursor rejections
      plan = .ok (selection, next)) :
    CallMoves digests ledger selection.claim.toList next := by
  unfold claimStale at done
  split at done
  · cases done
    exact .refl _
  · simp only [pair_eq_ok] at done
    obtain ⟨_, _, attempt, rfl, rfl⟩ := done
    exact claimEligibleAttempt_eq_ok (attempting _ _ rfl) (.inr rfl) attempt

theorem callMoves_of_claimElsewhere
    (done : ledger.claimElsewhere digests request lease now useFairCursor deferred
      job tried rejections = .ok (selection, next)) :
    CallMoves digests ledger selection.claim.toList next := by
  have stale :
      ∀ row job, ledger.fairStaleAttempt request lease now useFairCursor = some (row, job) →
        Attempting ledger request lease job row :=
    fun _ _ chosen => attempting_of_fairStaleAttempt asking chosen
  unfold claimElsewhere at done
  split at done
  · split at done
    · simp only [run_eq_ok] at done
      exact callMoves_of_claimStale stale done.2
    · rename_i other chosen
      have stored : other ∈ ledger.jobs := by
        rcases Option.or_eq_some_iff.mp chosen with after | ⟨-, any⟩
        · exact mem_of_firstJob after
        · exact mem_of_firstJob any
      simp only [bind_eq_ok, Prod.exists] at done
      obtain ⟨_, _, _, series, done⟩ := done
      split at done
      · cases done
        exact callMoves_of_tryRows
          (fun row mem => asking.attempting stored (mem_of_candidateRows mem))
          series
      · exact callMoves_of_claimStale stale done
  · exact callMoves_of_claimStale stale done

theorem callMoves_of_claimQueued (stored : job ∈ ledger.jobs)
    (done : ledger.claimQueued digests request lease now useFairCursor job position
      rejections = .ok (selection, next)) :
    CallMoves digests ledger selection.claim.toList next := by
  unfold claimQueued at done
  simp only [run_eq_ok, Prod.exists] at done
  obtain ⟨-, _, _, _, series, done⟩ := done
  split at done
  · cases done
    exact callMoves_of_tryRows (fun row mem => asking.attempting stored (mem_of_candidateRows mem))
      series
  · exact callMoves_of_claimElsewhere asking done

theorem callMoves_of_selectClaim
    (done : ledger.selectClaim digests request lease now rejections = .ok (selection, next)) :
    CallMoves digests ledger selection.claim.toList next := by
  unfold selectClaim at done
  simp only at done
  split at done
  · exact callMoves_of_claimStale (fun _ _ chosen => attempting_of_staleAttempt asking chosen) done
  · split at done
    · exact callMoves_of_claimStale
        (fun _ _ chosen => attempting_of_fairStaleAttempt asking chosen) done
    · rename_i candidate
      exact callMoves_of_claimQueued asking (mem_of_jobCandidate candidate) done

end

theorem callMoves_of_claimNextShard
    (done : ledger.claimNextShard digests request lease now = .ok (selection, next)) :
    CallMoves digests ledger selection.claim.toList next := by
  unfold claimNextShard at done
  simp only [run_eq_ok] at done
  obtain ⟨named, duration, -, valid, done⟩ := done
  split at done
  · cases done
    exact .refl _
  · exact callMoves_of_selectClaim ⟨named, duration, positive_of_validateLease valid⟩ done

theorem callMoves_of_createHeldClaimPublication
    (done : ledger.createHeldClaimPublication lease now row = .ok (answer, next)) :
    CallMoves digests ledger [] next := by
  unfold createHeldClaimPublication at done
  simp only [pair_eq_ok] at done
  obtain ⟨-, -, _, held, -, rfl⟩ := done
  exact callMoves_of_silent (moves_of_holdPublication held) rfl

end Claims

/-! ### Reports -/

theorem successKeys_recordReport :
    (ledger.recordReport digests report status reason now graph).2.successKeys =
      ledger.successKeys ++
        if status = .accepted ∧ report.body.isSucceeded = true then
          [(report.jobId, report.shardId)]
        else [] := by
  unfold successKeys recordReport
  rw [filter_append, map_append]
  congr 1
  by_cases counted : status = .accepted ∧ report.body.isSucceeded = true
  · rw [if_pos counted]
    simp [LabDigests.reportReceipt, counted.1, counted.2]
  · rw [if_neg counted, filter_cons_of_neg, filter_nil, map_nil]
    simp only [Bool.and_eq_true]
    exact fun both => counted ⟨of_decide_eq_true both.1, both.2⟩

theorem callMoves_of_rejectReport :
    CallMoves digests ledger [] (ledger.rejectReport digests report reason now).2 := by
  refine ⟨[], .refl _, rfl, ?_, prefix_append _ _, .refl _⟩
  unfold rejectReport
  rw [successKeys_recordReport]
  simp

theorem callMoves_of_acceptedReport
    (positive : 1 ≤ lease.fencingToken) (wellFormed : digests.ValidReport report)
    (found : ledger.jobRow report.jobId = some job)
    (shardFound : ledger.shardRow report.jobId report.shardId = some shard)
    (live : LiveReport report lease job shard now)
    (applied : ledger.applyWorkerReportBody report.body lease job shard now = .ok (reason, graph)) :
    CallMoves digests ledger []
      (ledger.recordReport digests report .accepted reason now graph).2 := by
  have sameId : job.jobId = report.jobId := (mem_of_jobRow found).2
  have jobFound : ledger.jobRow job.jobId = some job := sameId ▸ found
  obtain ⟨mem, key⟩ := mem_of_findKey shardFound
  -- without a success the report is recorded and that is all
  have silent : report.body.isSucceeded = false → Moves digests ledger.toJobGraph [] graph →
      CallMoves digests ledger []
        (ledger.recordReport digests report .accepted reason now graph).2 := by
    intro otherwise moves
    refine ⟨[], moves, rfl, ?_, prefix_append _ _, .refl _⟩
    rw [successKeys_recordReport]
    simp [otherwise]
  unfold JobGraph.applyWorkerReportBody at applied
  split at applied
  · rename_i body
    exact silent (by rw [body]; rfl)
      (moves_of_applyHeartbeatReport mem live.running live.claimed applied)
  · rename_i manifest provenance telemetry body
    have matching : ∀ reported ∈ telemetry, digests.telemetryMatches reported = true := by
      have valid := wellFormed.2.2.2
      rw [body] at valid
      exact valid
    have moves := moves_of_applySucceededReport positive jobFound live.runningJob
      mem (live.sameJob.trans sameId.symm)
      (live.telemetry manifest provenance telemetry body) matching applied
    refine ⟨_, moves, rfl, ?_, prefix_append _ _, .refl _⟩
    rw [successKeys_recordReport, if_pos ⟨rfl, by rw [body]; rfl⟩]
    have sameKey : (shard.jobId, shard.definition.shardId) = (report.jobId, report.shardId) := key
    simp [LabEvent.success?, sameKey]
  · rename_i body
    exact silent (by rw [body]; rfl) (moves_of_applyFailedReport positive jobFound applied)
  · rename_i body
    exact silent (by rw [body]; rfl)
      (moves_of_applyWorkerStoppedReport positive jobFound mem live.running applied)

theorem callMoves_of_applyWorkerReport
    (done : ledger.applyWorkerReport digests policy report lease now = .ok (receipt, next)) :
    CallMoves digests ledger [] next := by
  unfold applyWorkerReport at done
  simp only [run_eq_ok] at done
  obtain ⟨wellFormed, valid, done⟩ := done
  split at done
  · simp only [pair_eq_ok] at done
    obtain ⟨-, -, rfl⟩ := done
    exact .refl _
  · unfold applyFreshReport at done
    split at done
    · cases done
      exact callMoves_of_rejectReport
    · cases done
      exact callMoves_of_rejectReport
    · rename_i job shard found shardFound
      simp only [bind_eq_ok] at done
      obtain ⟨_, checked, done⟩ := done
      split at done
      · cases done
        exact callMoves_of_rejectReport
      · simp only [run_eq_ok, Prod.exists] at done
        obtain ⟨reason, graph, applied, recorded⟩ := done
        have same : next = (ledger.recordReport digests report .accepted reason now graph).2 :=
          (congrArg Prod.snd recorded).symm
        rw [same]
        exact callMoves_of_acceptedReport (positive_of_validateLease valid)
          wellFormed found shardFound (liveReport_of_rejectionReason checked)
          applied

section Artifacts

theorem moves_of_answerCommit
    (answered :
      graph.answerCommit digests envelope status reason jobVersion now = .ok (receipt, after)) :
    Moves digests graph [] after ∧ (∀ jobId, after.jobRow jobId = graph.jobRow jobId) ∧
      after.artifacts = graph.artifacts := by
  unfold JobGraph.answerCommit JobGraph.insertCommit at answered
  simp only [pair_eq_ok] at answered
  obtain ⟨_, inserted, -, rfl⟩ := answered
  split at inserted
  · rename_i fresh
    cases inserted
    exact ⟨.single (.committed fresh), fun _ => rfl, rfl⟩
  · cases inserted

theorem moves_of_sealResult (positive : 1 ≤ lease.fencingToken)
    (found : graph.jobRow job.jobId = some job) (sameJob : envelope.commit.jobId = job.jobId)
    (evidence : binding.evidence.jobId = job.jobId)
    (sealed : graph.sealResult digests envelope binding job lease now = .ok (receipt, after)) :
    Moves digests graph [] after := by
  unfold JobGraph.sealResult JobGraph.insertArtifact at sealed
  simp only [pair_eq_ok] at sealed
  obtain ⟨_, recorded, answered, _, inserted, _, _, update, matched, -, rfl⟩ := sealed
  obtain ⟨recordMoves, sameJobs, -⟩ := moves_of_answerCommit answered
  split at inserted
  · rename_i fresh
    cases inserted
    have stillFound :
        (recorded.addArtifact ⟨envelope.commit.jobId, envelope.requestId, binding.evidence⟩
          fresh).jobRow job.jobId = some job :=
      (sameJobs job.jobId).trans found
    subst matched
    have ready := matching_of_updateJob stillFound update
    obtain ⟨checked, rfl⟩ := updateJob_of_found stillFound ready update
    simp only [Bool.and_eq_true, decide_eq_true_eq] at ready
    refine recordMoves.trans (.single
      (.sealed _ fresh sameJob (evidence.trans sameJob.symm) rfl
        ((sameJobs job.jobId).trans found) ?_ checked ?_))
    · exact
        { identity := rfl
          version := rfl
          fence := .inr fun fence same => Option.some_inj.mp same ▸ positive
          paused := by rintro ⟨⟩ }
    · exact ⟨rfl, congrArg some ready.1.1.2.symm, rfl, rfl⟩
  · cases inserted

theorem moves_of_freshCommit (positive : 1 ≤ lease.fencingToken)
    (done : ledger.freshCommit digests envelope binding lease now = .ok (receipt, after)) :
    Moves digests ledger.toJobGraph [] after := by
  unfold freshCommit at done
  split at done
  · exact (moves_of_answerCommit done).1
  · rename_i sameCommit
    rw [not_not] at sameCommit
    simp only [run_eq_ok] at done
    obtain ⟨evidence, done⟩ := done
    split at done
    · exact (moves_of_answerCommit done).1
    · rename_i row found
      simp only [bind_eq_ok] at done
      obtain ⟨job, read, done⟩ := done
      have same : job = row := by
        unfold jobFromRow at read
        simp only [run_eq_ok] at read
        obtain ⟨-, -, -, -, -, -, -, -, -, -, -, rfl⟩ := read
        rfl
      subst same
      have sameId : job.jobId = envelope.commit.jobId := (mem_of_jobRow found).2
      split at done
      · unfold commitIndexed at done
        split at done
        · exact (moves_of_answerCommit done).1
        · simp only [run_eq_ok] at done
          exact (moves_of_answerCommit done.2).1
      · unfold commitReady at done
        split at done
        · exact (moves_of_answerCommit done).1
        · simp only [bind_eq_ok] at done
          obtain ⟨_, -, done⟩ := done
          split at done
          · have evidenceJob : binding.evidence.jobId = job.jobId := by
              rw [evidence, sameId, sameCommit]
              rfl
            exact moves_of_sealResult positive (sameId ▸ found) sameId.symm evidenceJob done
          · exact (moves_of_answerCommit done).1

theorem applyArtifactCommit_eq_ok
    (applied : ledger.applyArtifactCommit digests envelope binding lease now authentic =
      .ok (receipt, staged)) :
    staged = ledger ∨
      ∃ graph, ledger.freshCommit digests envelope binding lease now = .ok (receipt, graph) ∧
        staged = { ledger with toJobGraph := graph } := by
  unfold applyArtifactCommit at applied
  simp only [run_eq_ok] at applied
  obtain ⟨-, applied⟩ := applied
  split at applied
  · unfold replayCommit at applied
    simp only [run_eq_ok] at applied
    obtain ⟨-, -, applied⟩ := applied
    split at applied
    · simp only [pair_eq_ok] at applied
      obtain ⟨_, -, -, -, rfl⟩ := applied
      exact .inl rfl
    · cases applied
      exact .inl rfl
  · unfold withCommit at applied
    simp only [pair_eq_ok] at applied
    obtain ⟨_, graph, answered, rfl, rfl⟩ := applied
    exact .inr ⟨graph, answered, rfl⟩

theorem callMoves_of_stageArtifactCommit
    (done : ledger.stageArtifactCommit digests envelope binding lease now authentic
      finalNow = .ok (receipt, next)) :
    CallMoves digests ledger [] next := by
  unfold stageArtifactCommit at done
  simp only [pair_eq_ok] at done
  obtain ⟨-, valid, _, _, applied, -, -, -, rfl⟩ := done
  rcases applyArtifactCommit_eq_ok applied with rfl | ⟨_, answered, rfl⟩
  · exact .refl _
  · exact callMoves_of_silent (moves_of_freshCommit (positive_of_validateLease valid) answered) rfl

end Artifacts

end Ledger

theorem callMoves_of_execute {call : LabCall}
    (executed : call.execute digests ledger = .ok (claims, next)) :
    CallMoves digests ledger claims next := by
  cases call
  all_goals
    simp only [LabCall.execute, withoutClaim, bind_eq_ok, pure_eq_ok, Prod.exists, Prod.mk.injEq]
      at executed
    obtain ⟨_, final, done, rfl, rfl⟩ := executed
  case claimNextShard => exact callMoves_of_claimNextShard done
  case acquireSchedulerLease => exact callMoves_of_acquire done
  case renewSchedulerLease => exact callMoves_of_renew done
  case releaseSchedulerLease => exact callMoves_of_release done
  case applyCommand => exact callMoves_of_applyCommand done
  case planJob => exact callMoves_of_planJob done
  case failUnplannedJob => exact callMoves_of_failUnplannedJob done
  case expireDeadlineJobs => exact callMoves_of_expireDeadlineJobs done
  case recoverStaleShards => exact callMoves_of_recoverStaleShards done
  case recoverExpiredJobs => exact callMoves_of_recoverExpiredJobs done
  case applyWorkerReport => exact callMoves_of_applyWorkerReport done
  case transitionJob => exact callMoves_of_transitionJob done
  case confirmCancelledJob => exact callMoves_of_confirmCancelledJob done
  case createHeldClaimPublication => exact callMoves_of_createHeldClaimPublication done
  case stageArtifactCommit => exact callMoves_of_stageArtifactCommit done

namespace LabSystem

/-- The system moved from a start; its claims and its successes are those that
the moves emitted. -/
structure Emitted (digests : LabDigests) (start : LabSystem) (emitted : List LabEvent)
    (system : LabSystem) : Prop where
  moves : Moves digests start.ledger.toJobGraph emitted system.ledger.toJobGraph
  issued : system.issued = start.issued ++ emitted.filterMap LabEvent.claim?
  successes :
    system.ledger.successKeys = start.ledger.successKeys ++ emitted.filterMap LabEvent.success?

theorem resume_moves (start : LabSystem) (calls : List LabCall) :
    ∃ emitted, Emitted digests start emitted (start.resume digests calls) := by
  refine resume_invariant (motive := fun system => ∃ emitted, Emitted digests start emitted system)
    ⟨[], .refl _, by simp, by simp⟩ ?_ calls
  rintro system _ _ _ ⟨emitted, moves, issued, successes⟩ executed
  obtain ⟨more, effect⟩ := callMoves_of_execute executed
  refine ⟨emitted ++ more, moves.append effect.moves, ?_, ?_⟩
  · rw [issued, ← effect.claimed, filterMap_append, append_assoc]
  · rw [effect.succeeded, successes, filterMap_append, append_assoc]

theorem resume_keeps {motive : JobGraph → Prop} {start : LabSystem}
    (kept : ∀ {graph next : JobGraph} {emitted : List LabEvent}, motive graph →
      Move digests graph emitted next → motive next)
    (initially : motive start.ledger.toJobGraph) (calls : List LabCall) :
    motive (start.resume digests calls).ledger.toJobGraph := by
  obtain ⟨emitted, moves, -, -⟩ := resume_moves start calls
  exact moves.keeps kept initially

/-- What holds of a new database and is kept by every move, given what was
emitted so far, holds in every run. -/
theorem run_history {motive : JobGraph → List LabEvent → Prop}
    (initially : motive JobGraph.empty [])
    (kept : ∀ {graph next : JobGraph} {past emitted : List LabEvent},
      motive graph past → Move digests graph emitted next →
      motive next (past ++ emitted))
    (calls : List LabCall) :
    ∃ past : List LabEvent, motive (run digests calls).ledger.toJobGraph past ∧
      (run digests calls).issued = past.filterMap LabEvent.claim? ∧
      (run digests calls).ledger.successKeys = past.filterMap LabEvent.success? := by
  obtain ⟨emitted, moves, issued, successes⟩ := resume_moves initial calls
  refine ⟨emitted, ?_, issued, successes⟩
  have reached : motive _ ([] ++ emitted) := moves.invariant kept initially
  exact reached

end LabSystem

end RQuant.Lab
