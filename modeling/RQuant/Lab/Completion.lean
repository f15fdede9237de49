import RQuant.Lab.Attempts
import RQuant.Lab.Fencing

/-!
# Lab jobs: completion

A shard succeeds at most once and is frozen from then on; an accepted report
names the claim that is live when it is applied; and a report that is applied
again gets its first receipt.
-/

namespace RQuant.Lab

open Foundation LabSystem Ledger JobGraph
open List hiding after next count minimum

variable {new row shard : ShardRow} {graph : JobGraph} {digests : LabDigests}

variable {next : JobGraph} {emitted : List LabEvent} {change : ShardRow → ShardRow}
  {claims : List LabShardClaim} {old : ShardRow} {successes : List (Uuid × Uuid)}
  {claim : LabShardClaim}

theorem ShardMove.not_succeeded (moved : ShardMove old new) : old.status ≠ .succeeded := by
  intro succeeded
  cases moved <;> simp_all [ShardStatus.Open]

theorem ClaimMove.not_succeeded (claiming : ClaimMove row claim) : row.status ≠ .succeeded := by
  rcases claiming.waiting with status | status <;> simp [status]

theorem ChangesOnly.mem_of_succeeded (changes : ChangesOnly graph change row new)
    (open' : row.status ≠ .succeeded) (mem : shard ∈ graph.shards)
    (succeeded : shard.status = .succeeded) :
    shard ∈ graph.shards.map change := by
  have different : shard ≠ row := by
    rintro rfl
    exact open' succeeded
  exact mem_map.mpr ⟨shard, mem, changes.others shard mem different⟩

theorem Move.mem_of_succeeded (moved : Move digests graph emitted next)
    (mem : shard ∈ graph.shards) (succeeded : shard.status = .succeeded) :
    shard ∈ next.shards := by
  cases moved with
  | submitted | jobMoved | committed | sealed | published => exact mem
  | planned => exact mem_append_left _ mem
  | shardsMoved keeps moves =>
    refine mem_map.mpr ⟨shard, mem, ?_⟩
    rcases moves shard mem with same | ⟨-, move⟩
    · exact same
    · exact absurd succeeded move.not_succeeded
  | claimed keeps changes _ claiming =>
    exact changes.mem_of_succeeded claiming.not_succeeded mem succeeded
  | succeeded keeps changes _ success | readied keeps changes _ success =>
    exact changes.mem_of_succeeded (by simp [success.running]) mem succeeded

/-- The accepted successes are of different shards, each of which has
succeeded. -/
structure Settled (graph : JobGraph) (successes : List (Uuid × Uuid)) : Prop where
  distinct : successes.Nodup
  succeeded : ∀ key ∈ successes, ∃ shard ∈ graph.shards, shard.key = key ∧ shard.status = .succeeded

namespace Settled

section

variable (settled : Settled graph successes)

include settled

section

variable (moved : Move digests graph emitted next)

include moved

theorem of_move : Settled next successes := by
  refine ⟨settled.distinct, ?_⟩
  intro key mem
  obtain ⟨shard, stored, sameKey, succeeded⟩ := settled.succeeded key mem
  exact ⟨shard, moved.mem_of_succeeded stored succeeded, sameKey, succeeded⟩

theorem concat (changes : ChangesOnly graph change row new)
    (shards : next.shards = graph.shards.map change) (success : SuccessMove digests row new) :
    Settled next (successes ++ [row.key]) := by
  obtain ⟨_, _, _, _, isNew, -⟩ := success.succeeds
  have fresh : row.key ∉ successes := by
    intro mem
    obtain ⟨shard, stored, sameKey, succeeded⟩ := settled.succeeded row.key mem
    have same : shard = row := shard_eq_of_key stored changes.member sameKey
    rw [same, success.running] at succeeded
    cases succeeded
  constructor
  · rw [nodup_append]
    refine ⟨settled.distinct, nodup_singleton _, ?_⟩
    rintro key mem _ last rfl
    exact fresh (mem_singleton.mp last ▸ mem)
  · refine forall_mem_concat.mpr ⟨(settled.of_move moved).succeeded, ?_⟩
    refine ⟨new, ?_, ?_, ?_⟩
    · rw [shards, ← changes.changed]
      exact mem_map_of_mem changes.member
    · rw [isNew]
      rfl
    · rw [isNew]
      rfl

theorem move : Settled next (successes ++ emitted.filterMap LabEvent.success?) := by
  have kept : Settled next successes := settled.of_move moved
  cases moved with
  | succeeded keeps changes mutable success found running unfinished =>
    exact settled.concat (.succeeded keeps changes mutable success found running unfinished)
      changes rfl success
  | readied keeps changes mutable success sameJob found move ready checked logged =>
    exact settled.concat
      (.readied keeps changes mutable success sameJob found move ready checked logged)
      changes rfl success
  | claimed =>
    have silent : ∀ claim, [LabEvent.claimed claim].filterMap LabEvent.success? = [] := fun _ => rfl
    rw [silent, append_nil]
    exact kept
  | _ =>
    rw [filterMap_nil, append_nil]
    exact kept

end

end

end Settled

theorem settled_run (digests : LabDigests) (calls : List LabCall) :
    Settled (LabSystem.run digests calls).ledger.toJobGraph
      (LabSystem.run digests calls).ledger.successKeys := by
  obtain ⟨past, settled, -, successes⟩ := run_history
    (motive := fun graph past => Settled graph (past.filterMap LabEvent.success?))
    (by constructor <;> simp)
    (fun settled moved => by
        rw [filterMap_append]
        exact settled.move moved)
      calls
  rw [successes]
  exact settled

structure CarriesClaim (shard : ShardRow) (claim : LabShardClaim) : Prop where
  worker : shard.workerId = some claim.workerId
  token : shard.claimToken = some claim.claimToken
  generation : shard.claimGeneration = claim.claimGeneration
  fence : shard.schedulerFencingToken = some claim.schedulerFencingToken

/-- A running shard carries the last claim that was handed out for it. -/
def Attended (graph : JobGraph) (claims : List LabShardClaim) : Prop :=
  ∀ shard ∈ graph.shards, shard.status = .running →
    ∃ claim, (claimsFor shard.key claims).getLast? = some claim ∧ CarriesClaim shard claim

theorem ShardMove.carriesClaim (moved : ShardMove old new) (running : new.status = .running) :
    old.status = .running ∧ ∀ claim, CarriesClaim old claim → CarriesClaim new claim := by
  cases moved with
  | heartbeat expiresAt now status =>
    exact ⟨status, fun claim carries => { carries with }⟩
  | failed | cancelled | stopped | requeued | retried => cases running

namespace Attended

section

variable (attended : Attended graph claims)

include attended

theorem mapShards (keeps : ∀ row, (change row).key = row.key)
    (kept : ∀ row ∈ graph.shards, (change row).status = .running →
      row.status = .running ∧ ∀ claim, CarriesClaim row claim → CarriesClaim (change row) claim) :
    Attended (graph.mapShards change keeps) claims := by
  intro _ mem running
  obtain ⟨row, rowMem, rfl⟩ := mem_map.mp mem
  obtain ⟨ranBefore, carried⟩ := kept row rowMem running
  obtain ⟨claim, last, carries⟩ := attended row rowMem ranBefore
  rw [keeps]
  exact ⟨claim, last, carried claim carries⟩

theorem settled (keeps : ∀ row, (change row).key = row.key)
    (changes : ChangesOnly graph change row new) (success : SuccessMove digests row new) :
    Attended (graph.mapShards change keeps) claims := by
  refine attended.mapShards keeps ?_
  intro other mem running
  by_cases same : other = row
  · obtain ⟨_, _, _, _, isNew, -⟩ := success.succeeds
    rw [same, changes.changed, isNew] at running
    cases running
  · rw [changes.others other mem same] at running ⊢
    exact ⟨running, fun _ carries => carries⟩

/-- The shard that is claimed carries the new claim; the others carry theirs
still. -/
theorem claimed (keeps : ∀ row, (change row).key = row.key)
    (changes : ChangesOnly graph change row (row.claimed claim (row.attemptCount + 1)))
    (claiming : ClaimMove row claim) :
    Attended (graph.mapShards change keeps) (claims ++ [claim]) := by
  intro _ mem running
  obtain ⟨old, oldMem, rfl⟩ := mem_map.mp mem
  rw [keeps]
  by_cases same : old = row
  · subst same
    refine ⟨claim, ?_, ?_⟩
    · rw [claimsFor_append_of_key claiming.key, getLast?_append]
      rfl
    · rw [changes.changed]
      exact ⟨rfl, rfl, rfl, rfl⟩
  · have different : claim.key ≠ old.key := by
      rw [claiming.key]
      intro sameKey
      exact same (shard_eq_of_key oldMem changes.member sameKey.symm)
    rw [changes.others old oldMem same] at running ⊢
    rw [claimsFor_append_of_ne different]
    exact attended old oldMem running

theorem move (moved : Move digests graph emitted next) :
    Attended next (claims ++ emitted.filterMap LabEvent.claim?) := by
  cases moved with
  | submitted | jobMoved | committed | sealed | published =>
    rw [filterMap_nil, append_nil]
    exact attended
  | planned =>
    rw [filterMap_nil, append_nil]
    intro shard mem running
    rcases mem_append.mp mem with earlier | added
    · exact attended shard earlier running
    · obtain ⟨_, -, rfl⟩ := mem_map.mp added
      cases running
  | shardsMoved keeps moves =>
    rw [filterMap_nil, append_nil]
    refine attended.mapShards keeps ?_
    intro row mem running
    rcases moves row mem with same | ⟨-, move⟩
    · rw [same] at running ⊢
      exact ⟨running, fun _ carries => carries⟩
    · exact move.carriesClaim running
  | claimed keeps changes _ claiming => exact attended.claimed keeps changes claiming
  | succeeded keeps changes _ success | readied keeps changes _ success =>
    rw [filterMap_claim?_succeeded, append_nil]
    exact attended.settled keeps changes success

end

end Attended

theorem attended_run (digests : LabDigests) (calls : List LabCall) :
    Attended (LabSystem.run digests calls).ledger.toJobGraph
      (LabSystem.run digests calls).issued := by
  obtain ⟨past, attended, issued, -⟩ := run_history
    (motive := fun graph past => Attended graph (past.filterMap LabEvent.claim?))
    (fun _ mem => by cases mem)
    (fun attended moved => by
        rw [filterMap_append]
        exact attended.move moved)
      calls
  rw [issued]
  exact attended

namespace Ledger

variable {digests : LabDigests} {ledger next : Ledger}
  {policy : LabResultDigestPolicy} {report : LabWorkerReport}
  {lease : LabLeaseRecord} {now : Time} {receipt : LabReportReceipt} {row : WorkerReportRow}

/-- What a new report came to: it was recorded, and if it was accepted it names
the claim that its shard carries. -/
theorem applyWorkerReport_of_fresh (fresh : ledger.reportRow report.reportId = none)
    (applied : ledger.applyWorkerReport digests policy report lease now = .ok (receipt, next)) :
    (∃ row, next.reports = ledger.reports ++ [row] ∧
        row.reportId = report.reportId ∧ row.report = report ∧
        row.contentHash = digests.reportHash report ∧
        row.receipt = receipt) ∧
      (receipt.status = .accepted →
        ∃ job shard, ledger.shardRow report.jobId report.shardId =
            some shard ∧ LiveReport report lease job shard now) := by
  unfold applyWorkerReport at applied
  simp only [run_eq_ok] at applied
  obtain ⟨-, -, applied⟩ := applied
  rw [fresh] at applied
  simp only at applied
  unfold applyFreshReport at applied
  split at applied
  · cases applied
    exact ⟨⟨_, rfl, rfl, rfl, rfl, rfl⟩, by rintro ⟨⟩⟩
  · cases applied
    exact ⟨⟨_, rfl, rfl, rfl, rfl, rfl⟩, by rintro ⟨⟩⟩
  · rename_i job shard found shardFound
    simp only [bind_eq_ok] at applied
    obtain ⟨_, checked, applied⟩ := applied
    split at applied
    · cases applied
      exact ⟨⟨_, rfl, rfl, rfl, rfl, rfl⟩, by rintro ⟨⟩⟩
    · simp only [run_eq_ok, Prod.exists] at applied
      obtain ⟨_, _, -, recorded⟩ := applied
      cases recorded
      exact ⟨⟨_, rfl, rfl, rfl, rfl, rfl⟩, fun _ =>
        ⟨job, shard, shardFound, liveReport_of_rejectionReason checked⟩⟩

end Ledger

/-- A report on the claim that is live: its shard runs under an unexpired lease,
and the last claim for it is the one that the report names. -/
structure OnLiveClaim (system : LabSystem) (report : LabWorkerReport)
    (now : Time) (shard : ShardRow) (claim : LabShardClaim) : Prop where
  stored : system.ledger.shardRow report.jobId report.shardId = some shard
  running : shard.status = .running
  unexpired : ∃ expires ∈ shard.leaseExpiresAt, now < expires
  last : (claimsFor shard.key system.issued).getLast? = some claim
  current : CarriesClaim shard claim
  worker : report.workerId = claim.workerId
  token : report.claimToken = claim.claimToken
  generation : report.claimGeneration = claim.claimGeneration
  fence : report.schedulerFencingToken = claim.schedulerFencingToken

/-- Completion under fencing, in the state after some calls. -/
structure CompletesOnce (digests : LabDigests) (calls : List LabCall) : Prop where
  /-- No shard has two accepted successes. -/
  once : (LabSystem.run digests calls).ledger.successKeys.Nodup
  /-- The row of a shard that has succeeded never changes. -/
  frozen :
    ∀ shard ∈ (LabSystem.run digests calls).ledger.shards, shard.status = .succeeded → ∀ more,
      (LabSystem.run digests (calls ++ more)).ledger.shardRow shard.jobId
        shard.definition.shardId = some shard
  /-- A new report that is accepted is on the live claim. -/
  live : ∀ policy report lease now receipt next,
    (LabSystem.run digests calls).ledger.reportRow report.reportId = none →
    (LabSystem.run digests calls).ledger.applyWorkerReport digests policy
      report lease now = .ok (receipt, next) →
    receipt.status = .accepted →
    ∃ shard claim, OnLiveClaim (LabSystem.run digests calls) report now shard claim
  generations : ∀ shard ∈ (LabSystem.run digests calls).ledger.shards,
    ((claimsFor shard.key (LabSystem.run digests calls).issued).map
      LabShardClaim.claimGeneration).Pairwise (· < ·)
  /-- Successive leases have increasing fencing tokens. -/
  fences : ∀ more,
    ((LabSystem.run digests calls).ledger.leases.map LabLeaseRecord.fencingToken <+:
      (LabSystem.run digests (calls ++ more)).ledger.leases.map LabLeaseRecord.fencingToken) ∧
    ((LabSystem.run digests (calls ++ more)).ledger.leases.map
      LabLeaseRecord.fencingToken).Pairwise (· < ·)
  /-- A call under a lease that is not current changes nothing. -/
  fenced : ∀ (call : LabCall) lease now, (lease, now) ∈ call.presented →
    ¬ (LabSystem.run digests calls).ledger.Current lease now →
    LabSystem.run digests (calls ++ [call]) = LabSystem.run digests calls
  recorded : ∀ policy report lease now receipt next,
    (LabSystem.run digests calls).ledger.reportRow report.reportId = none →
    (LabSystem.run digests calls).ledger.applyWorkerReport digests policy
      report lease now = .ok (receipt, next) →
    ∃ row, next.reportRow report.reportId = some row ∧ row.receipt = receipt ∧
      row.contentHash = digests.reportHash report
  /-- A report that is stored is answered with its first receipt, and nothing
  changes. -/
  replayed :
    ∀ report row, (LabSystem.run digests calls).ledger.reportRow report.reportId = some row →
      ∀ more policy lease now,
        (∀ receipt next,
          (LabSystem.run digests (calls ++ more)).ledger.applyWorkerReport
            digests policy report lease now = .ok (receipt, next) →
          receipt = row.receipt ∧ next = (LabSystem.run digests (calls ++ more)).ledger) ∧
        (row.contentHash = digests.reportHash report → digests.ValidReport report →
          (LabSystem.run digests (calls ++ more)).ledger.validateLease lease now = .ok () →
          (LabSystem.run digests (calls ++ more)).ledger.applyWorkerReport
            digests policy report lease now =
              .ok (row.receipt, (LabSystem.run digests (calls ++ more)).ledger))

theorem onLiveClaim_of_accepted
    (stored :
      (LabSystem.run digests calls).ledger.shardRow report.jobId report.shardId = some shard)
    (live : LiveReport report lease job shard now) :
    ∃ claim, OnLiveClaim (LabSystem.run digests calls) report now shard claim := by
  have mem := (mem_of_findKey stored).1
  obtain ⟨claim, last, carries⟩ := attended_run digests calls shard mem live.running
  refine ⟨claim, ?_⟩
  exact
    { stored := stored
      running := live.running
      unexpired := live.unexpired
      last := last
      current := carries
      worker := by
        have worker := live.worker
        rw [carries.worker] at worker
        exact worker.symm
      token := Option.some_inj.mp (live.token.symm.trans carries.token)
      generation := live.generation.symm.trans carries.generation
      fence := Option.some_inj.mp (live.fence.symm.trans carries.fence) }

/-- Every run completes each shard at most once, under fencing. -/
theorem completes_once (digests : LabDigests) (calls : List LabCall) :
    CompletesOnce digests calls := by
  constructor
  · exact (settled_run digests calls).distinct
  · intro shard member succeeded more
    rw [run_append]
    exact findKey_of_mem (JobGraph.uniqueShards _)
      (resume_keeps (motive := fun graph => shard ∈ graph.shards)
        (fun stored moved => moved.mem_of_succeeded stored succeeded) member more)
  · intro policy report lease now receipt next fresh applied accepted
    obtain ⟨-, whenAccepted⟩ := applyWorkerReport_of_fresh fresh applied
    obtain ⟨_, shard, stored, live⟩ := whenAccepted accepted
    exact ⟨shard, onLiveClaim_of_accepted stored live⟩
  · intro shard member
    rw [((counted_run digests calls).tallied shard member).generations]
    exact pairwise_lt_range'
  · intro more
    refine ⟨?_, (fenced_run digests (calls ++ more)).increasing⟩
    rw [run_append]
    refine resume_invariant
      (motive := fun system => (run digests calls).ledger.leases.map LabLeaseRecord.fencingToken <+:
        system.ledger.leases.map LabLeaseRecord.fencingToken) (prefix_refl _) ?_ more
    intro system _ _ _ before executed
    obtain ⟨_, effect⟩ := callMoves_of_execute executed
    exact before.trans effect.leases.prefix_fences
  · intro _ lease now presented stale
    rw [run_append]
    change (LabSystem.run digests calls).apply digests _ = _
    unfold LabSystem.apply
    split
    · rename_i executed
      have valid := validated_of_execute executed presented
      exact absurd (current_of_validateLease (fenced_run digests calls) valid) stale
    · rfl
  · intro policy report lease now receipt next fresh applied
    obtain ⟨⟨row, reports, sameId, -, content, sameReceipt⟩, -⟩ :=
      applyWorkerReport_of_fresh fresh applied
    refine ⟨row, ?_, sameReceipt, content⟩
    unfold Ledger.reportRow
    rw [reports, ← sameId]
    refine findKey_append_singleton ?_
    rw [sameId]
    exact findKey_eq_none.mp fresh
  · intro report row stored more policy lease now
    have still :
        (LabSystem.run digests (calls ++ more)).ledger.reportRow report.reportId = some row := by
      rw [run_append]
      refine resume_invariant
        (motive := fun system => system.ledger.reportRow report.reportId = some row) stored ?_ more
      intro system _ _ next found executed
      obtain ⟨_, effect⟩ := callMoves_of_execute executed
      obtain ⟨_, reports⟩ := effect.reports
      change findKey WorkerReportRow.reportId report.reportId next.reports = some row
      rw [← reports]
      exact findKey_append_of_some found
    constructor
    · intro receipt next applied
      unfold applyWorkerReport at applied
      simp only [run_eq_ok] at applied
      obtain ⟨-, -, applied⟩ := applied
      rw [still] at applied
      simp only [pair_eq_ok] at applied
      obtain ⟨-, rfl, rfl⟩ := applied
      exact ⟨rfl, rfl⟩
    · intro content wellFormed valid
      unfold applyWorkerReport
      rw [require_of wellFormed, valid, still]
      simp only [ok_bind]
      rw [require_of content]
      rfl

end RQuant.Lab
