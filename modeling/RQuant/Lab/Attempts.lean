import RQuant.Lab.Transactions

/-!
# Lab jobs: attempts

The claims that were ever handed out for a shard are numbered from one to its
claim generation, which is its attempt count; and no shard has more attempts
than its job allows.
-/

namespace RQuant.Lab

open Foundation JobGraph
open List hiding after next count minimum

def LabShardClaim.key (claim : LabShardClaim) : Uuid × Uuid :=
  (claim.jobId, claim.definition.shardId)

/-- The claims for one shard, in the order in which they were handed out. -/
def claimsFor (key : Uuid × Uuid) (claims : List LabShardClaim) : List LabShardClaim :=
  claims.filter fun claim => claim.key = key

variable {claims : List LabShardClaim} {claim : LabShardClaim} {graph : JobGraph}

theorem claimsFor_append_of_key (same : claim.key = key) :
    claimsFor key (claims ++ [claim]) = claimsFor key claims ++ [claim] := by
  unfold claimsFor
  rw [filter_append, filter_cons_of_pos (by simp [same]), filter_nil]

theorem claimsFor_append_of_ne (different : claim.key ≠ key) :
    claimsFor key (claims ++ [claim]) = claimsFor key claims := by
  unfold claimsFor
  rw [filter_append, filter_cons_of_neg (by simp [different]), filter_nil, append_nil]

variable {new old row : ShardRow} {next : JobGraph} {change : ShardRow → ShardRow}
  {digests : LabDigests}

theorem ClaimMove.key (claiming : ClaimMove row claim) : claim.key = row.key := by
  unfold LabShardClaim.key ShardRow.key
  rw [claiming.job, claiming.definition]

theorem filterMap_claim?_succeeded :
    [LabEvent.succeeded jobId shardId].filterMap LabEvent.claim? = [] := rfl

/-- What the moves leave alone of a shard that is not claimed. -/
def ShardRow.tally (row : ShardRow) : (Uuid × Uuid) × ℕ × ℕ × ℕ :=
  (row.key, row.claimGeneration, row.attemptCount, row.maxAttempts)

theorem ShardMove.tally (moved : ShardMove old new) : new.tally = old.tally := by
  cases moved <;> rfl

theorem SuccessMove.tally (success : SuccessMove digests old new) : new.tally = old.tally := by
  obtain ⟨_, _, _, _, rfl, -⟩ := success.succeeds
  rfl

theorem JobMove.maxAttempts {old new : JobRow} (moved : JobMove old new) :
    new.maxAttempts = old.maxAttempts := by
  have same := congrArg JobRow.maxAttempts moved.identity
  exact same

structure Tallied (graph : JobGraph) (claims : List LabShardClaim) (shard : ShardRow) : Prop where
  generations :
    (claimsFor shard.key claims).map LabShardClaim.claimGeneration = range' 1 shard.claimGeneration
  attempts : shard.attemptCount = shard.claimGeneration
  bounded : shard.attemptCount ≤ shard.maxAttempts
  limit : (graph.jobRow shard.jobId).map JobRow.maxAttempts = some shard.maxAttempts

structure Counted (graph : JobGraph) (claims : List LabShardClaim) : Prop where
  owned : ∀ claim ∈ claims, claim.key ∈ graph.shards.map ShardRow.key
  tallied : ∀ shard ∈ graph.shards, Tallied graph claims shard

theorem Tallied.of_tally (tallied : Tallied graph claims old) (same : new.tally = old.tally)
    (jobs : (next.jobRow old.jobId).map JobRow.maxAttempts =
      (graph.jobRow old.jobId).map JobRow.maxAttempts) :
    Tallied next claims new := by
  have sameKey : new.key = old.key := congrArg Prod.fst same
  have sameJob : new.jobId = old.jobId := congrArg Prod.fst sameKey
  have sameGeneration : new.claimGeneration = old.claimGeneration :=
    congrArg (fun tally => tally.2.1) same
  have sameAttempts : new.attemptCount = old.attemptCount :=
    congrArg (fun tally => tally.2.2.1) same
  have sameLimit : new.maxAttempts = old.maxAttempts := congrArg (fun tally => tally.2.2.2) same
  exact
    { generations := by
        rw [sameKey, sameGeneration]
        exact tallied.generations
      attempts := by rw [sameAttempts, sameGeneration, tallied.attempts]
      bounded := by
        rw [sameAttempts, sameLimit]
        exact tallied.bounded
      limit := by
        rw [sameJob, sameLimit, jobs]
        exact tallied.limit }

namespace Counted

section

variable (counted : Counted graph claims)

include counted

theorem mapShards (keeps : ∀ row, (change row).key = row.key)
    (same : ∀ row ∈ graph.shards, (change row).tally = row.tally) :
    Counted (graph.mapShards change keeps) claims := by
  constructor
  · intro claim mem
    have keys : (graph.mapShards change keeps).shards.map ShardRow.key =
        graph.shards.map ShardRow.key := graph.shardKeys_map keeps
    rw [keys]
    exact counted.owned claim mem
  · intro _ mem
    obtain ⟨old, oldMem, rfl⟩ := mem_map.mp mem
    exact (counted.tallied old oldMem).of_tally (same old oldMem) rfl

theorem of_jobs (shards : next.shards = graph.shards)
    (limits : ∀ jobId,
      (next.jobRow jobId).map JobRow.maxAttempts = (graph.jobRow jobId).map JobRow.maxAttempts ∨
        graph.jobRow jobId = none) :
    Counted next claims := by
  constructor
  · rw [shards]
    exact counted.owned
  · rw [shards]
    intro shard mem
    have tallied := counted.tallied shard mem
    rcases limits shard.jobId with same | absent
    · exact tallied.of_tally rfl same
    · have limit := tallied.limit
      rw [absent] at limit
      cases limit

theorem setJob {old new : JobRow}
    (found : graph.jobRow new.jobId = some old) (same : new.maxAttempts = old.maxAttempts) :
    Counted (graph.setJob new) claims := by
  refine counted.of_jobs rfl ?_
  intro jobId
  by_cases sameId : jobId = new.jobId
  · subst sameId
    rw [jobRow_setJob found, found, Option.map_some, Option.map_some, same]
    exact .inl rfl
  · rw [jobRow_setJob_of_ne sameId]
    exact .inl rfl

theorem addShards
    (new : ∀ row ∈ rows, row.claimGeneration = 0 ∧ row.attemptCount = 0 ∧
      (graph.jobRow row.jobId).map JobRow.maxAttempts = some row.maxAttempts) :
    Counted (graph.addShards rows fresh) claims := by
  rw [map_append, nodup_append'] at fresh
  constructor
  · intro claim mem
    change claim.key ∈ (graph.shards ++ rows).map ShardRow.key
    rw [map_append]
    exact mem_append_left _ (counted.owned claim mem)
  · intro shard mem
    rcases mem_append.mp mem with stored | added
    · exact (counted.tallied shard stored).of_tally rfl rfl
    · obtain ⟨generation, attempts, limit⟩ := new shard added
      have none : claimsFor shard.key claims = [] := filter_of_none fun claim claimMem same =>
        fresh.2.2 (same ▸ counted.owned claim claimMem) (mem_map_of_mem added)
      exact
        { generations := by rw [none, generation]; rfl
          attempts := attempts.trans generation.symm
          bounded := by rw [attempts]; exact Nat.zero_le _
          limit := limit }

theorem claimed (keeps : ∀ row, (change row).key = row.key)
    (changes : ChangesOnly graph change row (row.claimed claim (row.attemptCount + 1)))
    (claiming : ClaimMove row claim) :
    Counted (graph.mapShards change keeps) (claims ++ [claim]) := by
  have claimKey : claim.key = row.key := claiming.key
  have keys : (graph.mapShards change keeps).shards.map ShardRow.key =
      graph.shards.map ShardRow.key := graph.shardKeys_map keeps
  constructor
  · intro other mem
    rw [keys]
    rcases mem_append.mp mem with earlier | last
    · exact counted.owned other earlier
    · rw [mem_singleton.mp last, claimKey]
      exact mem_map_of_mem changes.member
  · intro _ mem
    obtain ⟨old, oldMem, rfl⟩ := mem_map.mp mem
    by_cases same : old = row
    · subst same
      have tallied := counted.tallied old oldMem
      rw [changes.changed]
      exact
        { generations := by
            change
              (claimsFor old.key (claims ++ [claim])).map LabShardClaim.claimGeneration =
                range' 1 claim.claimGeneration
            rw [claimsFor_append_of_key claimKey, map_append,
              map_singleton, tallied.generations, claiming.generation,
              range'_1_concat, Nat.add_comm 1]
          attempts := by
            change old.attemptCount + 1 = claim.claimGeneration
            rw [claiming.generation, tallied.attempts]
          bounded := claiming.attempts
          limit := tallied.limit }
    · rw [changes.others old oldMem same]
      have tallied := counted.tallied old oldMem
      have different : claim.key ≠ old.key := by
        rw [claimKey]
        intro sameKey
        exact same (shard_eq_of_key oldMem changes.member sameKey.symm)
      exact
        { tallied with
          generations := by
            rw [claimsFor_append_of_ne different]
            exact tallied.generations }

theorem changed (keeps : ∀ row, (change row).key = row.key)
    (changes : ChangesOnly graph change row new) (same : new.tally = row.tally) :
    Counted (graph.mapShards change keeps) claims := by
  refine counted.mapShards keeps ?_
  intro other mem
  by_cases isRow : other = row
  · rw [isRow, changes.changed, same]
  · rw [changes.others other mem isRow]

/-- A move counts an attempt exactly when it emits a claim. -/
theorem move (moved : Move digests graph emitted next) :
    Counted next (claims ++ emitted.filterMap LabEvent.claim?) := by
  cases moved with
  | submitted jobId spec maxAttempts now fresh _ _ =>
    rw [filterMap_nil, append_nil]
    refine counted.of_jobs rfl ?_
    intro other
    by_cases same : other = jobId
    · subst same
      exact .inr (findKey_eq_none.mpr fresh)
    · refine .inl (congrArg (Option.map JobRow.maxAttempts) ?_)
      exact findKey_append_singleton_of_ne (Ne.symm same)
  | @planned job now definitions fresh found =>
    rw [filterMap_nil, append_nil]
    have bound : Counted (graph.setJob job.planned) claims := counted.setJob found rfl
    refine bound.addShards ?_
    intro row mem
    obtain ⟨_, -, rfl⟩ := mem_map.mp mem
    refine ⟨rfl, rfl, ?_⟩
    have planned : (graph.setJob job.planned).jobRow job.jobId = some job.planned :=
      jobRow_setJob found
    exact congrArg (Option.map JobRow.maxAttempts) planned
  | jobMoved authorization found move =>
    rw [filterMap_nil, append_nil]
    exact (counted.setJob found move.maxAttempts).of_jobs rfl fun _ => .inl rfl
  | shardsMoved keeps moves =>
    rw [filterMap_nil, append_nil]
    refine counted.mapShards keeps ?_
    intro row mem
    rcases moves row mem with same | ⟨-, move⟩
    · rw [same]
    · exact move.tally
  | claimed keeps changes _ claiming => exact counted.claimed keeps changes claiming
  | succeeded keeps changes _ success =>
    rw [filterMap_claim?_succeeded, append_nil]
    exact counted.changed keeps changes success.tally
  | @readied change _ _ _ _ _ keeps changes _ success _ found move =>
    have settled : Counted (graph.mapShards change keeps) claims :=
      counted.changed keeps changes success.tally
    rw [filterMap_claim?_succeeded, append_nil]
    exact (settled.setJob found move.maxAttempts).of_jobs rfl fun _ => .inl rfl
  | committed fresh | published row =>
    rw [filterMap_nil, append_nil]
    exact counted.of_jobs rfl fun _ => .inl rfl
  | @sealed _ _ _ artifact _ fresh _ _ _ found move =>
    rw [filterMap_nil, append_nil]
    have indexed : Counted (graph.addArtifact artifact fresh) claims :=
      counted.of_jobs rfl fun _ => .inl rfl
    exact (indexed.setJob found move.maxAttempts).of_jobs rfl fun _ => .inl rfl

end

end Counted

theorem counted_run (digests : LabDigests) (calls : List LabCall) :
    Counted (LabSystem.run digests calls).ledger.toJobGraph
      (LabSystem.run digests calls).issued := by
  obtain ⟨past, counted, issued, -⟩ := LabSystem.run_history
    (motive := fun graph past => Counted graph (past.filterMap LabEvent.claim?))
    (by constructor <;> simp [JobGraph.empty])
    (fun counted moved => by
        rw [filterMap_append]
        exact counted.move moved)
      calls
  rw [issued]
  exact counted

theorem Counted.length_claimsFor (counted : Counted graph claims) (mem : shard ∈ graph.shards) :
    (claimsFor shard.key claims).length = shard.claimGeneration := by
  have lengths := congrArg length (counted.tallied shard mem).generations
  rwa [length_map, length_range'] at lengths

theorem Counted.length_claims {job : JobRow} (counted : Counted graph claims)
    (limited :
      ∀ shard ∈ graph.shardsOf job.jobId, (claimsFor shard.key claims).length ≤ job.maxAttempts) :
    (claims.filter fun claim => claim.jobId = job.jobId).length ≤
      (graph.shardsOf job.jobId).length * job.maxAttempts := by
  set rows := claims.filter fun claim => claim.jobId = job.jobId
  set keys := (graph.shardsOf job.jobId).map ShardRow.key with isKeys
  have distinct : keys.Nodup := graph.uniqueShards.sublist (filter_sublist.map _)
  have covered : ∀ claim ∈ rows, claim.key ∈ keys := by
    intro claim mem
    obtain ⟨earlier, sameJob⟩ := mem_filter.mp mem
    obtain ⟨shard, stored, sameKey⟩ := mem_map.mp (counted.owned claim earlier)
    have shardJob : shard.jobId = claim.jobId := congrArg Prod.fst sameKey
    refine mem_map.mpr ⟨shard, ?_, sameKey⟩
    exact mem_shardsOf.mpr ⟨stored, shardJob.trans (of_decide_eq_true sameJob)⟩
  have ofKey : ∀ wanted ∈ keys,
      ((rows.filter fun claim => claim.key = wanted).map fun _ => 1).sum ≤ job.maxAttempts := by
    intro wanted mem
    obtain ⟨shard, shardMem, rfl⟩ := mem_map.mp mem
    have fewer : (rows.filter fun claim => claim.key = shard.key).length ≤
        (claimsFor shard.key claims).length :=
      (filter_sublist.filter _).length_le
    rw [map_const', sum_replicate, smul_eq_mul, Nat.mul_one]
    exact fewer.trans (limited shard shardMem)
  calc
    rows.length = (rows.map fun _ => 1).sum := by simp
    _ = (keys.map fun wanted =>
          ((rows.filter fun claim => claim.key = wanted).map fun _ => 1).sum).sum :=
        (sum_filter_key_eq distinct covered).symm
    _ ≤ keys.length • job.maxAttempts := by
        rw [← length_map]
        refine sum_le_card_nsmul _ _ ?_
        intro _ mem
        obtain ⟨wanted, wantedMem, rfl⟩ := mem_map.mp mem
        exact ofKey wanted wantedMem
    _ = (graph.shardsOf job.jobId).length * job.maxAttempts := by
        rw [smul_eq_mul, isKeys, length_map]

/-- What attempts come to, for one state of the store and the claims that were
handed out before it. -/
structure AttemptsBounded (graph : JobGraph) (claims : List LabShardClaim) : Prop where
  /-- Every claim is for a stored shard of a stored job. -/
  owned :
    ∀ claim ∈ claims, ∃ shard, graph.shardRow claim.jobId claim.definition.shardId = some shard
  /-- The claims for a shard are as many as its attempts and generations. -/
  counted : ∀ shard ∈ graph.shards, (claimsFor shard.key claims).length = shard.attemptCount ∧
    (claimsFor shard.key claims).length = shard.claimGeneration
  /-- No shard exceeds its limit, with which its job was submitted. -/
  bounded : ∀ shard ∈ graph.shards, (claimsFor shard.key claims).length ≤ shard.maxAttempts ∧
    ∃ job, graph.jobRow shard.jobId = some job ∧ job.maxAttempts = shard.maxAttempts
  /-- A job costs at most its shards times its limit. -/
  finite : ∀ job ∈ graph.jobs, (claims.filter fun claim => claim.jobId = job.jobId).length ≤
    (graph.shardsOf job.jobId).length * job.maxAttempts

/-- In every run the claims for a shard are its attempts and its generations,
and a job causes at most its number of shards times its limit. -/
theorem attempts_bounded_run (digests : LabDigests) (calls : List LabCall) :
    AttemptsBounded (LabSystem.run digests calls).ledger.toJobGraph
      (LabSystem.run digests calls).issued := by
  have counted := counted_run digests calls
  have bounded : ∀ shard ∈ (LabSystem.run digests calls).ledger.shards,
      (claimsFor shard.key (LabSystem.run digests calls).issued).length ≤ shard.maxAttempts := by
    intro shard member
    rw [counted.length_claimsFor member, ← (counted.tallied shard member).attempts]
    exact (counted.tallied shard member).bounded
  constructor
  · intro claim member
    obtain ⟨shard, stored, sameKey⟩ := mem_map.mp (counted.owned claim member)
    refine ⟨shard, ?_⟩
    have found := findKey_of_mem (JobGraph.uniqueShards _) stored
    rwa [sameKey] at found
  · intro shard member
    have length := counted.length_claimsFor member
    exact ⟨length.trans (counted.tallied shard member).attempts.symm, length⟩
  · intro shard member
    have limit := (counted.tallied shard member).limit
    exact ⟨bounded shard member, Option.map_eq_some_iff.mp limit⟩
  · intro _ member
    refine counted.length_claims ?_
    intro shard shardMember
    obtain ⟨stored, sameJob⟩ := mem_shardsOf.mp shardMember
    have limit := (counted.tallied shard stored).limit
    rw [sameJob, jobRow_of_mem member, Option.map_some, Option.some.injEq] at limit
    rw [limit]
    exact bounded shard stored

end RQuant.Lab
