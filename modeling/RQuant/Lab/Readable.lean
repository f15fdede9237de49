import RQuant.Lab.ShardAudit
import RQuant.Lab.Transactions

/-!
# Lab jobs: the store stays readable

Every job and every shard of a reachable store passes the checks of the reader:
the triggers check each write of a job row, and the shards and the index of a
result that is ready or sealed do not change.
-/

namespace RQuant.Lab

open Foundation List JobGraph

structure JobKnown (job : JobRow) : Prop where
  specHash : job.spec.specHash = job.specHash
  jobType : job.spec.jobType = job.jobType
  resourceClass : job.spec.resourceClass = job.resourceClass
  deadline : job.spec.deadline = job.deadline
  attempts : 1 ≤ job.maxAttempts
  contract : job.resultContractVersion ≠ some ""
  complete : job.requiresCompleteResult = true

def JobRow.Contracted (job : JobRow) : Prop :=
  job.resultContractVersion = some completeResultContractVersion

section

variable (graph : JobGraph) (job : JobRow)

structure PendingSound : Prop where
  status : job.status ≠ .succeeded
  unindexed : graph.artifactRow job.jobId = none
  unfinished : job.status = .running ∨ job.status = .checkpointed → job.Contracted →
    ¬ graph.AllSucceeded job.jobId

structure ReadySound : Prop where
  status : job.status = .running
  intent : job.controlIntent = .none
  contract : job.Contracted
  unindexed : graph.artifactRow job.jobId = none
  finished : graph.AllSucceeded job.jobId

structure SealedSound : Prop where
  status : job.status = .succeeded
  contract : job.Contracted
  finished : graph.AllSucceeded job.jobId
  committed : ∃ artifact row, graph.artifactRow job.jobId = some artifact ∧
    artifact.evidence.jobId = job.jobId ∧
    graph.commitRow artifact.commitRequestId = some row ∧
    graph.CommitAgrees job artifact row

/-- The state of a result agrees with the rest of the tables. -/
structure ResultSound : Prop where
  current : job.resultState ≠ .legacyUnsealed
  pending : job.resultState = .pending → PendingSound graph job
  ready : job.resultState = .ready → ReadySound graph job
  sealed : job.resultState = .sealed → SealedSound graph job

end

theorem ResultSound.of_pending (state : job.resultState = .pending)
    (pending : PendingSound graph job) : ResultSound graph job := by
  refine ⟨?_, fun _ => pending, ?_, ?_⟩ <;>
    · rw [state]
      nofun

structure JobSound (job : JobRow) : Prop where
  known : JobKnown job
  fence : ∀ fence ∈ job.schedulerFencingToken, 1 ≤ fence

variable {graph next : JobGraph}

variable {digests : LabDigests} {old : JobRow} {jobId : Uuid}
  {authorization : JobGraph.Authorization} {unsettled : Option Uuid} {event : EventRow} {now : Time}
  {change : ShardRow → ShardRow}

theorem JobKnown.move (known : JobKnown old) (moved : JobMove old new) : JobKnown new := by
  rw [← moved.identity] at known
  exact { known with }

theorem JobMove.contracted (moved : JobMove old new) : new.Contracted ↔ old.Contracted := by
  have same := congrArg JobRow.resultContractVersion moved.identity
  unfold JobRow.Contracted
  rw [← same]

theorem JobMove.positive (moved : JobMove old new)
    (positive : ∀ fence ∈ old.schedulerFencingToken, 1 ≤ fence) :
    ∀ fence ∈ new.schedulerFencingToken, 1 ≤ fence := by
  rcases moved.fence with same | fresh
  · rw [same]
    exact positive
  · exact fresh

section Triggers

theorem checkJobUpdate_eq_ok (complete : old.requiresCompleteResult = true)
    (checked : graph.checkJobUpdate authorization old new = .ok ()) :
    old.resultState ≠ .sealed ∧
      (old.resultState = .ready → graph.ReadyRowAllowed authorization old new) ∧
      ¬ graph.ResultRefused authorization old new := by
  unfold JobGraph.checkJobUpdate at checked
  simp only [run_eq_ok] at checked
  obtain ⟨unsealed, -, ready, accepted⟩ := checked
  exact ⟨fun isSealed => unsealed ⟨complete, isSealed⟩,
    fun isReady => ready ⟨complete, isReady⟩, accepted⟩

section

variable (complete : new.requiresCompleteResult = true)
  (accepted : ¬ graph.ResultRefused authorization old new)

include complete accepted

theorem pendingSound_of_accepted (isPending : new.resultState = .pending)
    (paused : new.status = .checkpointed → new.Contracted → ¬ graph.AllSucceeded new.jobId) :
    PendingSound graph new := by
  have allowed : ¬ graph.PendingRefused old new := fun refused =>
    accepted (.inr (.inl ⟨complete, .inl ⟨isPending, refused⟩⟩))
  unfold JobGraph.PendingRefused at allowed
  simp only [not_or] at allowed
  obtain ⟨status, -, unindexed, unfinished⟩ := allowed
  refine ⟨status, by simpa using unindexed, ?_⟩
  rintro (running | isPaused) contracted finished
  · exact unfinished ⟨running, contracted, finished⟩
  · exact paused isPaused contracted finished

theorem readySound_of_accepted (isReady : new.resultState = .ready) : ReadySound graph new := by
  have allowed : ¬ graph.ReadyRefused new := fun refused =>
    accepted (.inr (.inl ⟨complete, .inr (.inl ⟨isReady, refused⟩)⟩))
  unfold JobGraph.ReadyRefused at allowed
  simp only [not_or, not_not] at allowed
  obtain ⟨status, intent, contract, unindexed, finished⟩ := allowed
  exact ⟨status, intent, contract, by simpa using unindexed, finished⟩

end

/-- A sealed row that the triggers accept: the old row was ready, and the index
names an accepted commit. -/
theorem sealedSound_of_accepted (complete : new.requiresCompleteResult = true)
    (accepted : ¬ graph.ResultRefused authorization old new) (isSealed : new.resultState = .sealed)
    (evidence : old.resultState = .ready →
      ∀ artifact, graph.artifactRow new.jobId = some artifact →
        artifact.evidence.jobId = new.jobId) :
    SealedSound graph new := by
  have allowed : ¬ graph.SealedRefused authorization old new := fun refused =>
    accepted (.inr (.inl ⟨complete, .inr (.inr ⟨isSealed, refused⟩)⟩))
  unfold JobGraph.SealedRefused at allowed
  simp only [not_or, not_not] at allowed
  obtain ⟨-, -, wasReady, -, -, status, -, contract, -, finished, artifact,
    indexed, -, row, committed, agrees⟩ := allowed
  exact ⟨status, contract, finished, artifact, row, indexed,
    evidence wasReady artifact indexed, committed, agrees⟩

theorem resultSound_of_checkJobUpdate (known : JobKnown old) (moved : JobMove old new)
    (checked : graph.checkJobUpdate authorization old new = .ok ())
    (paused : new.resultState = .pending → new.status = .checkpointed →
      new.Contracted → ¬ graph.AllSucceeded new.jobId)
    (evidence : old.resultState = .ready →
      ∀ artifact, graph.artifactRow new.jobId = some artifact →
        artifact.evidence.jobId = new.jobId) :
    ResultSound graph new := by
  obtain ⟨-, -, accepted⟩ := checkJobUpdate_eq_ok known.complete checked
  have complete := (known.move moved).complete
  constructor
  · intro legacy
    refine accepted (.inl ⟨legacy, ?_⟩)
    rintro ⟨incomplete, -⟩
    rw [known.complete] at incomplete
    cases incomplete
  · intro isPending
    exact pendingSound_of_accepted complete accepted isPending (paused isPending)
  · exact readySound_of_accepted complete accepted
  · intro isSealed
    exact sealedSound_of_accepted complete accepted isSealed evidence

theorem unfinished_of_paused (known : JobKnown old) (result : ResultSound graph old)
    (sameId : new.jobId = old.jobId) (moved : JobMove old new)
    (checked : graph.checkJobUpdate authorization old new = .ok ())
    (isPaused : new.status = .checkpointed) (contracted : new.Contracted) :
    ¬ graph.AllSucceeded new.jobId := by
  obtain ⟨unsealed, ready, -⟩ := checkJobUpdate_eq_ok known.complete checked
  rw [sameId]
  cases state : old.resultState with
  | pending =>
    exact (result.pending state).unfinished (moved.paused isPaused) (moved.contracted.mp contracted)
  | ready =>
    -- a ready row only succeeds, fails or is cancelled
    obtain ⟨-, ⟨status, -⟩ | ⟨status | status, -⟩⟩ := ready state <;>
      · rw [isPaused] at status
        cases status
  | sealed => exact absurd state unsealed
  | legacyUnsealed => exact absurd state result.current

end Triggers

/-- What a result reads of the tables stays. -/
structure SameResult (graph next : JobGraph) (jobId : Uuid) : Prop where
  shards : next.shardsOf jobId = graph.shardsOf jobId
  artifact : next.artifactRow jobId = graph.artifactRow jobId
  commits :
    ∀ requestId row, graph.commitRow requestId = some row → next.commitRow requestId = some row

theorem SameResult.allSucceeded (same : SameResult graph next jobId) :
    next.AllSucceeded jobId ↔ graph.AllSucceeded jobId := by
  unfold JobGraph.AllSucceeded
  rw [same.shards]

theorem ResultSound.congr (result : ResultSound graph job)
    (same : SameResult graph next job.jobId) : ResultSound next job := by
  constructor
  · exact result.current
  · intro state
    obtain ⟨status, unindexed, unfinished⟩ := result.pending state
    refine ⟨status, same.artifact.trans unindexed, ?_⟩
    rw [same.allSucceeded]
    exact unfinished
  · intro state
    obtain ⟨status, intent, contract, unindexed, finished⟩ := result.ready state
    exact ⟨status, intent, contract, same.artifact.trans unindexed, same.allSucceeded.mpr finished⟩
  · intro state
    obtain ⟨status, contract, finished, artifact, row, indexed, evidence,
      committed, agrees⟩ := result.sealed state
    refine ⟨status, contract, same.allSucceeded.mpr finished, artifact, row,
      same.artifact.trans indexed, evidence, same.commits _ _ committed, ?_⟩
    unfold JobGraph.CommitAgrees
    rw [same.shards]
    exact agrees

/-- A sound store; the result of the job `unsettled` is left open, while a
transaction works on it. -/
structure Sound (digests : LabDigests) (graph : JobGraph) (unsettled : Option Uuid) : Prop where
  jobs : ∀ job ∈ graph.jobs, JobSound job
  results : ∀ job ∈ graph.jobs, some job.jobId ≠ unsettled → ResultSound graph job
  shards : ∀ shard ∈ graph.shards, ShardSound digests shard
  short : ∀ jobId, (graph.shardsOf jobId).length ≤ maxJobShards
  owned : ∀ artifact ∈ graph.artifacts, artifact.jobId ∈ graph.jobs.map JobRow.jobId

namespace Sound

theorem jobSound (sound : Sound digests graph unsettled)
    (found : graph.jobRow jobId = some job) : JobSound job :=
  sound.jobs job (mem_of_jobRow found).1

theorem resultSound (sound : Sound digests graph none)
    (found : graph.jobRow jobId = some job) : ResultSound graph job :=
  sound.results job (mem_of_jobRow found).1 (by simp)

section

variable (sound : Sound digests graph unsettled)

include sound

theorem setJob (isUnsettled : unsettled = none ∨ unsettled = some new.jobId) (known : JobKnown new)
    (positive : ∀ fence ∈ new.schedulerFencingToken, 1 ≤ fence) (result : ResultSound graph new) :
    Sound digests (graph.setJob new) none := by
  have same : ∀ jobId, SameResult graph (graph.setJob new) jobId := fun _ =>
    ⟨rfl, rfl, fun _ _ found => found⟩
  constructor
  · intro job mem
    rcases mem_setJob mem with rfl | ⟨earlier, -⟩
    · exact ⟨known, positive⟩
    · exact sound.jobs job earlier
  · intro job mem _
    rcases mem_setJob mem with rfl | ⟨earlier, different⟩
    · exact result.congr (same _)
    · refine (sound.results job earlier ?_).congr (same _)
      rintro rfl
      rcases isUnsettled with absent | isNew
      · cases absent
      · exact different (Option.some_inj.mp isNew)
  · exact sound.shards
  · exact sound.short
  · intro artifact mem
    have ids : (graph.setJob new).jobs.map JobRow.jobId =
        graph.jobs.map JobRow.jobId := graph.jobIds_updateKey new
    rw [ids]
    exact sound.owned artifact mem

theorem congr (jobs : next.jobs = graph.jobs) (shards : next.shards = graph.shards)
    (artifacts : next.artifacts = graph.artifacts)
    (commits :
      ∀ requestId row, graph.commitRow requestId = some row → next.commitRow requestId = some row) :
    Sound digests next unsettled := by
  have same : ∀ jobId, SameResult graph next jobId := by
    intro jobId
    refine ⟨?_, ?_, commits⟩
    · unfold JobGraph.shardsOf
      rw [shards]
    · unfold JobGraph.artifactRow
      rw [artifacts]
  constructor
  · rw [jobs]
    exact sound.jobs
  · rw [jobs]
    exact fun job mem settled => (sound.results job mem settled).congr (same _)
  · rw [shards]
    exact sound.shards
  · intro jobId
    rw [(same jobId).shards]
    exact sound.short jobId
  · rw [artifacts, jobs]
    exact sound.owned

theorem pending_of_mutable (mem : job ∈ graph.jobs) (result : ResultSound graph job)
    (mutable : graph.shardsMutable job.jobId = true) :
    job.resultState = .pending := by
  unfold JobGraph.shardsMutable at mutable
  rw [jobRow_of_mem mem] at mutable
  have complete := (sound.jobs job mem).known.complete
  have current := result.current
  cases state : job.resultState <;> simp_all

end

/-- Shards of pending jobs change; none of these jobs is finished by it. -/
theorem mapShards (keeps : ∀ row, (change row).key = row.key) (sound : Sound digests graph none)
    (changes : ∀ row ∈ graph.shards, change row = row ∨
      (graph.shardsMutable row.jobId = true ∧ ShardSound digests (change row)))
    (unfinished : ∀ job ∈ graph.jobs, some job.jobId ≠ unsettled →
      job.status = .running ∨ job.status = .checkpointed →
      job.Contracted →
      (graph.mapShards change keeps).AllSucceeded job.jobId →
      graph.AllSucceeded job.jobId) :
    Sound digests (graph.mapShards change keeps) unsettled := by
  constructor
  · exact sound.jobs
  · intro job mem settled
    have result := sound.results job mem (by simp)
    by_cases mutable : graph.shardsMutable job.jobId = true
    · have state := sound.pending_of_mutable mem result mutable
      have before := result.pending state
      refine .of_pending state ⟨before.status, before.unindexed, ?_⟩
      intro status contracted finished
      exact before.unfinished status contracted
        (unfinished job mem settled status contracted finished)
    · -- the shards of a result that is ready or sealed stay
      refine result.congr ⟨?_, rfl, fun _ _ found => found⟩
      rw [shardsOf_mapShards]
      refine (map_congr_left ?_).trans (map_id _)
      intro row rowMem
      obtain ⟨stored, sameJob⟩ := mem_shardsOf.mp rowMem
      rcases changes row stored with same | ⟨isMutable, -⟩
      · exact same
      · rw [sameJob] at isMutable
        exact absurd isMutable mutable
  · intro _ mem
    obtain ⟨row, rowMem, rfl⟩ := mem_map.mp mem
    rcases changes row rowMem with same | ⟨-, changed⟩
    · rw [same]
      exact sound.shards row rowMem
    · exact changed
  · intro jobId
    rw [shardsOf_mapShards, length_map]
    exact sound.short jobId
  · exact sound.owned

theorem mapShards_of_unsuccessful (keeps : ∀ row, (change row).key = row.key)
    (sound : Sound digests graph none)
    (changes : ∀ row ∈ graph.shards, change row = row ∨
      (graph.shardsMutable row.jobId = true ∧ ShardSound digests (change row) ∧
        (change row).status ≠ .succeeded)) :
    Sound digests (graph.mapShards change keeps) none := by
  refine sound.mapShards keeps ?_ ?_
  · intro row mem
    rcases changes row mem with same | ⟨mutable, changed, -⟩
    · exact .inl same
    · exact .inr ⟨mutable, changed⟩
  · rintro _ mem - - - ⟨nonempty, succeeded⟩
    rw [shardsOf_mapShards] at nonempty succeeded
    refine ⟨fun empty => nonempty (by rw [empty]; rfl), ?_⟩
    intro row rowMem
    obtain ⟨stored, -⟩ := mem_shardsOf.mp rowMem
    have status := succeeded (change row) (mem_map_of_mem rowMem)
    rcases changes row stored with same | ⟨-, -, unsuccessful⟩
    · rwa [same] at status
    · exact absurd status unsuccessful

theorem mapShards_of_success (keeps : ∀ row, (change row).key = row.key)
    (sound : Sound digests graph none) (changes : ChangesOnly graph change row new)
    (mutable : graph.shardsMutable row.jobId = true) (success : SuccessMove digests row new) :
    Sound digests (graph.mapShards change keeps) (some row.jobId) := by
  refine sound.mapShards keeps ?_ ?_
  · intro other mem
    by_cases same : other = row
    · subst same
      rw [changes.changed]
      exact .inr ⟨mutable, success.sound (sound.shards other mem)⟩
    · exact .inl (changes.others other mem same)
  · intro job mem settled _ _ finished
    have other : job.jobId ≠ row.jobId := fun same => settled (congrArg some same)
    have sameShards : (graph.shardsOf job.jobId).map change = graph.shardsOf job.jobId := by
      refine (map_congr_left ?_).trans (map_id _)
      intro shard shardMem
      obtain ⟨stored, sameJob⟩ := mem_shardsOf.mp shardMem
      refine changes.others shard stored ?_
      rintro rfl
      exact other sameJob.symm
    unfold JobGraph.AllSucceeded at finished
    rw [shardsOf_mapShards, sameShards] at finished
    exact finished

theorem settle (sound : Sound digests graph (some jobId))
    (result : ∀ job ∈ graph.jobs, job.jobId = jobId → ResultSound graph job) :
    Sound digests graph none := by
  refine ⟨sound.jobs, ?_, sound.shards, sound.short, sound.owned⟩
  intro job mem _
  by_cases same : job.jobId = jobId
  · exact result job mem same
  · exact sound.results job mem fun isSome => same (Option.some_inj.mp isSome)

section

variable (sound : Sound digests graph none)

include sound

theorem jobMoved (found : graph.jobRow new.jobId = some old) (moved : JobMove old new)
    (checked : graph.checkJobUpdate authorization old new = .ok ()) :
    Sound digests ((graph.setJob new).addEvent event) none := by
  have job := sound.jobSound found
  have result := sound.resultSound found
  have sameId : new.jobId = old.jobId := (mem_of_jobRow found).2.symm
  have after : ResultSound graph new := by
    refine resultSound_of_checkJobUpdate job.known moved checked ?_ ?_
    · intro _ isPaused contracted
      exact unfinished_of_paused job.known result sameId moved checked isPaused contracted
    · intro wasReady _ indexed
      rw [sameId, (result.ready wasReady).unindexed] at indexed
      cases indexed
  exact (sound.setJob (.inl rfl) (job.known.move moved)
    (moved.positive job.fence) after).congr rfl rfl rfl fun _ _ found => found

theorem submitted
    (fresh : (JobGraph.submittedRow jobId spec maxAttempts now).jobId ∉ graph.jobs.map JobRow.jobId)
    (attempts : 1 ≤ maxAttempts) :
    Sound digests
      ((graph.addJob (JobGraph.submittedRow jobId spec maxAttempts now)
        fresh).addEvent event) none := by
  constructor
  · refine forall_mem_concat.mpr ⟨sound.jobs, ?_⟩
    exact ⟨⟨rfl, rfl, rfl, rfl, attempts, by simp [JobGraph.submittedRow],
      rfl⟩, by simp [JobGraph.submittedRow]⟩
  · intro job mem _
    rcases mem_concat.mp mem with earlier | rfl
    · exact (sound.results job earlier (by simp)).congr ⟨rfl, rfl, fun _ _ found => found⟩
    · have unindexed : graph.artifactRow jobId = none := by
        refine findKey_eq_none.mpr ?_
        intro indexed
        obtain ⟨artifact, stored, rfl⟩ := mem_map.mp indexed
        exact fresh (sound.owned artifact stored)
      refine .of_pending rfl ⟨nofun, unindexed, ?_⟩
      rintro (running | paused)
      · cases running
      · cases paused
  · exact sound.shards
  · exact sound.short
  · intro artifact mem
    change artifact.jobId ∈ (graph.jobs ++ [_]).map JobRow.jobId
    rw [map_append]
    exact mem_append_left _ (sound.owned artifact mem)

/-- Planning a queued job with readable shards keeps the store sound. -/
theorem planned {definitions : List LabShardDefinition}
    {fresh : (((graph.setJob job.planned).shards ++
      definitions.map (JobGraph.plannedRow job now)).map ShardRow.key).Nodup}
    (found : graph.jobRow job.jobId = some job) (queued : job.status = .queued)
    (unplanned : graph.shardsOf job.jobId = []) (short : definitions.length ≤ maxJobShards)
    (readable : ∀ definition ∈ definitions,
      shardFromRow digests (JobGraph.plannedRow job now definition) =
        .ok (JobGraph.plannedRow job now definition)) :
    Sound digests
      ((graph.setJob job.planned).addShards
        (definitions.map (JobGraph.plannedRow job now)) fresh) none := by
  have before := sound.jobSound found
  have result := sound.resultSound found
  -- a queued job is pending, and a pending job stays so
  have state : job.resultState = .pending := by
    cases state : job.resultState with
    | pending => rfl
    | ready =>
      have status := (result.ready state).status
      rw [queued] at status
      cases status
    | sealed =>
      have status := (result.sealed state).status
      rw [queued] at status
      cases status
    | legacyUnsealed => exact absurd state result.current
  have pending : ∀ {after : JobGraph}, after.artifactRow job.jobId = graph.artifactRow job.jobId →
      ResultSound after job.planned := by
    intro after sameArtifact
    have before := result.pending state
    refine .of_pending state ⟨before.status, sameArtifact.trans before.unindexed, ?_⟩
    rintro (status | status)
    · exact absurd (queued.symm.trans status) nofun
    · exact absurd (queued.symm.trans status) nofun
  have known : JobKnown job.planned :=
    { before.known with contract := by simp [JobRow.planned, completeResultContractVersion] }
  have written :
      (graph.setJob job.planned).jobRow job.planned.jobId = some job.planned := jobRow_setJob found
  have bound : Sound digests (graph.setJob job.planned) none :=
    sound.setJob (.inl rfl) known before.fence (pending rfl)
  have ofOthers : ∀ jobId, jobId ≠ job.jobId →
      ((graph.setJob job.planned).addShards
        (definitions.map (JobGraph.plannedRow job now)) fresh).shardsOf
          jobId = graph.shardsOf jobId := by
    intro jobId other
    change (graph.shards ++ _).filter _ = graph.shards.filter _
    refine filter_append_of_none fun shard mem same => ?_
    obtain ⟨definition, -, rfl⟩ := mem_map.mp mem
    exact other same.symm
  constructor
  · exact bound.jobs
  · intro other mem _
    by_cases same : other.jobId = job.jobId
    · have isPlanned : other = job.planned := eq_of_key_eq (graph.setJob job.planned).uniqueJobs mem
        (mem_of_jobRow written).1 same
      rw [isPlanned]
      exact pending rfl
    · exact (bound.results other mem (by simp)).congr
        ⟨ofOthers other.jobId same, rfl, fun _ _ stored => stored⟩
  · intro shard mem
    rcases mem_append.mp mem with stored | added
    · exact sound.shards shard stored
    · obtain ⟨definition, isDefinition, rfl⟩ := mem_map.mp added
      exact shardFromRow_eq_ok.mp (readable definition isDefinition)
  · intro jobId
    by_cases same : jobId = job.jobId
    · subst same
      change ((graph.shards ++ _).filter _).length ≤ _
      have earlier : graph.shards.filter (fun shard => shard.jobId = job.jobId) = [] := unplanned
      rw [filter_append, earlier, nil_append]
      refine (length_filter_le _ _).trans ?_
      rw [length_map]
      exact short
    · rw [ofOthers jobId same]
      exact sound.short jobId
  · exact bound.owned

theorem sealedMove (sameJob : artifact.jobId = new.jobId)
    (evidence : artifact.evidence.jobId = artifact.jobId) (isSealed : new.resultState = .sealed)
    (found : graph.jobRow new.jobId = some old) (moved : JobMove old new)
    (checked : (graph.addArtifact artifact fresh).checkJobUpdate authorization old new = .ok ()) :
    Sound digests (((graph.addArtifact artifact fresh).setJob new).addEvent event)
      none := by
  have before := sound.jobSound found
  have indexed : (graph.addArtifact artifact fresh).artifactRow artifact.jobId =
      some artifact := findKey_append_singleton fresh
  have opened : Sound digests (graph.addArtifact artifact fresh) (some new.jobId) := by
    refine ⟨sound.jobs, ?_, sound.shards, sound.short, ?_⟩
    · intro job mem settled
      refine (sound.results job mem (by simp)).congr ⟨rfl, ?_, fun _ _ stored => stored⟩
      refine findKey_append_singleton_of_ne ?_
      rw [sameJob]
      exact fun same => settled (congrArg some same.symm)
    · refine forall_mem_concat.mpr ⟨sound.owned, ?_⟩
      rw [sameJob, ← (mem_of_jobRow found).2]
      exact mem_map_of_mem (mem_of_jobRow found).1
  have after : ResultSound (graph.addArtifact artifact fresh) new := by
    refine resultSound_of_checkJobUpdate before.known moved checked ?_ ?_
    · intro pending
      rw [isSealed] at pending
      cases pending
    · intro _ other otherIndexed
      rw [← sameJob, indexed, Option.some_inj] at otherIndexed
      rw [← otherIndexed, evidence, sameJob]
  exact (opened.setJob (.inr rfl) (before.known.move moved)
    (moved.positive before.fence) after).congr rfl rfl rfl fun _ _ stored => stored

/-- One case for each kind of move of the job graph. -/
theorem move {emitted : List LabEvent} (moved : Move digests graph emitted next) :
    Sound digests next none := by
  cases moved with
  | submitted jobId spec maxAttempts now fresh attempts => exact sound.submitted fresh attempts
  | planned now definitions fresh found queued unplanned _ short _ readable =>
    exact sound.planned found queued unplanned short readable
  | jobMoved authorization found move checked => exact sound.jobMoved found move checked
  | shardsMoved keeps moves =>
    refine sound.mapShards_of_unsuccessful keeps ?_
    intro row mem
    rcases moves row mem with same | ⟨mutable, move⟩
    · exact .inl same
    · exact .inr ⟨mutable, move.sound (sound.shards row mem), move.unsuccessful⟩
  | @claimed _ row _ keeps changes mutable claiming =>
    refine sound.mapShards_of_unsuccessful keeps ?_
    intro other mem
    by_cases same : other = row
    · subst same
      rw [changes.changed]
      exact .inr ⟨mutable, claiming.sound (sound.shards other mem), nofun⟩
    · exact .inl (changes.others other mem same)
  | @succeeded change row _ job keeps changes mutable success found running unfinished =>
    have opened := sound.mapShards_of_success keeps changes mutable success
    refine opened.settle ?_
    intro other mem sameId
    have isJob : other = job := by
      have foundOther : graph.jobRow other.jobId = some other := jobRow_of_mem mem
      rw [sameId, found] at foundOther
      exact (Option.some_inj.mp foundOther).symm
    subst isJob
    have result := sound.resultSound found
    have state : other.resultState = .pending :=
      sound.pending_of_mutable mem result (sameId ▸ mutable)
    have before := result.pending state
    refine .of_pending state ⟨before.status, before.unindexed, ?_⟩
    intro _ contracted
    rw [sameId]
    exact unfinished contracted
  | @readied change row _ old job _ keeps changes mutable success sameJob
      found move ready checked =>
      have before := sound.jobSound found
      have opened := sound.mapShards_of_success keeps changes mutable success
      have after : ResultSound (graph.mapShards change keeps) job := by
        refine resultSound_of_checkJobUpdate before.known move checked ?_ ?_
        · intro pending
          rw [ready] at pending
          cases pending
        · intro wasReady _ indexed
          have unindexed := ((sound.resultSound found).ready wasReady).unindexed
          have sameId : old.jobId = job.jobId := (mem_of_jobRow found).2
          rw [sameId] at unindexed
          have absent : (graph.mapShards change keeps).artifactRow job.jobId = none := unindexed
          rw [absent] at indexed
          cases indexed
      exact (opened.setJob (.inr (congrArg some sameJob.symm))
        (before.known.move move) (move.positive before.fence) after).congr
          rfl rfl rfl fun _ _ stored => stored
  | committed fresh => exact sound.congr rfl rfl rfl fun _ _ found => findKey_append_of_some found
  | sealed authorization fresh sameJob evidence isSealed found move checked =>
    exact sound.sealedMove sameJob evidence isSealed found move checked
  | published row => exact sound.congr rfl rfl rfl fun _ _ found => found

end

end Sound

theorem sound_run (digests : LabDigests) (calls : List LabCall) :
    Sound digests (LabSystem.run digests calls).ledger.toJobGraph none := by
  refine LabSystem.resume_keeps (motive := fun graph => Sound digests graph none)
    (fun sound moved => sound.move moved) ?_ calls
  constructor <;>
    simp [LabSystem.initial, Ledger.empty, JobGraph.empty, JobGraph.shardsOf]

/-! ## Reads -/

structure ReadableStore (digests : LabDigests) (graph : JobGraph) : Prop where
  /-- A job is returned as it is stored when the ids of its shards are those of
  their adapters without white space, and only then. -/
  job : ∀ jobId row, graph.jobRow jobId = some row →
    (graph.getJob digests jobId = .ok (some row) ↔
      ∀ shard ∈ graph.shardsOf row.jobId, shard.Canonical digests)
  shards : ∀ jobId, graph.listShards digests jobId =
    .ok (sortOn (fun shard : ShardRow => shard.definition.shardIndex) (graph.shardsOf jobId))
  queued : ∀ shard ∈ graph.shards, shard.status = .queued → shard.attemptCount < shard.maxAttempts
  /-- A running shard carries a full claim. -/
  running : ∀ shard ∈ graph.shards, shard.status = .running → shard.Claimed
  /-- A shard that is over carries none. -/
  terminal : ∀ shard ∈ graph.shards, shard.status.Terminal → shard.Unclaimed
  /-- No heartbeat predates its claim. -/
  heartbeat : ∀ shard ∈ graph.shards, ∀ claimed ∈ shard.claimedAt,
    ∀ heartbeat ∈ shard.heartbeatAt, claimed ≤ heartbeat
  /-- A running job with the complete contract is ready exactly when all of its
  shards have succeeded. -/
  ready : ∀ job ∈ graph.jobs, job.status = .running → job.Contracted →
    (job.resultState = .ready ↔ graph.AllSucceeded job.jobId)

namespace Sound

theorem jobFromRow_eq_ok (sound : Sound digests graph none)
    (mem : job ∈ graph.jobs) : jobFromRow job = .ok job := by
  have row := sound.jobs job mem
  have result := sound.results job mem (by simp)
  unfold jobFromRow requirePositive
  simp only [run_eq_ok, and_true, requireNullablePositive_eq_ok]
  refine ⟨row.known.specHash, row.known.jobType, row.known.resourceClass,
    row.known.deadline, row.known.attempts, row.fence, row.known.contract, ?_, ?_, ?_, ?_⟩
  · intro ready
    exact ⟨(result.ready ready).status, (result.ready ready).contract⟩
  · intro isSealed
    exact ⟨(result.sealed isSealed).status, (result.sealed isSealed).contract⟩
  · intro succeeded
    cases state : job.resultState with
    | pending => exact absurd succeeded (result.pending state).status
    | ready =>
      have running := (result.ready state).status
      rw [succeeded] at running
      cases running
    | sealed => exact .inl rfl
    | legacyUnsealed => exact .inr rfl
  · intro legacy
    exact absurd legacy result.current

theorem validateSealed_eq_ok (isSealed : SealedSound graph job) :
    graph.validateSealed job = .ok () := by
  obtain ⟨-, contract, -, artifact, row, indexed, evidence, committed,
    sameJob, accepted, reason, version, specHash, codeSha, snapshot,
    sameContract, manifest, result, path, shards⟩ := isSealed
  rw [contract, Option.some_inj] at sameContract
  unfold JobGraph.validateSealed
  simp only [run_eq_ok, orRaise_eq_ok]
  exact ⟨artifact, indexed, evidence, row, committed,
    ⟨accepted, reason, version, sameJob, specHash, codeSha, snapshot,
      sameContract, path, manifest, result⟩, shards⟩

theorem validateCompleteResultGraph_eq_ok (sound : Sound digests graph none)
    (mem : job ∈ graph.jobs)
    (canonical : ∀ shard ∈ graph.shardsOf job.jobId, shard.Canonical digests) :
    graph.validateCompleteResultGraph digests job = .ok () := by
  have row := sound.jobs job mem
  have result := sound.results job mem (by simp)
  have shards : ∀ shard ∈ graph.shardsOf job.jobId, sqliteShardRowValid digests shard := by
    intro shard shardMem
    obtain ⟨stored, -⟩ := mem_shardsOf.mp shardMem
    have shardSound := sound.shards shard stored
    exact ⟨(checkShard_eq_ok shardSound.known.protocol).mpr shardSound, canonical shard shardMem⟩
  unfold JobGraph.validateCompleteResultGraph
  rw [require_of shards, ok_bind, if_neg (by simp [row.known.complete])]
  cases state : job.resultState with
  | pending =>
    have pending := result.pending state
    rw [if_pos rfl, require_of (by simp [pending.unindexed]), ok_bind]
    refine require_of ?_
    rintro ⟨running, contracted, finished⟩
    exact pending.unfinished (.inl running) contracted finished
  | ready =>
    have ready := result.ready state
    rw [if_neg (by simp), require_of ready.finished, ok_bind, if_pos rfl]
    exact require_of (by simp [ready.unindexed])
  | sealed =>
    have isSealed := result.sealed state
    rw [if_neg (by simp), require_of isSealed.finished, ok_bind,
      if_neg (by simp), require_of rfl, ok_bind]
    exact validateSealed_eq_ok isSealed
  | legacyUnsealed => exact absurd state result.current

theorem listShards_eq_ok (sound : Sound digests graph none) (jobId : Uuid) :
    graph.listShards digests jobId =
      .ok (sortOn (fun shard : ShardRow => shard.definition.shardIndex)
        (graph.shardsOf jobId)) := by
  have permuted : (sortOn (fun shard : ShardRow => shard.definition.shardIndex)
      (graph.shardsOf jobId)).Perm (graph.shardsOf jobId) :=
    perm_sortOn _
  unfold JobGraph.listShards
  simp only
  rw [require_of (permuted.length_eq.trans_le (sound.short jobId)), ok_bind]
  have read : ∀ shard ∈ sortOn (fun shard : ShardRow => shard.definition.shardIndex)
      (graph.shardsOf jobId), shardFromRow digests shard = .ok shard := by
    intro shard mem
    rw [mem_sortOn] at mem
    obtain ⟨stored, -⟩ := mem_shardsOf.mp mem
    exact shardFromRow_eq_ok.mpr (sound.shards shard stored)
  rw [mapM_eq_ok read, map_id']

end Sound

/-- In every run a job can be read when the adapters of its shards have no white
space around them, and only then; its shards can always be read. -/
theorem store_stays_readable (digests : LabDigests) (calls : List LabCall) :
    ReadableStore digests (LabSystem.run digests calls).ledger.toJobGraph := by
  have sound := sound_run digests calls
  constructor
  · intro jobId row found
    have member := (mem_of_jobRow found).1
    simp only [JobGraph.getJob, found, sound.jobFromRow_eq_ok member, ok_bind, guard_bind_eq_ok,
      pure_eq_ok, and_true]
    constructor
    · intro validated shard mem
      simp only [JobGraph.validateCompleteResultGraph, guard_bind_eq_ok, require_eq_ok]
        at validated
      exact (validated.1 shard mem).2
    · exact sound.validateCompleteResultGraph_eq_ok member
  · exact sound.listShards_eq_ok
  · exact fun shard member => (sound.shards shard member).held.queued
  · exact fun shard member => (sound.shards shard member).held.running
  · exact fun shard member => (sound.shards shard member).held.terminal
  · exact fun shard member => (sound.shards shard member).held.heartbeat
  · intro job member running contracted
    have result := sound.results job member (by simp)
    constructor
    · exact fun ready => (result.ready ready).finished
    · intro finished
      cases state : job.resultState with
      | pending =>
        exact absurd finished ((result.pending state).unfinished (.inl running) contracted)
      | ready => rfl
      | sealed =>
        have succeeded := (result.sealed state).status
        rw [running] at succeeded
        cases succeeded
      | legacyUnsealed => exact absurd state result.current

/-- The id of a shard is the length of its adapter. -/
def lengthDigests : LabDigests :=
  { blankDigests with shardId := fun _ adapterId _ _ _ _ => .ofNat _ adapterId.length }

/-- A plan whose adapter ends with a separator is stored, and its shards are
listed; its job cannot be read. -/
theorem planned_job_unreadable :
    let graph := (LabSystem.run lengthDigests (plannedCalls 8 "adapter\x1c")).ledger.toJobGraph
    (graph.listShards lengthDigests 5).map List.length = .ok 1 ∧
      graph.getJob lengthDigests 5 =
        .error (.invalidStored "job contains an invalid stored lab shard") := by
  decide +kernel

end RQuant.Lab
