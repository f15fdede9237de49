import RQuant.Lab.Moves

/-!
# Lab jobs: the audit of a shard

The checks that a reader makes on a shard row, in three groups: who the shard
is, who holds it, and what became of it.  Every move of a shard keeps them.
-/

namespace RQuant.Lab

open Foundation

theorem requireNullablePositive_eq_ok :
    requireNullablePositive field value = .ok () ↔ ∀ number ∈ value, 1 ≤ number := by
  cases value with
  | none => simp [requireNullablePositive]
  | some number => simp [requireNullablePositive, requirePositive, require_eq_ok]

structure ShardKnown (digests : LabDigests) (row : ShardRow) : Prop where
  protocol : row.definition.payload.protocol = row.payloadProtocolVersion
  attempts : 1 ≤ row.maxAttempts
  identifier : row.definition.shardId ≠ 0
  legacy : row.Legacy → row.LegacyIdentity
  definition : ¬ row.Legacy → digests.ValidDefinition row.definition

/-- The checks of who holds a shard. -/
structure ShardHeld (row : ShardRow) : Prop where
  fence : ∀ fence ∈ row.schedulerFencingToken, 1 ≤ fence
  running : row.status = .running → row.Claimed
  queued : row.status = .queued → row.attemptCount < row.maxAttempts
  heartbeat : ∀ claimed ∈ row.claimedAt, ∀ heartbeat ∈ row.heartbeatAt, claimed ≤ heartbeat
  lease : ∀ claimed ∈ row.claimedAt, ∀ expires ∈ row.leaseExpiresAt, claimed < expires
  terminal : row.status.Terminal → row.Unclaimed

/-- The checks of what became of a shard. -/
structure ShardOutcome (digests : LabDigests) (row : ShardRow) : Prop where
  sequence : ∀ number ∈ row.completionSequence, 1 ≤ number
  whole : row.TelemetryWhole
  measured : ∀ duration ∈ row.durationMs, ∃ plan ∈ row.definition.workPlan,
    ∃ throughput ∈ row.throughputUnitsPerSecond,
      digests.telemetryMatches ⟨plan, duration, throughput⟩ = true
  telemetry : row.durationMs.isSome = true → row.status = .succeeded
  planned :
    row.status = .succeeded ∧ row.definition.workPlan.isSome = true → row.durationMs.isSome = true
  succeeded : row.status = .succeeded →
    row.finishedAt.isSome = true ∧ (row.Legacy ∨ row.resultManifestHash.isSome = true)
  failed : row.status = .failed →
    row.finishedAt.isSome = true ∧ (row.Legacy ∨ row.failureJson.isSome = true)
  cancelled : row.status = .cancelled → row.finishedAt.isSome = true

structure ShardSound (digests : LabDigests) (row : ShardRow) : Prop where
  known : ShardKnown digests row
  held : ShardHeld row
  outcome : ShardOutcome digests row

variable {row : ShardRow}

variable {digests : LabDigests} {new old : ShardRow}

theorem checkShard_eq_ok (protocol : row.definition.payload.protocol = row.payloadProtocolVersion) :
    checkShard digests row = .ok () ↔ ShardSound digests row := by
  unfold checkShard requirePositive
  simp only [run_eq_ok, requireNullablePositive_eq_ok]
  constructor
  · rintro ⟨attempts, fence, sequence, identifier, legacy, definition, whole,
      measured, telemetry, planned, running, queued, heartbeat, lease,
      succeeded, failed, cancelled, terminal⟩
    exact
      { known := ⟨protocol, attempts, identifier, legacy, definition⟩
        held := ⟨fence, running, queued, heartbeat, lease, terminal⟩
        outcome := ⟨sequence, whole, measured, telemetry, planned, succeeded, failed, cancelled⟩ }
  · rintro ⟨⟨-, attempts, identifier, legacy, definition⟩,
      ⟨fence, running, queued, heartbeat, lease, terminal⟩,
      ⟨sequence, whole, measured, telemetry, planned, succeeded, failed, cancelled⟩⟩
    exact ⟨attempts, fence, sequence, identifier, legacy, definition, whole,
      measured, telemetry, planned, running, queued, heartbeat, lease,
      succeeded, failed, cancelled, terminal⟩

theorem shardFromRow_eq_ok : shardFromRow digests row = .ok row ↔ ShardSound digests row := by
  unfold shardFromRow
  simp only [run_eq_ok, and_true]
  constructor
  · rintro ⟨protocol, checked⟩
    exact (checkShard_eq_ok protocol).mp checked
  · intro sound
    exact ⟨sound.known.protocol, (checkShard_eq_ok sound.known.protocol).mpr sound⟩

def ShardRow.origin (row : ShardRow) : LabShardDefinition × PayloadProtocol × ℕ :=
  (row.definition, row.payloadProtocolVersion, row.maxAttempts)

theorem ShardKnown.of_origin (known : ShardKnown digests old) (same : new.origin = old.origin) :
    ShardKnown digests new := by
  have definition : new.definition = old.definition := congrArg Prod.fst same
  have protocol : new.payloadProtocolVersion = old.payloadProtocolVersion :=
    congrArg (fun origin => origin.2.1) same
  have attempts : new.maxAttempts = old.maxAttempts := congrArg (fun origin => origin.2.2) same
  constructor
  · rw [definition, protocol]
    exact known.protocol
  · rw [attempts]
    exact known.attempts
  · rw [definition]
    exact known.identifier
  · unfold ShardRow.Legacy ShardRow.LegacyIdentity
    rw [definition]
    exact known.legacy
  · unfold ShardRow.Legacy
    rw [definition]
    exact known.definition

theorem shardHeld_unclaimed (status : row.status ≠ .running)
    (queued : row.status = .queued → row.attemptCount < row.maxAttempts)
    (worker : row.workerId = none)
    (fence : row.schedulerFencingToken = none)
    (token : row.claimToken = none) (claimed : row.claimedAt = none)
    (heartbeat : row.heartbeatAt = none)
    (lease : row.leaseExpiresAt = none) : ShardHeld row where
  fence := by simp [fence]
  running := fun running => absurd running status
  queued := queued
  heartbeat := by simp [claimed]
  lease := by simp [claimed]
  terminal := fun _ => ⟨by simp [ShardRow.worker, worker], fence, token, claimed, heartbeat, lease⟩

/-- A shard that has not succeeded has no telemetry. -/
structure Unmeasured (row : ShardRow) : Prop where
  duration : row.durationMs = none
  throughput : row.throughputUnitsPerSecond = none
  sequence : row.completionSequence = none

theorem ShardOutcome.unmeasured
    (outcome : ShardOutcome digests row) (status : row.status ≠ .succeeded) :
    Unmeasured row := by
  have duration : row.durationMs = none := by
    by_contra some
    exact status (outcome.telemetry (Option.isSome_iff_ne_none.mpr some))
  obtain ⟨throughput, sequence⟩ := outcome.whole
  rw [duration] at throughput sequence
  exact ⟨duration, by simpa using throughput.symm, by simpa using sequence.symm⟩

theorem Unmeasured.outcome (unmeasured : Unmeasured row) (status : row.status ≠ .succeeded)
    (failed : row.status = .failed →
      row.finishedAt.isSome = true ∧ (row.Legacy ∨ row.failureJson.isSome = true))
    (cancelled : row.status = .cancelled → row.finishedAt.isSome = true) :
    ShardOutcome digests row where
  sequence := by simp [unmeasured.sequence]
  whole := by
    simp [ShardRow.TelemetryWhole, unmeasured.duration, unmeasured.throughput, unmeasured.sequence]
  measured := by simp [unmeasured.duration]
  telemetry := by simp [unmeasured.duration]
  planned := fun both => absurd both.1 status
  succeeded := fun succeeded => absurd succeeded status
  failed := failed
  cancelled := cancelled

theorem not_succeeded_of_open
    {status : ShardStatus} (isOpen : status.Open) : status ≠ .succeeded := by
  rintro rfl
  simp [ShardStatus.Open] at isOpen

theorem ShardMove.unsuccessful (moved : ShardMove old new) : new.status ≠ .succeeded := by
  cases moved with
  | failed | cancelled | stopped | requeued | retried => exact nofun
  | heartbeat expiresAt now status =>
    intro succeeded
    have same : old.status = .succeeded := succeeded
    rw [status] at same
    cases same

/-- One case for each transition of a shard. -/
theorem ShardMove.sound (moved : ShardMove old new)
    (sound : ShardSound digests old) : ShardSound digests new := by
  refine ⟨sound.known.of_origin (by cases moved <;> rfl), ?_, ?_⟩
  · cases moved with
    | failed failure now _ | cancelled now _ | stopped now _ =>
      exact shardHeld_unclaimed nofun nofun rfl rfl rfl rfl rfl rfl
    | requeued now _ attempts | retried now _ attempts =>
      exact shardHeld_unclaimed nofun (fun _ => attempts) rfl rfl rfl rfl rfl rfl
    | heartbeat expiresAt now status claimed extended =>
      obtain ⟨worker, fence, token, claimedAt, -, -⟩ := sound.held.running status
      obtain ⟨before, isBefore, later⟩ := extended
      exact
        { fence := sound.held.fence
          running := fun _ => ⟨worker, fence, token, claimedAt, rfl, rfl⟩
          queued := sound.held.queued
          heartbeat := by
            rintro time isClaimed _ ⟨⟩
            exact claimed time isClaimed
          lease := by
            rintro time isClaimed _ ⟨⟩
            exact (sound.held.lease time isClaimed before isBefore).trans_le later
          terminal := by
            intro terminal
            have running : old.status = .running := status
            unfold ShardStatus.Terminal ShardRow.heartbeat at terminal
            simp [running] at terminal }
  · cases moved with
    | failed failure now isOpen =>
      have unmeasured := sound.outcome.unmeasured (not_succeeded_of_open isOpen)
      refine Unmeasured.outcome { unmeasured with } nofun ?_ nofun
      exact fun _ => ⟨rfl, .inr rfl⟩
    | cancelled now isOpen =>
      have unmeasured := sound.outcome.unmeasured (not_succeeded_of_open isOpen)
      exact Unmeasured.outcome { unmeasured with } nofun nofun (fun _ => rfl)
    | stopped now status =>
      exact Unmeasured.outcome ⟨rfl, rfl, rfl⟩ nofun nofun (fun _ => rfl)
    | requeued now status attempts =>
      have unmeasured := sound.outcome.unmeasured (by simp [status])
      exact Unmeasured.outcome { unmeasured with } nofun nofun nofun
    | retried now status attempts =>
      have unmeasured := sound.outcome.unmeasured status
      exact Unmeasured.outcome { unmeasured with } nofun nofun nofun
    | heartbeat expiresAt now status =>
      exact { sound.outcome with }

theorem ClaimMove.sound (claiming : ClaimMove row claim) (sound : ShardSound digests row) :
    ShardSound digests (row.claimed claim (row.attemptCount + 1)) := by
  have status : row.status ≠ .succeeded := by
    rcases claiming.waiting with waiting | waiting <;> simp [waiting]
  refine ⟨sound.known.of_origin rfl, ?_, ?_⟩
  · exact
      { fence := by
          rintro _ ⟨⟩
          exact claiming.fence
        running := fun _ => by
          refine ⟨?_, rfl, rfl, rfl, rfl, rfl⟩
          simp [ShardRow.worker, ShardRow.claimed, claiming.worker]
        queued := nofun
        heartbeat := by
          rintro _ ⟨⟩ _ ⟨⟩
          exact le_rfl
        lease := by
          rintro _ ⟨⟩ _ ⟨⟩
          exact claiming.lease
        terminal := by
          rintro (terminal | terminal | terminal) <;> cases terminal }
  · have unmeasured := sound.outcome.unmeasured status
    exact Unmeasured.outcome { unmeasured with } nofun nofun nofun

theorem SuccessMove.sound (success : SuccessMove digests row new) (sound : ShardSound digests row) :
    ShardSound digests new := by
  obtain ⟨_, telemetry, sequence, _, rfl, planned, matching,
    sequenced, positive⟩ := success.succeeds
  refine ⟨sound.known.of_origin rfl, ?_, ?_⟩
  · exact shardHeld_unclaimed nofun nofun rfl rfl rfl rfl rfl rfl
  · exact
      { sequence := positive
        whole := by
          refine ⟨?_, ?_⟩
          · simp [ShardRow.terminalized]
          · simp [ShardRow.terminalized, sequenced]
        measured := by
          intro _ isDuration
          obtain ⟨reported, isReported, rfl⟩ := Option.map_eq_some_iff.mp isDuration
          refine ⟨reported.workPlan, ?_, reported.throughputUnitsPerSecond,
            ?_, matching reported isReported⟩
          · change row.definition.workPlan = some reported.workPlan
            rw [← planned, isReported]
            rfl
          · change telemetry.map _ = some _
            rw [isReported]
            rfl
        telemetry := fun _ => rfl
        planned := by
          rintro ⟨-, hasPlan⟩
          have isPlanned : row.definition.workPlan.isSome = true := hasPlan
          rw [← planned, Option.isSome_map] at isPlanned
          change (telemetry.map _).isSome = true
          rw [Option.isSome_map]
          exact isPlanned
        succeeded := fun _ => ⟨rfl, .inr rfl⟩
        failed := nofun
        cancelled := nofun }

end RQuant.Lab
