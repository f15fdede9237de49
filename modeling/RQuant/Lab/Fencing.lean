import RQuant.Lab.Transactions

/-!
# Lab jobs: fencing

Leases are numbered in the order in which they are acquired, and only the last
of them may be unreleased.  A call under any other lease, or under one that has
expired, is refused.
-/

namespace RQuant.Lab

open Foundation Ledger
open List hiding after next count minimum

/-- The table of leases: numbers and fencing tokens count up from one, and a
lease that is not released is the last one. -/
structure Fenced (leases : List LabLeaseRecord) : Prop where
  numbered : leases.map LabLeaseRecord.leaseId = range' 1 leases.length
  fences : leases.map LabLeaseRecord.fencingToken = range' 1 leases.length
  named : ∀ row ∈ leases, row.leaseName = leaseName
  last : ∀ row ∈ leases, row.releasedAt = none → row.fencingToken = leases.length

theorem foldl_max_range' (count : ℕ) : (range' 1 count).foldl max 0 = count := by
  induction count with
  | zero => rfl
  | succ count ih =>
    rw [range'_1_concat, foldl_append, ih]
    simp only [foldl_cons, foldl_nil]
    omega

variable {digests : LabDigests} {ledger : Ledger} {lease : LabLeaseRecord} {now : Time}
  {call : LabCall}

variable {new old : List LabLeaseRecord} {row : LabLeaseRecord}

theorem exists_of_forall₂ (kept : List.Forall₂ LeaseKept old new) (mem : row ∈ new) :
    ∃ earlier ∈ old, LeaseKept earlier row := by
  induction kept with
  | nil => cases mem
  | cons head _ ih =>
    rcases mem_cons.mp mem with rfl | later
    · exact ⟨_, mem_cons_self, head⟩
    · obtain ⟨earlier, earlierMem, same⟩ := ih later
      exact ⟨earlier, mem_cons_of_mem _ earlierMem, same⟩

namespace Fenced

section

variable (fenced : Fenced old)

include fenced

theorem kept (kept : List.Forall₂ LeaseKept old new) : Fenced new := by
  have length : new.length = old.length := kept.length_eq.symm
  constructor
  · rw [map_of_forall₂ (fun _ _ row => row.leaseId) kept, length]
    exact fenced.numbered
  · rw [map_of_forall₂ (fun _ _ row => row.fencingToken) kept, length]
    exact fenced.fences
  · intro row mem
    obtain ⟨earlier, earlierMem, same⟩ := exists_of_forall₂ kept mem
    rw [same.leaseName]
    exact fenced.named earlier earlierMem
  · intro row mem unreleased
    obtain ⟨earlier, earlierMem, same⟩ := exists_of_forall₂ kept mem
    rw [same.fencingToken, length]
    exact fenced.last earlier earlierMem (same.released unreleased)

theorem acquired (acquired : LeaseAcquired old lease) : Fenced (old ++ [lease]) := by
  have fence : lease.fencingToken = old.length + 1 := by
    rw [acquired.fence, fenced.fences, foldl_max_range']
  constructor
  · rw [map_append, length_append, length_singleton,
      range'_1_concat, fenced.numbered, map_singleton, acquired.leaseId, Nat.add_comm 1]
  · rw [map_append, length_append, length_singleton,
      range'_1_concat, fenced.fences, map_singleton, fence, Nat.add_comm 1]
  · refine forall_mem_concat.mpr ⟨fenced.named, ?_⟩
    exact acquired.named
  · intro row mem unreleased
    rcases mem_append.mp mem with earlier | isLast
    · exact absurd unreleased (acquired.alone row earlier (fenced.named row earlier))
    · rw [mem_singleton.mp isLast, fence]
      simp

theorem move (moved : LeaseMove old new) : Fenced new := by
  obtain ⟨_, _, rfl, kept, rfl | ⟨_, rfl, acquired⟩⟩ := moved
  · rw [append_nil]
    exact fenced.kept kept
  · exact (fenced.kept kept).acquired acquired

theorem increasing : (old.map LabLeaseRecord.fencingToken).Pairwise (· < ·) := by
  rw [fenced.fences]
  exact pairwise_lt_range'

theorem fencingToken_le (mem : row ∈ old) : row.fencingToken ≤ old.length := by
  have inRange : row.fencingToken ∈ old.map LabLeaseRecord.fencingToken := mem_map_of_mem mem
  rw [fenced.fences, mem_range'_1] at inRange
  omega

end

end Fenced

theorem LeaseMove.prefix_fences (moved : LeaseMove old new) :
    old.map LabLeaseRecord.fencingToken <+: new.map LabLeaseRecord.fencingToken := by
  obtain ⟨_, _, rfl, kept, -⟩ := moved
  rw [map_append, map_of_forall₂ (fun _ _ row => row.fencingToken) kept]
  exact prefix_append _ _

theorem fenced_run (digests : LabDigests) (calls : List LabCall) :
    Fenced (LabSystem.run digests calls).ledger.leases := by
  refine LabSystem.resume_invariant
    (motive := fun system => Fenced system.ledger.leases) ?_ ?_ calls
  · constructor <;> simp [LabSystem.initial, Ledger.empty]
  · intro system _ _ _ fenced executed
    obtain ⟨_, effect⟩ := callMoves_of_execute executed
    exact fenced.move effect.leases

namespace Ledger

variable {ledger : Ledger}

/-- A lease that is neither superseded nor released nor expired: its row
carries its token and fence, and no lease is newer. -/
structure Current (ledger : Ledger) (lease : LabLeaseRecord) (now : Time) : Prop where
  stored : ∃ row ∈ ledger.leases, row.leaseId = lease.leaseId ∧
    row.token = lease.token ∧ row.fencingToken = lease.fencingToken ∧
    row.releasedAt = none ∧ now < row.expiresAt
  newest : ∀ row ∈ ledger.leases, row.fencingToken ≤ lease.fencingToken

theorem current_of_validateLease (fenced : Fenced ledger.leases)
    (valid : ledger.validateLease lease now = .ok ()) :
    ledger.Current lease now := by
  have holds := (holds_of_validateLease valid).stored
  refine ⟨holds, ?_⟩
  obtain ⟨row, mem, -, -, sameFence, unreleased, -⟩ := holds
  intro _ otherMem
  rw [← sameFence, fenced.last row mem unreleased]
  exact fenced.fencingToken_le otherMem

end Ledger

def LabCall.presented : LabCall → List (LabLeaseRecord × Time)
  | .acquireSchedulerLease _ _ _ _ => []
  | .renewSchedulerLease lease _ now => [(lease, now)]
  | .releaseSchedulerLease lease now => [(lease, now)]
  | .applyCommand _ lease now _ => [(lease, now)]
  | .planJob _ _ lease now => [(lease, now)]
  | .failUnplannedJob _ _ lease now => [(lease, now)]
  | .expireDeadlineJobs lease now => [(lease, now)]
  | .recoverStaleShards lease now => [(lease, now)]
  | .recoverExpiredJobs lease now => [(lease, now)]
  | .claimNextShard _ lease now => [(lease, now)]
  | .applyWorkerReport _ _ lease now => [(lease, now)]
  | .transitionJob _ _ _ lease _ now _ => [(lease, now)]
  | .confirmCancelledJob _ _ lease _ now => [(lease, now)]
  | .createHeldClaimPublication _ lease now => [(lease, now)]
  | .stageArtifactCommit _ _ _ lease now finalNow => [(lease, now), (lease, finalNow)]

theorem Ledger.leases_of_applyArtifactCommit
    (applied : ledger.applyArtifactCommit digests envelope binding lease now authentic =
      .ok (receipt, staged)) :
    staged.leases = ledger.leases := by
  rcases applyArtifactCommit_eq_ok applied with rfl | ⟨_, -, rfl⟩ <;> rfl

theorem validated_of_execute (executed : call.execute digests ledger = .ok (claims, next))
    (presented : (lease, now) ∈ call.presented) :
    ledger.validateLease lease now = .ok () := by
  cases call
  case claimNextShard =>
    cases mem_singleton.mp presented
    unfold LabCall.execute Ledger.claimNextShard at executed
    simp only [bind_eq_ok, require_eq_ok, exists_unit] at executed
    obtain ⟨answer, ⟨-, -, -, valid, -⟩, -⟩ := executed
    exact valid
  all_goals
    unfold LabCall.execute withoutClaim at executed
    simp only [bind_eq_ok, pure_eq_ok, Prod.exists, Prod.mk.injEq] at executed
    obtain ⟨answer, _, done, -, -⟩ := executed
  case acquireSchedulerLease => cases presented
  case stageArtifactCommit =>
    unfold Ledger.stageArtifactCommit at done
    simp only [bind_eq_ok, require_eq_ok, exists_unit, Prod.exists] at done
    obtain ⟨-, valid, _, _, applied, stillValid, -⟩ := done
    rcases mem_cons.mp presented with first | second
    · cases first
      exact valid
    · cases mem_singleton.mp second
      unfold Ledger.validateLease Ledger.activeLease Ledger.unreleased at stillValid ⊢
      rwa [leases_of_applyArtifactCommit applied] at stillValid
  all_goals cases mem_singleton.mp presented
  case renewSchedulerLease | applyCommand | failUnplannedJob | applyWorkerReport =>
    exact (guard_bind_eq_ok.mp (guard_bind_eq_ok.mp done).2).1
  case releaseSchedulerLease | expireDeadlineJobs | recoverStaleShards | recoverExpiredJobs |
      transitionJob | confirmCancelledJob | createHeldClaimPublication =>
    exact (guard_bind_eq_ok.mp done).1
  case planJob =>
    unfold Ledger.planJob at done
    simp only [bind_eq_ok, exists_unit] at done
    obtain ⟨_, -, valid, -⟩ := done
    exact valid

/-- One lease at most is valid, whatever the clocks of the schedulers show. -/
theorem one_scheduler (digests : LabDigests) (calls : List LabCall) :
    Set.Subsingleton {holder | ∃ lease now,
      (LabSystem.run digests calls).ledger.validateLease lease now = .ok () ∧
        holder = (lease.leaseId, lease.token, lease.fencingToken)} := by
  rintro _ ⟨lease, now, valid, rfl⟩ _ ⟨other, later, otherValid, rfl⟩
  have fenced := fenced_run digests calls
  have unique : ((LabSystem.run digests calls).ledger.leases.map
      LabLeaseRecord.fencingToken).Nodup := fenced.fences ▸ nodup_range'
  obtain ⟨row, mem, sameId, sameToken, sameFence, unreleased, -⟩ :=
    (holds_of_validateLease valid).stored
  obtain ⟨otherRow, otherMem, otherId, otherToken, otherFence, otherUnreleased, -⟩ :=
    (holds_of_validateLease otherValid).stored
  -- both rows are unreleased, so both carry the last fence
  obtain rfl : row = otherRow := eq_of_key_eq unique mem otherMem
    ((fenced.last row mem unreleased).trans (fenced.last otherRow otherMem otherUnreleased).symm)
  rw [← sameId, ← sameToken, ← sameFence, otherId, otherToken, otherFence]

end RQuant.Lab
