import RQuant.Authority.Moves
import RQuant.Foundation.Runs

/-!
# Parent quota authority: commits and runs

A call of the authority leaves the database as it was or commits one new
operation.  `Commit` carries what a commit has checked and what it leaves.
-/

namespace RQuant.Authority

open Foundation Quota

theorem Request.payload_parentId (request : Request) :
    request.payload.parentId = request.parentId := by
  cases request <;> rfl

structure Commit (authority : ParentAuthority) (before : Database)
    (operationId : String) (request : Request) (now : Time) where
  applied : Database
  parent : ParentSnapshot
  call : Option CallAllocation
  global : GlobalCheckpointRow
  parentCheckpoint : Option ParentCheckpointRow
  document : OperationPayload
  validated : OperationReceipt
  external : Option ExternalStateRow
  anchored : authority.validateGlobalCheckpoint before = .ok global
  parentAnchored : authority.validateParentCheckpoint before request.parentId none false
    false = .ok parentCheckpoint
  outcome : BodyOutcome request now before applied parent call
  shaped : validateOperationResultShape request.kind parent call = .ok ()
  evident : applied.validateImmutableResultEvidence request.kind parent call = .ok ()
  documented : operationPayload request.kind parent call = .ok document
  received : (authority.signReceipt
    (authority.unsignedReceipt operationId request.effectKey request.kind
      document parent call)).validated = .ok validated
  inserted : ∃ journaled, ParentAuthority.insertJournal applied
    (authority.journalRow
      (authority.signReceipt
        (authority.unsignedReceipt operationId request.effectKey request.kind document parent call))
      (authority.digests.requestHash request.kind request.payload) parent
      call parentCheckpoint global) = .ok journaled

namespace Commit

variable {authority : ParentAuthority} {before : Database}
  {operationId : String} {request : Request} {now : Time}
  (commit : Commit authority before operationId request now)

def receipt : OperationReceipt :=
  authority.signReceipt
    (authority.unsignedReceipt operationId request.effectKey request.kind
      commit.document commit.parent commit.call)

def row : JournalRow :=
  authority.journalRow commit.receipt (authority.digests.requestHash request.kind request.payload)
    commit.parent commit.call commit.parentCheckpoint commit.global

def parentMark : ParentCheckpointRow where
  parentId := commit.parent.parentId
  operationCount := commit.row.parentOrdinal
  headOperationHash := commit.row.operationHash
  materializedStateHash := authority.digests.materializedHash commit.parent
  clockHighWater := commit.parent.clockHighWater
  keyId := authority.keyId
  signature := authority.signer.sign
    (.parentCheckpoint authority.authorityId commit.parent.parentId
      commit.row.parentOrdinal commit.row.operationHash
      (authority.digests.materializedHash commit.parent)
      commit.parent.clockHighWater authority.keyId)

def globalMark : GlobalCheckpointRow where
  journalCount := commit.row.globalOrdinal
  mutationCounter := commit.global.mutationCounter + 1
  globalHeadHash := commit.row.operationHash
  clockHighWater := some (ParentAuthority.nextClock commit.global commit.parent)
  keyId := authority.keyId
  signature := authority.signer.sign
    (.globalCheckpoint authority.authorityId commit.row.globalOrdinal
      (commit.global.mutationCounter + 1) commit.row.operationHash
      (some (ParentAuthority.nextClock commit.global commit.parent))
      authority.keyId)

def after : Database where
  quota := commit.applied.quota
  parents := commit.applied.parents
  calls := commit.applied.calls
  journal := before.journal ++ [commit.row]
  parentCheckpoints :=
    upsertKey ParentCheckpointRow.parentId commit.parentMark before.parentCheckpoints
  globalCheckpoint := some commit.globalMark
  external := commit.external

def result : AuthorityResult where
  receipt := commit.validated
  parent := commit.parent
  call := commit.call

theorem clock_before : before.clock = commit.global.clockHighWater :=
  (ParentAuthority.clock_of_validateGlobalCheckpoint commit.anchored).2

theorem clock_le (shown : trusted ∈ before.clock) :
    trusted ≤ ParentAuthority.nextClock commit.global commit.parent := by
  rw [commit.clock_before, Option.mem_def] at shown
  unfold ParentAuthority.nextClock
  rw [shown]
  exact le_max_left _ _

theorem parentClock_le :
    commit.parent.clockHighWater ≤ ParentAuthority.nextClock commit.global commit.parent := by
  unfold ParentAuthority.nextClock
  cases commit.global.clockHighWater with
  | none => exact le_rfl
  | some trusted => exact le_max_right _ _

end Commit

variable {db : Database} {nonce : Digest}

namespace ParentAuthority

variable {authority : ParentAuthority} {before : Database}

theorem stage_eq_ok (done : authority.stage db operationId nonce acknowledged = .ok staged) :
    ∃ external, staged = { db with external } := by
  unfold stage at done
  split at done
  · unfold stageExternalAdvance at done
    simp only [run_eq_ok, orRaise_eq_ok] at done
    obtain ⟨-, -, _, -, -, rfl⟩ := done
    exact ⟨_, rfl⟩
  · cases done
    exact ⟨_, rfl⟩

theorem commit_eq_ok (checked : request.Checked)
    (committed : authority.commit before operationId request.effectKey request.kind
      request.payload nonce (fun db => request.body authority now db) = .ok (after, result)) :
    ∃ commit : Commit authority before operationId request now,
      after = commit.after ∧ result = commit.result := by
  unfold ParentAuthority.commit at committed
  simp only [bind_eq_ok] at committed
  obtain ⟨global, anchored, _, -, parentCheckpoint,
    parentAnchored, ⟨applied, parent, call⟩, executed, committed⟩ := committed
  simp only [pair_eq_ok, writeParentCheckpoint, writeGlobalCheckpoint] at committed
  obtain ⟨shaped, evident, document, documented, -, -, -, validated, received,
    -, journaled, inserted, _, ⟨-, rfl⟩, _, ⟨-, rfl⟩, _, stagedOk, rfl, rfl⟩ := committed
  obtain ⟨external, rfl⟩ := stage_eq_ok stagedOk
  have outcome := Request.outcome_of_body checked executed
  rw [Request.payload_parentId] at parentAnchored
  refine ⟨⟨applied, parent, call, global, parentCheckpoint, document,
    validated, external, anchored, parentAnchored, outcome, shaped, evident,
    documented, received, ⟨journaled, inserted⟩⟩, ?_, rfl⟩
  unfold insertJournal at inserted
  simp only [run_eq_ok] at inserted
  obtain ⟨-, rfl⟩ := inserted
  obtain ⟨journal, checkpoints⟩ := outcome.move.history_eq
  simp only [Commit.after, ← journal, ← checkpoints]
  rfl

theorem perform_cases (authority : ParentAuthority) (before : Database)
    (operationId : String) (request : Request) (now : Time) (nonce : Digest) :
    (authority.perform before operationId request now nonce).2 = before ∨
      ∃ checked, request.normalized = .ok checked ∧
        ∃ commit : Commit authority before (strip operationId) checked now,
          authority.perform before operationId request now nonce =
            (.ok commit.result, commit.after) := by
  unfold perform
  cases normalizedAs : request.normalized with
  | error raised => exact .inl rfl
  | ok checked =>
    simp only [ok_bind]
    cases operated : authority.operate before operationId checked.effectKey checked.kind
        checked.payload nonce fun db => checked.body authority now db with
    | error raised => exact .inl rfl
    | ok done =>
      obtain ⟨after, result⟩ := done
      unfold operate at operated
      simp only [bind_eq_ok, requireNonempty_eq_ok] at operated
      obtain ⟨_, ⟨-, rfl⟩, operated⟩ := operated
      split at operated
      · simp only [pair_eq_ok] at operated
        obtain ⟨_, -, -, -, rfl, -⟩ := operated
        exact .inl rfl
      · split at operated
        · simp only [bind_eq_ok] at operated
          obtain ⟨_, -, raised⟩ := operated
          cases raised
        · have sound := Request.checked_of_normalized normalizedAs
          obtain ⟨commit, rfl, rfl⟩ := commit_eq_ok sound operated
          exact .inr ⟨checked, rfl, commit, rfl⟩

/-- The databases that runs of allowed calls reach from a new file. -/
def Run (authority : ParentAuthority)
    (allowed : Database → AuthorityCall → Prop) (db : Database) : Prop :=
  ∃ start, authority.created = .ok start ∧
    Reaches (fun source call target => authority.apply source call = target) allowed start db

/-- A new file is empty but for the checkpoint of its empty journal. -/
theorem created_eq_ok (created : authority.created = .ok start) : ∃ signature,
    start =
      { quota := QuotaLedger.initial, parents := [], calls := [], journal := [],
        parentCheckpoints := [],
        globalCheckpoint := some ⟨0, 0, journalZeroHash, none, authority.keyId, signature⟩,
        external := none } ∧
    authority.signer.verify
      (.globalCheckpoint authority.authorityId 0 0 journalZeroHash none
        authority.keyId) signature = true := by
  unfold ParentAuthority.created writeGlobalCheckpoint at created
  simp only [run_eq_ok] at created
  obtain ⟨verified, rfl⟩ := created
  exact ⟨_, rfl, verified⟩

/-- An invariant of the runs: it holds of a new file, and windows, commits and
synchronisations keep it. -/
theorem Run.invariant (motive : Database → Prop) (run : authority.Run allowed db)
    (initially : ∀ {start}, authority.created = .ok start → motive start)
    (declared : ∀ {before : Database} {window : WindowRow}, motive before →
      window.key ∉ before.quota.windows.map WindowRow.key →
      1 ≤ window.totalUnits →
      motive { before with
        quota := { before.quota with
          windows := before.quota.windows ++ [window] } })
    (committed : ∀ {before operationId request now nonce}, motive before →
      allowed before (.perform operationId request now nonce) →
      ∀ {checked}, request.normalized = .ok checked →
      ∀ commit : Commit authority before (strip operationId) checked now, motive commit.after)
    (synchronized :
      ∀ {before : Database} {external}, motive before → motive { before with external }) :
    motive db := by
  obtain ⟨start, created, reached⟩ := run
  refine reached.invariant (initially created) ?_
  rintro before call _ holds permitted rfl
  cases call with
  | declareWindow source windowId startsAt resetsAt totalUnits =>
    unfold ParentAuthority.apply
    rcases before.quota.declareWindow_cases source windowId startsAt
        resetsAt totalUnits with same | ⟨window, fresh, positive, stored⟩
    · simpa only [same] using holds
    · simpa only [stored] using declared holds fresh positive
  | perform operationId request now nonce =>
    have done := authority.perform_cases before operationId request now nonce
    unfold ParentAuthority.apply
    rcases done with same | ⟨checked, normalizedAs, commit, answered⟩
    · simpa only [same] using holds
    · simpa only [answered] using committed holds permitted normalizedAs commit
  | synchronize external => exact synchronized holds

end ParentAuthority

end RQuant.Authority
