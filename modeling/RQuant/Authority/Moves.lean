import RQuant.Authority.Operations
import RQuant.Quota.Moves

/-!
# Parent quota authority: moves

What an accepted operation does to the tables.  The body of an operation makes
one of five moves, at a time not before the clock of the authority; the commit
around it appends one journal row and replaces two checkpoints.
-/

namespace RQuant.Authority

open Foundation Quota Database ParentAuthority QuotaLedger

/-- The clock of the authority: no operation is accepted before it. -/
def Database.clock (db : Database) : Option Time :=
  db.globalCheckpoint.bind GlobalCheckpointRow.clockHighWater

/-- The changes of state that end a call, with the outcome they record. -/
def CallAllocation.Ends (call : CallAllocation) (state : CallState)
    (outcome : Option CallOutcome) : Prop :=
  (call.state = .dispatchAuthorized ∧ state.Ended ∧ outcome = state.outcome) ∨
    (call.state = .intent ∧ state = .cancelledBeforeDispatch ∧
      (outcome = none ∨ outcome = some .unknownBeforeDispatch))

inductive AuthorityMove (before : Database) (now : Time) : String → Database → Prop
  | reserved (window : WindowRow) (lease : LeaseRow) (parent : ParentRow)
      (freshParent : parent.parentId ∉ before.parents.map ParentRow.parentId)
      (freshLease : parent.leaseId ∉ before.parents.map ParentRow.leaseId)
      (stored : window ∈ before.quota.windows)
      (drawn : lease.windowKey = window.key)
      (fresh : lease.leaseId ∉ before.quota.leases.map LeaseRow.leaseId)
      (room : lease.units ≤ before.quota.remainingInWindow window now)
      (named : lease.leaseId = parent.leaseId)
      (units : lease.units = parent.totalCost)
      (positive : 1 ≤ lease.units)
      (unused : lease.usedUnits = 0)
      (unreleased : lease.releasedAt = none)
      (granted : lease.grantedAt = now)
      (lasting : now < lease.expiresAt)
      (isOpen : parent.state = .open)
      (unclosed : parent.closedAt = none)
      (reservedAt : parent.reservedAt = now) :
      AuthorityMove before now parent.parentId
        { before with
          quota := { before.quota with leases := before.quota.leases ++ [lease] },
          parents := before.parents ++ [parent] }
  | intended (parent : ParentRow) (call : CallAllocation)
      (found : before.parentRow parent.parentId = some parent)
      (isOpen : parent.state = .open)
      (fresh : call.callId ∉ before.calls.map CallAllocation.callId)
      (own : call.parentId = parent.parentId)
      (positive : 1 ≤ call.cost)
      (within : ((before.callsOf parent.parentId).map CallAllocation.cost).sum +
        call.cost ≤ parent.totalCost)
      (intent : call.state = .intent)
      (unauthorized : call.authorizedAt = none)
      (unused : call.usageId = none)
      (intendedAt : call.intendedAt = now) :
      AuthorityMove before now parent.parentId { before with calls := before.calls ++ [call] }
  | authorized (parent : ParentRow) (lease : LeaseRow) (call : CallAllocation) (usageId : Digest)
      (found : before.parentRow parent.parentId = some parent)
      (isOpen : parent.state = .open)
      (leaseFound : before.leaseRow parent.leaseId = some lease)
      (callFound : before.callRow call.callId = some call)
      (own : call.parentId = parent.parentId)
      (intent : call.state = .intent)
      (unreleased : lease.releasedAt = none)
      (unexpired : now < lease.expiresAt)
      (within : lease.usedUnits + call.cost ≤ lease.units)
      (fresh : hex usageId ∉ before.quota.usages.map UsageRow.usageId) :
      AuthorityMove before now parent.parentId
        { before with
          quota := { before.quota with
            leases := updateKey LeaseRow.leaseId parent.leaseId
              (fun row => row.charge call.cost) before.quota.leases
            usages := before.quota.usages ++ [
              { usageId := hex usageId, leaseId := parent.leaseId, units := call.cost,
                consumedAt := now }] }
          calls := updateKey CallAllocation.callId call.callId
            (fun row => row.authorize now usageId) before.calls }
  | ended (parent : ParentRow) (call : CallAllocation) (state : CallState)
      (outcome : Option CallOutcome)
      (found : before.parentRow parent.parentId = some parent)
      (isOpen : parent.state = .open)
      (callFound : before.callRow call.callId = some call)
      (own : call.parentId = parent.parentId)
      (ends : call.Ends state outcome) :
      AuthorityMove before now parent.parentId
        { before with
          calls := updateKey CallAllocation.callId call.callId
            (fun row => row.finish state outcome now) before.calls }
  | released (parent : ParentRow) (lease : LeaseRow)
      (found : before.parentRow parent.parentId = some parent)
      (isOpen : parent.state = .open)
      (settled : ∀ call ∈ before.callsOf parent.parentId, call.state.Terminal)
      (leaseFound : before.leaseRow parent.leaseId = some lease)
      (unreleased : lease.releasedAt = none)
      (granted : lease.grantedAt ≤ now)
      (within : lease.usedUnits ≤ parent.totalCost) :
      AuthorityMove before now parent.parentId
        { before with
          quota := { before.quota with
            leases := updateKey LeaseRow.leaseId parent.leaseId
              (fun row => row.release now) before.quota.leases }
          parents := updateKey ParentRow.parentId parent.parentId
            (fun row =>
              { row with
                state := if 0 < parent.totalCost - lease.usedUnits then .compensated
                  else .closed
                closedAt := some now })
            before.parents }

variable {callId parentId : String} {now : Time} {after : Database} {request : Request}

theorem AuthorityMove.history_eq (move : AuthorityMove before now parentId after) :
    after.journal = before.journal ∧ after.parentCheckpoints = before.parentCheckpoints := by
  cases move <;> exact ⟨rfl, rfl⟩

namespace ParentAuthority

variable {authority : ParentAuthority} {db : Database}

theorem clock_of_validateGlobalCheckpoint
    (valid : authority.validateGlobalCheckpoint db = .ok row) :
    db.globalCheckpoint = some row ∧ db.clock = row.clockHighWater := by
  unfold validateGlobalCheckpoint at valid
  simp only [run_eq_ok, orRaise_eq_ok] at valid
  obtain ⟨_, found, -, rfl⟩ := valid
  exact ⟨found, by rw [Database.clock, found, Option.bind_some]⟩

theorem timely_of_rejectClockRollback (accepted : authority.rejectClockRollback db now = .ok ()) :
    ∀ trusted ∈ db.clock, trusted ≤ now := by
  unfold rejectClockRollback at accepted
  simp only [run_eq_ok] at accepted
  obtain ⟨_, valid, timely⟩ := accepted
  rw [(clock_of_validateGlobalCheckpoint valid).2]
  exact timely

end ParentAuthority

namespace Database

variable {db : Database}

theorem requireOpenParent_eq_ok
    (required : db.requireOpenParent parentId = .ok parent) :
    parent.parentId = parentId ∧ db.parentRow parent.parentId = some parent ∧
      parent.state = .open := by
  unfold requireOpenParent at required
  simp only [run_eq_ok, orRaise_eq_ok] at required
  obtain ⟨row, found, isOpen, rfl⟩ := required
  have named : row.parentId = parentId := (mem_of_findKey found).2
  exact ⟨named, named ▸ found, isOpen⟩

theorem requireCall_eq_ok
    (required : db.requireCall callId parentId = .ok call) :
    call.callId = callId ∧ db.callRow call.callId = some call ∧ call.parentId = parentId := by
  unfold requireCall at required
  simp only [run_eq_ok, orRaise_eq_ok] at required
  obtain ⟨row, found, own, rfl⟩ := required
  have named : row.callId = callId := (mem_of_findKey found).2
  exact ⟨named, named ▸ found, own⟩

theorem report_eq_ok
    (reported : db.report parentId callId = .ok (after, parent, call)) :
    after = db ∧ db.snapshotParent parentId = .ok parent ∧
      ∃ recorded, call = some recorded ∧ db.snapshotCall callId = .ok recorded := by
  unfold report at reported
  simp only [pair_eq_ok] at reported
  obtain ⟨_, taken, recorded, read, rfl, rfl, rfl⟩ := reported
  exact ⟨rfl, taken, recorded, rfl, read⟩

theorem snapshotCall_eq_ok
    (read : db.snapshotCall callId = .ok call) :
    db.callRow callId = some call ∧ call.fromRow = .ok call := by
  unfold snapshotCall at read
  simp only [bind_eq_ok, orRaise_eq_ok] at read
  obtain ⟨row, found, valid⟩ := read
  have same : row = call := by
    unfold CallAllocation.fromRow at valid
    simp only [bind_eq_ok, pure_eq_ok] at valid
    obtain ⟨_, _, _, _, _, _, _, _, _, _, _, _, same⟩ := valid
    exact same
  exact ⟨same ▸ found, same ▸ valid⟩

end Database

/-- The body of an operation made a move on its parent, at a time that is not
before the clock, and reports the parent and the call as it left them. -/
structure BodyOutcome (request : Request) (now : Time) (before after : Database)
    (parent : ParentSnapshot) (call : Option CallAllocation) : Prop where
  move : AuthorityMove before now request.parentId after
  timely : ∀ trusted ∈ before.clock, trusted ≤ now
  snapshot : after.snapshotParent request.parentId = .ok parent
  reported :
    match request.callId? with
    | none => call = none
    | some callId => ∃ recorded, call = some recorded ∧ after.snapshotCall callId = .ok recorded

namespace Request

variable {authority : ParentAuthority} {before after : Database} {now : Time}
  {parent : ParentSnapshot} {call : Option CallAllocation}

theorem outcome_reserveParent {parentId source owner : String} {totalCost : ℤ} {expiresAt : Time}
    (executed : authority.reserveParent before parentId source owner totalCost expiresAt
      claim now = .ok (after, parent, call)) :
    BodyOutcome (.reserveParent parentId source owner totalCost expiresAt claim) now
      before after parent call := by
  unfold ParentAuthority.reserveParent at executed
  simp only [run_eq_ok, liftQuota_eq_ok, Prod.mk.injEq] at executed
  obtain ⟨-, accepted, window, active, ⟨lasting, -⟩, _, -, granted,
    grantedOk, _, insertedOk, snapshot, taken, rfl, rfl, rfl⟩ :=
    executed
  obtain ⟨_, _⟩ := granted
  have stored := (activeWindow_eq_ok active).1
  unfold SourceQuotaStore.grantLease SourceQuotaStore.sourceQuotaLease at grantedOk
  simp only [pair_eq_ok] at grantedOk
  obtain ⟨room, _, ⟨-, -, ⟨positive, -⟩, -, -, -, -, rfl⟩, _, leased, rfl, rfl⟩ := grantedOk
  obtain ⟨fresh, -, rfl⟩ := insertLease_eq_ok leased
  unfold Database.insertParent at insertedOk
  simp only [run_eq_ok] at insertedOk
  obtain ⟨⟨freshParent, freshLease⟩, rfl⟩ := insertedOk
  refine
    { move := ?_, timely := timely_of_rejectClockRollback accepted,
      snapshot := taken, reported := rfl }
  exact .reserved window _ ⟨parentId, source, owner, claim, _, totalCost, now, .open, none⟩
    freshParent freshLease stored rfl fresh room rfl rfl positive rfl rfl rfl
    lasting rfl rfl rfl

theorem outcome_recordIntent {parentId callId : String} {cost : ℤ} (positive : 1 ≤ cost)
    (executed :
      authority.recordIntent before parentId callId cost now = .ok (after, parent, call)) :
    BodyOutcome (.recordIntent parentId callId cost) now before after parent
      call := by
  unfold ParentAuthority.recordIntent requireLifecycleTime at executed
  simp only [run_eq_ok] at executed
  obtain ⟨row, opened, _, -, -, -, accepted, fresh, within, reported⟩ := executed
  obtain ⟨rfl, found, isOpen⟩ := requireOpenParent_eq_ok opened
  obtain ⟨rfl, taken, recorded, isSome, read⟩ := report_eq_ok reported
  exact
    { move :=
        .intended row ⟨callId, row.parentId, cost, .intent, none, now, none, none, none⟩
          found isOpen (findKey_eq_none.mp fresh) rfl positive within rfl rfl
          rfl rfl
      timely := timely_of_rejectClockRollback accepted
      snapshot := taken
      reported := ⟨recorded, isSome, read⟩ }

theorem outcome_authorizeDispatch {parentId callId : String}
    (executed :
      authority.authorizeDispatch before parentId callId now = .ok (after, parent, call)) :
    BodyOutcome (.authorizeDispatch parentId callId) now before after parent
      call := by
  unfold ParentAuthority.authorizeDispatch requireLifecycleTime at executed
  simp only [run_eq_ok, liftQuota_eq_ok, requireParentLease, orRaise_eq_ok] at executed
  obtain ⟨row, opened, allocation, required, intent, lease, leaseFound,
    unreleased, -, -, -, accepted, unexpired, within, _, charged,
    reported⟩ := executed
  obtain ⟨rfl, found, isOpen⟩ := requireOpenParent_eq_ok opened
  obtain ⟨rfl, callFound, own⟩ := requireCall_eq_ok required
  obtain ⟨fresh, rfl⟩ := insertUsage_eq_ok charged
  obtain ⟨rfl, taken, recorded, isSome, read⟩ := report_eq_ok reported
  exact
    { move :=
        .authorized row lease allocation _ found isOpen leaseFound callFound
          own intent unreleased unexpired within fresh
      timely := timely_of_rejectClockRollback accepted
      snapshot := taken
      reported := ⟨recorded, isSome, read⟩ }

theorem outcome_finalize {parentId callId : String} {outcome : CallOutcome}
    (dispatched : outcome ≠ .unknownBeforeDispatch)
    (executed : authority.finalize before parentId callId outcome now = .ok (after, parent, call)) :
    BodyOutcome (.finalize parentId callId outcome) now before after parent
      call := by
  unfold ParentAuthority.finalize requireLifecycleTime at executed
  simp only [run_eq_ok, orRaise_eq_ok] at executed
  obtain ⟨row, opened, allocation, required, state, _, -, -, -, accepted, reported⟩ := executed
  obtain ⟨rfl, found, isOpen⟩ := requireOpenParent_eq_ok opened
  obtain ⟨rfl, callFound, own⟩ := requireCall_eq_ok required
  obtain ⟨rfl, taken, recorded, isSome, read⟩ := report_eq_ok reported
  have ends : allocation.Ends outcome.state (some outcome) := by
    refine .inl ⟨state, ?_⟩
    cases outcome <;> simp_all [CallOutcome.state, CallState.Ended, CallState.outcome]
  exact
    { move :=
        .ended row allocation outcome.state (some outcome) found isOpen callFound own ends
      timely := timely_of_rejectClockRollback accepted
      snapshot := taken
      reported := ⟨recorded, isSome, read⟩ }

/-- The two requests that end a call before its dispatch share a body. -/
theorem outcome_terminalizeBeforeDispatch
    (asked : request.callId? = some callId)
    (known : outcome = none ∨ outcome = some .unknownBeforeDispatch)
    (executed : authority.terminalizeBeforeDispatch before request.parentId callId
      outcome now = .ok (after, parent, call)) :
    BodyOutcome request now before after parent call := by
  unfold ParentAuthority.terminalizeBeforeDispatch requireLifecycleTime at executed
  simp only [run_eq_ok] at executed
  obtain ⟨row, opened, allocation, required, state, _, -, -, -, -, accepted, reported⟩ := executed
  obtain ⟨named, found, isOpen⟩ := requireOpenParent_eq_ok opened
  obtain ⟨rfl, callFound, own⟩ := requireCall_eq_ok required
  obtain ⟨rfl, taken, recorded, isSome, read⟩ := report_eq_ok reported
  refine
    { move := ?_, timely := timely_of_rejectClockRollback accepted,
      snapshot := taken, reported := ?_ }
  · rw [← named]
    exact .ended row allocation .cancelledBeforeDispatch outcome found isOpen
      callFound (own.trans named.symm) (.inr ⟨state, rfl, known⟩)
  · rw [asked]
    exact ⟨recorded, isSome, read⟩

theorem outcome_releaseUnused {parentId : String}
    (executed : authority.releaseUnused before parentId now = .ok (after, parent, call)) :
    BodyOutcome (.releaseUnused parentId) now before after parent call := by
  unfold ParentAuthority.releaseUnused at executed
  simp only [bind_eq_ok] at executed
  obtain ⟨row, opened, executed⟩ := executed
  obtain ⟨rfl, found, isOpen⟩ := requireOpenParent_eq_ok opened
  split at executed
  · cases executed
  · rename_i resolved
    simp only [run_eq_ok, orRaise_eq_ok, Prod.mk.injEq] at executed
    obtain ⟨lease, leaseFound, unreleased, granted, accepted, _,
      snapshot, taken, rfl, rfl, rfl⟩ := executed
    have settled : ∀ call ∈ before.callsOf row.parentId, call.state.Terminal := by
      intro call mem
      simpa using List.find?_eq_none.mp resolved call mem
    exact
      { move :=
          .released row lease found isOpen settled leaseFound unreleased granted (by omega)
        timely := timely_of_rejectClockRollback accepted
        snapshot := taken
        reported := rfl }

/-- What the checks of the arguments leave to the bodies. -/
def Checked : Request → Prop
  | .recordIntent _ _ cost => 1 ≤ cost
  | .finalize _ _ outcome => outcome ≠ .unknownBeforeDispatch
  | _ => True

theorem checked_of_normalized {request checked : Request}
    (normalized : request.normalized = .ok checked) : checked.Checked := by
  cases request <;>
    simp only [run_eq_ok, Request.normalized, requireNonempty_eq_ok] at normalized
  case recordIntent =>
    obtain ⟨_, -, _, -, positive, rfl⟩ := normalized
    exact positive
  case finalize =>
    obtain ⟨dispatched, _, -, _, -, rfl⟩ := normalized
    exact dispatched
  case reserveParent =>
    obtain ⟨_, -, _, -, _, -, -, -, -, rfl⟩ := normalized
    trivial
  case releaseUnused =>
    obtain ⟨_, -, rfl⟩ := normalized
    trivial
  all_goals
    obtain ⟨_, -, _, -, rfl⟩ := normalized
    trivial

theorem outcome_of_body (checked : request.Checked)
    (executed : request.body authority now before = .ok (after, parent, call)) :
    BodyOutcome request now before after parent call := by
  cases request with
  | reserveParent => exact outcome_reserveParent executed
  | recordIntent => exact outcome_recordIntent checked executed
  | authorizeDispatch => exact outcome_authorizeDispatch executed
  | finalize => exact outcome_finalize checked executed
  | terminalizeUnknownBeforeDispatch =>
    exact outcome_terminalizeBeforeDispatch rfl (.inr rfl) executed
  | cancel => exact outcome_terminalizeBeforeDispatch rfl (.inl rfl) executed
  | releaseUnused => exact outcome_releaseUnused executed

end Request

end RQuant.Authority
