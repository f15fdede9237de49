import RQuant.Authority.Database

/-!
# Parent quota authority: evidence

The checks that compare the recorded result of an operation with the durable
tables.  They run when an operation is accepted and again, against whatever the
tables have become, whenever its journal row is replayed or audited.
-/

namespace RQuant.Authority

open Foundation Quota

def evidenceError (text : String) : AuthorityError :=
  .integrity ("stored journal immutable evidence " ++ text)

section

variable (operation : OperationKind) (parent : ParentSnapshot) (call : Option CallAllocation)

/-- What `_validate_operation_result_shape` asks of each kind of operation. -/
def OperationKind.validateShape : Except AuthorityError Unit :=
  match operation, call with
  | .reserveParent, recorded =>
    require (recorded = none ∧ parent.state = .open ∧ parent.calls = [])
      (.integrity "stored journal reserve result shape conflicts")
  | .releaseUnused, recorded =>
    require (recorded = none ∧ parent.state.Released ∧ parent.closedAt ≠ none)
      (.integrity "stored journal release result shape conflicts")
  | _, none => .error (.integrity "stored journal call result shape conflicts")
  | kind, some recorded => do
    require (parent.state = .open) (.integrity "stored journal call result shape conflicts")
    match kind with
    | .recordIntent =>
      require (recorded.state = .intent) (.integrity "stored journal intent result shape conflicts")
    | .authorizeDispatch =>
      require (recorded.state = .dispatchAuthorized)
        (.integrity "stored journal dispatch authorization result shape conflicts")
    | .finalize =>
      require (recorded.state.Ended ∧ recorded.outcome = recorded.state.outcome)
        (.integrity "stored journal final result shape conflicts")
    | .unknownBeforeDispatch =>
      require
        (recorded.state = .cancelledBeforeDispatch ∧ recorded.outcome = some .unknownBeforeDispatch)
        (.integrity "stored journal pre-dispatch unknown result shape conflicts")
    | .cancel =>
      require (recorded.state = .cancelledBeforeDispatch ∧ recorded.outcome = none)
        (.integrity "stored journal cancel result shape conflicts")
    | .reserveParent | .releaseUnused => pure ()

def validateOperationResultShape : Except AuthorityError Unit := do
  require (parent.state ≠ .closing)
    (.integrity "stored journal result cannot contain a closing parent")
  require (parent.calls.map CallAllocation.callId).Nodup
    (.integrity "stored journal result contains duplicate call evidence")
  require
    (call.all fun recorded => decide
      (parent.calls.filter (fun other => other.callId = recorded.callId) = [recorded]))
    (evidenceError "call conflicts with parent call set")
  operation.validateShape parent call

end

def validateParentReplayTransition (parent : ParentSnapshot)
    (durable : ParentRow) : Except AuthorityError Unit := do
  require (durable.state ∈ parent.state.replay) (evidenceError "parent transition conflicts")
  if durable.state.Released then
    require (durable.closedAt ≠ none) (evidenceError "closed parent timestamp is missing")
  else
    require (durable.closedAt = none) (evidenceError "open parent has a close timestamp")
  require (parent.state.Released → durable.closedAt = parent.closedAt)
    (evidenceError "conflicts with parent close")

namespace Database

variable (db : Database)

def validateUsage (leaseId : Digest) (durable call : CallAllocation)
    (authorizedAt : Time) : Except AuthorityError Unit :=
  match call.usageId with
  | none => .error (evidenceError "conflicts with call authorization")
  | some usageId => do
    require (durable.authorizedAt = some authorizedAt ∧ durable.usageId = some usageId)
      (evidenceError "conflicts with call authorization")
    let usage ← orRaise (evidenceError "usage is missing")
      (findKey UsageRow.usageId (hex usageId) db.quota.usages)
    require (usage.leaseId = leaseId ∧ usage.units = call.cost ∧ usage.consumedAt = authorizedAt)
      (evidenceError "conflicts with quota usage")

def validateImmutableCallEvidence (parent : ParentSnapshot)
    (call : CallAllocation) : Except AuthorityError Unit := do
  let row ← orRaise (evidenceError "call is missing") (db.callRow call.callId)
  let durable ← orMalformed
    "stored journal immutable evidence durable call is malformed" row.fromRow
  require
    (durable.parentId = parent.parentId ∧ durable.parentId = call.parentId ∧
      durable.cost = call.cost ∧ durable.intendedAt = call.intendedAt)
    (evidenceError "conflicts with call allocation")
  require (durable.state ∈ call.state.replay) (evidenceError "call transition conflicts")
  require (call.state.Terminal → durable = call) (evidenceError "conflicts with terminal call")
  match call.authorizedAt with
  | none => pure ()
  | some authorizedAt => db.validateUsage parent.leaseId durable call authorizedAt
  require (call.finalizedAt = none ∨ durable.finalizedAt = call.finalizedAt)
    (evidenceError "conflicts with call finalization")

def validateUsageSet (ledger : String) (leaseId : Digest)
    (dispatched : List CallAllocation) : Except AuthorityError Unit := do
  let usages := db.quota.usagesOf leaseId
  let expected := dispatched.map fun call => call.usageId.map hex
  require
    ((∀ usageId ∈ expected, usageId ≠ none) ∧ expected.Nodup ∧ (usages.map UsageRow.usageId).Nodup ∧
      (∀ usage ∈ usages, some usage.usageId ∈ expected) ∧
      ∀ usageId ∈ expected, usageId ∈ usages.map fun usage => some usage.usageId)
    (evidenceError (ledger ++ " ledger usage set conflicts"))
  require
    (∀ call ∈ dispatched, ∀ usage ∈ usages, call.usageId.map hex = some usage.usageId →
      usage.leaseId = leaseId ∧ usage.units = call.cost ∧ some usage.consumedAt = call.authorizedAt)
    (evidenceError (ledger ++ " ledger usage conflicts"))

def validateCurrentOpenLedger (parent : ParentRow) (lease : LeaseRow) :
    Except AuthorityError Unit := do
  require (parent.closedAt = none ∧ lease.releasedAt = none) (evidenceError "open ledger is closed")
  let calls ← orMalformed "stored journal immutable evidence open ledger is malformed"
    (db.readCalls parent.parentId)
  require
    (0 < parent.totalCost ∧ lease.units = parent.totalCost ∧
      0 ≤ lease.usedUnits ∧ lease.usedUnits ≤ parent.totalCost ∧
      (∀ call ∈ calls, parent.reservedAt ≤ call.intendedAt ∧ lease.grantedAt ≤ call.intendedAt) ∧
      ∀ call ∈ calls, ∀ authorized ∈ call.authorizedAt, authorized < lease.expiresAt)
    (evidenceError "open ledger conflicts")
  let dispatched := calls.filter fun call => call.state.Dispatched
  db.validateUsageSet "open" parent.leaseId dispatched
  require
    ((calls.map CallAllocation.cost).sum ≤ parent.totalCost ∧
      lease.usedUnits = (dispatched.map CallAllocation.cost).sum)
    (evidenceError "open ledger accounting conflicts")

def TerminalLifecycle (parent : ParentRow) (lease : LeaseRow)
    (closedAt : Time) (call : CallAllocation) : Prop :=
  parent.reservedAt ≤ call.intendedAt ∧ lease.grantedAt ≤ call.intendedAt ∧
    (∀ authorized ∈ call.authorizedAt,
      call.intendedAt ≤ authorized ∧ parent.reservedAt ≤ authorized ∧
        lease.grantedAt ≤ authorized ∧ authorized < lease.expiresAt) ∧
    ∀ finalized ∈ call.finalizedAt,
      call.intendedAt ≤ finalized ∧ (∀ authorized ∈ call.authorizedAt, authorized ≤ finalized) ∧
        parent.reservedAt ≤ finalized ∧ lease.grantedAt ≤ finalized ∧
        finalized ≤ closedAt

instance (parent : ParentRow) (lease : LeaseRow) (closedAt : Time) (call : CallAllocation) :
    Decidable (TerminalLifecycle parent lease closedAt call) :=
  inferInstanceAs (Decidable (_ ∧ _ ∧ _ ∧ _))

/-- The released branch of `_validate_current_terminal_ledger`. -/
def validateReleasedLedger (parent : ParentRow) (lease : LeaseRow) : Except AuthorityError Unit :=
  match parent.closedAt, lease.releasedAt with
  | some closedAt, some releasedAt => do
    require
      (closedAt = releasedAt ∧ 0 < parent.totalCost ∧
        lease.units = parent.totalCost ∧ 0 ≤ lease.usedUnits ∧
        lease.usedUnits ≤ parent.totalCost)
      (evidenceError "terminal ledger conflicts")
    require (parent.reservedAt ≤ closedAt ∧ lease.grantedAt ≤ releasedAt)
      (evidenceError "terminal ledger lifecycle conflicts")
    let calls ← orMalformed "stored journal immutable evidence durable call is malformed"
      (db.readCalls parent.parentId)
    require (∀ call ∈ calls, call.state.Terminal)
      (evidenceError "terminal ledger has a nonterminal call")
    require (∀ call ∈ calls, TerminalLifecycle parent lease closedAt call)
      (evidenceError "terminal ledger lifecycle conflicts")
    require ((calls.map CallAllocation.cost).sum ≤ parent.totalCost)
      (evidenceError "terminal allocation exceeds reservation")
    let dispatched := calls.filter fun call => call.state.Ended
    db.validateUsageSet "terminal" parent.leaseId dispatched
    require
      (parent.state =
          (if 0 < parent.totalCost - lease.usedUnits then .compensated
            else .closed) ∧
        lease.usedUnits = (dispatched.map CallAllocation.cost).sum)
      (evidenceError "terminal ledger accounting conflicts")
  | _, _ => .error (evidenceError "terminal ledger timestamp is missing")

def validateCurrentTerminalLedger (parent : ParentRow) (lease : LeaseRow) :
    Except AuthorityError Unit :=
  if parent.state.Released then db.validateReleasedLedger parent lease
  else db.validateCurrentOpenLedger parent lease

def validateReleaseEvidence (parent : ParentSnapshot) (durable : ParentRow)
    (lease : LeaseRow) : Except AuthorityError Unit := do
  require
    (durable.state = parent.state ∧ durable.closedAt = parent.closedAt ∧
      lease.releasedAt = parent.closedAt ∧
      lease.usedUnits = parent.consumedCost)
    (evidenceError "conflicts with release ledger")
  let calls ← orMalformed "stored journal immutable evidence release call is malformed"
    (db.readCalls parent.parentId)
  require (parent.calls = calls) (evidenceError "release call evidence conflicts")
  require (∀ call ∈ calls, call.state.Terminal) (evidenceError "release has a nonterminal call")
  let dispatched := calls.filter fun call => call.state.Ended
  let usages := db.quota.usagesOf parent.leaseId
  let expected := dispatched.map fun call => call.usageId.map hex
  require
    ((∀ usageId ∈ expected, usageId ≠ none) ∧ (usages.map UsageRow.usageId).Nodup ∧
      (∀ usage ∈ usages, some usage.usageId ∈ expected) ∧
      ∀ usageId ∈ expected, usageId ∈ usages.map fun usage => some usage.usageId)
    (evidenceError "release usage set conflicts")
  require
    (lease.usedUnits = (dispatched.map CallAllocation.cost).sum ∧
      (dispatched.map CallAllocation.cost).sum = (usages.map UsageRow.units).sum ∧
      parent.totalCost = lease.usedUnits + parent.unusedReleased ∧
      parent.reservedCost = parent.consumedCost + parent.unusedReleased)
    (evidenceError "release accounting conflicts")

/-- The reservation, lease and window rows still carry the contract of the
snapshot. -/
def validateContractRows (parent : ParentSnapshot) :
    Except AuthorityError (ParentRow × LeaseRow) := do
  let durable ← orRaise (evidenceError "parent is missing") (db.parentRow parent.parentId)
  require
    (durable.source = parent.source ∧ durable.owner = parent.owner ∧
      durable.claim = parent.claim ∧ durable.leaseId = parent.leaseId ∧
      durable.totalCost = parent.totalCost ∧
      durable.reservedAt = parent.reservedAt)
    (evidenceError "conflicts with parent reservation")
  validateParentReplayTransition parent durable
  let lease ← orRaise (evidenceError "lease is missing") (db.leaseRow parent.leaseId)
  require
    (lease.source = parent.source ∧ lease.owner = parent.owner ∧
      lease.windowId = parent.windowId ∧ lease.units = parent.totalCost ∧
      lease.grantedAt = parent.reservedAt ∧
      lease.expiresAt = parent.expiresAt ∧
      lease.quotaResetAt = parent.resetAt)
    (evidenceError "conflicts with quota lease")
  let window ← orRaise (evidenceError "window is missing")
    (db.windowRow parent.source parent.windowId)
  require
    (window.startsAt = parent.windowStart ∧ window.resetsAt = parent.windowEnd ∧
      window.totalUnits = parent.capacity)
    (evidenceError "conflicts with quota window")
  pure (durable, lease)

def validateImmutableResultEvidence (operation : OperationKind)
    (parent : ParentSnapshot) (call : Option CallAllocation) :
    Except AuthorityError Unit := do
  let (durable, lease) ← db.validateContractRows parent
  parent.calls.forM (db.validateImmutableCallEvidence parent)
  match call with
  | none => pure ()
  | some recorded => do
    require (recorded.parentId = parent.parentId) (evidenceError "call parent conflicts")
    db.validateImmutableCallEvidence parent recorded
  db.validateCurrentTerminalLedger durable lease
  if operation = .releaseUnused then
    db.validateReleaseEvidence parent durable lease

end Database

end RQuant.Authority
