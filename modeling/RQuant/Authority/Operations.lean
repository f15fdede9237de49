import RQuant.Authority.Journal

/-!
# Parent quota authority: operations

Each of the seven operations has a body that changes the tables and takes the
snapshots it will report; `_operate` wraps it with the lookup of earlier
operations, the checks of the result, the receipt, the journal row and the
checkpoints, and with an external root stages the next checkpoint.
-/

namespace RQuant.Authority

open Foundation Quota

def requireLifecycleTime (observedAt lowerBound : Time) : Except AuthorityError Unit :=
  require (lowerBound ≤ observedAt) (.value "call lifecycle timestamp order is invalid")

/-- What the body of an operation gives: the tables, the snapshot of the parent
and the snapshot of the call it is about. -/
abbrev Applied := Database × ParentSnapshot × Option CallAllocation

namespace Database

variable (db : Database)

/-- `_remaining_in_window`: the store's formula, on leases that add up. -/
def remainingInWindow (window : WindowRow) (now : Time) : Except AuthorityError ℤ := do
  require
    (∀ lease ∈ db.quota.leasesOf window.key, 0 ≤ lease.usedUnits ∧ lease.usedUnits ≤ lease.units)
    (.integrity "stored quota lease consumption conflicts with its units")
  pure (db.quota.remainingInWindow window now)

/-- Insert a reservation under its id and the id of its lease. -/
def insertParent (row : ParentRow) : Except AuthorityError Database := do
  require
    (row.parentId ∉ db.parents.map ParentRow.parentId ∧
      row.leaseId ∉ db.parents.map ParentRow.leaseId)
    (.conflict "quota authority unique constraint conflicts")
  pure { db with parents := db.parents ++ [row] }

def updateCall (callId : String) (change : CallAllocation → CallAllocation) : Database :=
  { db with
    calls := updateKey CallAllocation.callId callId change db.calls }

def report (parentId callId : String) : Except AuthorityError Applied := do
  let parent ← db.snapshotParent parentId
  let call ← db.snapshotCall callId
  pure (db, parent, some call)

end Database

namespace CallAllocation

def authorize (call : CallAllocation) (time : Time) (usageId : Digest) : CallAllocation :=
  { call with state := .dispatchAuthorized, authorizedAt := some time, usageId := some usageId }

def finish (call : CallAllocation) (state : CallState)
    (outcome : Option CallOutcome) (time : Time) : CallAllocation :=
  { call with state, outcome, finalizedAt := some time }

end CallAllocation

def CallOutcome.state : CallOutcome → CallState
  | .success => .success
  | .failure => .failure
  | .unknown => .unknown
  | .unknownBeforeDispatch => .cancelledBeforeDispatch

namespace ParentAuthority

variable (authority : ParentAuthority) (db : Database)

/-- The body of `reserve_parent`. -/
def reserveParent (parentId source owner : String) (totalCost : ℤ)
    (expiresAt : Time) (claim : ClaimBinding) (now : Time) :
    Except AuthorityError Applied := do
  require (db.parentRow parentId = none) (.conflict "parent reservation already exists")
  authority.rejectClockRollback db now
  let window ← liftQuota (db.quota.activeWindow source now)
  require (now < expiresAt ∧ expiresAt ≤ window.resetsAt)
    (.value "expires_at must be after now and no later than quota reset")
  let _ ← db.remainingInWindow window now
  let (quota, lease) ← liftQuota
    (authority.store.grantLease db.quota window owner totalCost now expiresAt)
  let after ← { db with quota }.insertParent {
    parentId
    source
    owner
    claim
    leaseId := lease.leaseId
    totalCost
    reservedAt := now
    state := .open
    closedAt := none }
  let parent ← after.snapshotParent parentId
  pure (after, parent, none)

section

variable (parentId callId : String)

/-- The body of `record_intent`. -/
def recordIntent (cost : ℤ) (now : Time) :
    Except AuthorityError Applied := do
  let parent ← db.requireOpenParent parentId
  let lease ← db.requireParentLease parent
  requireLifecycleTime now parent.reservedAt
  requireLifecycleTime now lease.grantedAt
  authority.rejectClockRollback db now
  require (db.callRow callId = none) (.conflict "call allocation already exists")
  require (((db.callsOf parentId).map CallAllocation.cost).sum + cost ≤ parent.totalCost)
    (.conflict "call allocation exceeds parent reservation")
  let call : CallAllocation := {
    callId
    parentId
    cost
    state := .intent
    outcome := none
    intendedAt := now
    authorizedAt := none
    finalizedAt := none
    usageId := none }
  { db with calls := db.calls ++ [call] }.report parentId callId

/-- The body of `authorize_dispatch`. -/
def authorizeDispatch (now : Time) : Except AuthorityError Applied := do
  let parent ← db.requireOpenParent parentId
  let call ← db.requireCall callId parentId
  require (call.state = .intent) (.conflict "call must be INTENT before dispatch authorization")
  let lease ← db.requireParentLease parent
  require (lease.releasedAt = none) (.conflict "parent quota lease is not active")
  requireLifecycleTime now parent.reservedAt
  requireLifecycleTime now lease.grantedAt
  requireLifecycleTime now call.intendedAt
  authority.rejectClockRollback db now
  require (now < lease.expiresAt) (.conflict "parent quota lease has expired")
  require (lease.usedUnits + call.cost ≤ lease.units)
    (.conflict "dispatch consumption exceeds parent reservation")
  let usageId := authority.digests.usageId callId parentId
  let quota ← liftQuota
    (QuotaLedger.insertUsage
      { db.quota with
        leases := updateKey LeaseRow.leaseId parent.leaseId
          (fun row => row.charge call.cost) db.quota.leases }
      { usageId := hex usageId, leaseId := parent.leaseId, units := call.cost, consumedAt := now })
  ({ db with quota }.updateCall callId fun row => row.authorize now usageId).report parentId callId

/-- The body of `finalize`. -/
def finalize (outcome : CallOutcome) (now : Time) : Except AuthorityError Applied := do
  let _ ← db.requireOpenParent parentId
  let call ← db.requireCall callId parentId
  require (call.state = .dispatchAuthorized)
    (.conflict "call must be DISPATCH_AUTHORIZED before finalization")
  let authorizedAt ← orRaise
    (.integrity "authorized call is missing its timestamp") call.authorizedAt
  requireLifecycleTime now call.intendedAt
  requireLifecycleTime now authorizedAt
  authority.rejectClockRollback db now
  (db.updateCall callId
    fun row => row.finish outcome.state (some outcome) now).report parentId callId

/-- The body of `_terminalize_before_dispatch`, for a call that is cancelled or
about which nothing is known before its dispatch. -/
def terminalizeBeforeDispatch (outcome : Option CallOutcome) (now : Time) :
    Except AuthorityError Applied := do
  let parent ← db.requireOpenParent parentId
  let call ← db.requireCall callId parentId
  require (call.state = .intent)
    (.conflict "call must be INTENT before pre-dispatch terminalization")
  let lease ← db.requireParentLease parent
  requireLifecycleTime now parent.reservedAt
  requireLifecycleTime now lease.grantedAt
  requireLifecycleTime now call.intendedAt
  authority.rejectClockRollback db now
  (db.updateCall callId
    fun row => row.finish .cancelledBeforeDispatch outcome now).report parentId callId

end

/-- The body of `release_unused`. -/
def releaseUnused (parentId : String) (now : Time) : Except AuthorityError Applied := do
  let parent ← db.requireOpenParent parentId
  match (db.callsOf parentId).find? fun call => ¬ call.state.Terminal with
  | some unresolved => .error (.conflict ("parent has unresolved call " ++ unresolved.callId))
  | none => do
    let lease ← orRaise (.conflict "parent quota lease is not active") (db.leaseRow parent.leaseId)
    require (lease.releasedAt = none) (.conflict "parent quota lease is not active")
    require (lease.grantedAt ≤ now) (.conflict "release precedes parent reservation")
    authority.rejectClockRollback db now
    let unused := parent.totalCost - lease.usedUnits
    require (0 ≤ unused) (.integrity "parent lease consumption exceeds reservation")
    let after : Database := { db with
      quota := { db.quota with
        leases := updateKey LeaseRow.leaseId parent.leaseId
          (fun row => row.release now) db.quota.leases }
      parents := updateKey ParentRow.parentId parentId
        (fun row =>
          { row with
            state := if 0 < unused then .compensated else .closed
            closedAt := some now })
        db.parents }
    let snapshot ← after.snapshotParent parentId
    pure (after, snapshot, none)

def externalCheckpoint (binding : RootBinding) : Except AuthorityError ExternalCheckpoint := do
  let checkpoint ← authority.validateGlobalCheckpoint db
  require
    (authority.authorityId.length ≤ 200 ∧
      (checkpoint.journalCount = 0 ↔ checkpoint.globalHeadHash = journalZeroHash))
    (.integrity "global checkpoint cannot be bound to the external root")
  pure {
    authorityId := authority.authorityId
    bindingHash := binding.bindingHash
    journalCount := checkpoint.journalCount
    mutationCounter := checkpoint.mutationCounter
    globalHeadHash := checkpoint.globalHeadHash
    clockHighWater := checkpoint.clockHighWater
    signatureHash := authority.digests.signatureHash checkpoint.signature }

def requireExternalStateBinding (binding : RootBinding)
    (row : ExternalStateRow) : Except AuthorityError Unit := do
  require (row.bindingHash = binding.bindingHash ∧ row.configHash = binding.configHash)
    (.repairRequired .externalBindingChanged)
  if row.acknowledged = journalZeroHash then
    require (row.acknowledgedReceipt = none)
      (.integrity "uninitialized external root state cannot contain a receipt")
  else
    match row.acknowledgedReceipt with
    | none => .error (.integrity "acknowledged external root state is missing its receipt")
    | some checkpoint =>
      require
        (authority.digests.checkpointHash checkpoint = row.acknowledged ∧
          checkpoint.bindingHash = binding.bindingHash)
        (.integrity "acknowledged external root receipt diverges from local binding")

def requireExternalAcknowledgement (binding : RootBinding)
    (checkpoint : ExternalCheckpoint) : Except AuthorityError Digest := do
  let state ← orRaise (.integrity "source quota external binding is missing") db.external
  authority.requireExternalStateBinding binding state
  require (state.pending = none)
    (.conflict "source quota external root has an unresolved pending request")
  require (state.acknowledged = authority.digests.checkpointHash checkpoint)
    (.conflict "source quota external acknowledgement is stale")
  pure state.acknowledged

def acknowledgedCheckpoint : Except AuthorityError (Option Digest) :=
  match authority.root with
  | none => .ok none
  | some binding => do
    let checkpoint ← authority.externalCheckpoint db binding
    let acknowledged ← authority.requireExternalAcknowledgement db binding checkpoint
    pure (some acknowledged)

def stageExternalAdvance (binding : RootBinding) (operationId : String)
    (nonce previousCheckpointHash : Digest) (checkpoint : ExternalCheckpoint) :
    Except AuthorityError Database := do
  let state ← orRaise (.conflict "source quota external advance staging CAS failed") db.external
  require (state.pending = none ∧ state.acknowledged = previousCheckpointHash)
    (.conflict "source quota external advance staging CAS failed")
  pure { db with
    external := some { state with
      pending := some {
        kind := .advance
        operationId := authority.digests.advanceOperation operationId
          binding.bindingHash previousCheckpointHash
          (authority.digests.checkpointHash checkpoint)
        previousCheckpointHash
        checkpoint
        challengeNonce := nonce } } }

/-- The staging of the checkpoint that a commit leaves. -/
def stage (operationId : String) (nonce : Digest)
    (acknowledged : Option Digest) : Except AuthorityError Database :=
  match authority.root, acknowledged with
  | some binding, some previous => do
    let checkpoint ← authority.externalCheckpoint db binding
    authority.stageExternalAdvance db binding operationId nonce previous checkpoint
  | _, _ => .ok db

def unsignedReceipt (operationId effectKey : String)
    (operation : OperationKind) (payload : OperationPayload)
    (parent : ParentSnapshot) (call : Option CallAllocation) :
    OperationReceipt where
  authorityId := authority.authorityId
  operationId
  effectKey
  operation
  claim := parent.claim
  payloadHash := authority.digests.payloadHash payload
  resultHash := authority.digests.resultHashOf parent call
  keyId := authority.keyId
  signature := "pending"

def signReceipt (unsigned : OperationReceipt) : OperationReceipt :=
  { unsigned with
    signature := authority.signer.sign unsigned.signingBytes }

/-- The journal row of an operation.  Its place in the chains comes from the
checkpoints before it. -/
def journalRow (receipt : OperationReceipt) (requestHash : Digest)
    (parent : ParentSnapshot) (call : Option CallAllocation)
    (parentCheckpoint : Option ParentCheckpointRow)
    (global : GlobalCheckpointRow) : JournalRow :=
  let integrityHash := authority.digests.replayPayloadHash parent call
  let unsigned : JournalRow := {
    operationId := receipt.operationId
    effectKey := receipt.effectKey
    operation := receipt.operation
    parentId := parent.parentId
    parentOrdinal := (parentCheckpoint.map ParentCheckpointRow.operationCount).getD 0 + 1
    previousOperationHash := (parentCheckpoint.map ParentCheckpointRow.headOperationHash).getD
      journalZeroHash
    globalOrdinal := global.journalCount + 1
    previousGlobalHash := global.globalHeadHash
    payloadHash := receipt.payloadHash
    requestHash
    resultHash := receipt.resultHash
    parent
    call
    integrityHash
    integritySignature := ""
    receipt
    operationHash := journalZeroHash }
  let signed := { unsigned with
    integritySignature := authority.signer.sign
      (unsigned.replayPayload authority.authorityId authority.keyId) }
  { signed with
    operationHash := authority.digests.operationChainHash
      (signed.chainPayload authority.digests signed.parentId
        signed.parentOrdinal signed.previousOperationHash
        signed.globalOrdinal signed.previousGlobalHash) }

/-- Insert a journal row under its id, its effect and its two ordinals. -/
def insertJournal (row : JournalRow) : Except AuthorityError Database := do
  require
    (row.operationId ∉ db.journal.map JournalRow.operationId ∧
      row.effectKey ∉ db.journal.map JournalRow.effectKey ∧
      (row.parentId, row.parentOrdinal) ∉
        db.journal.map (fun other => (other.parentId, other.parentOrdinal)) ∧
      row.globalOrdinal ∉ db.journal.map JournalRow.globalOrdinal)
    (.conflict "quota authority unique constraint conflicts")
  pure { db with journal := db.journal ++ [row] }

def nextClock (global : GlobalCheckpointRow) (parent : ParentSnapshot) : Time :=
  (global.clockHighWater.map (max · parent.clockHighWater)).getD parent.clockHighWater

def commit (operationId effectKey : String) (operation : OperationKind)
    (payload : OperationPayload) (nonce : Digest)
    (body : Database → Except AuthorityError Applied) :
    Except AuthorityError (Database × AuthorityResult) := do
  let global ← authority.validateGlobalCheckpoint db
  let acknowledged ← authority.acknowledgedCheckpoint db
  let parentCheckpoint ← authority.validateParentCheckpoint db payload.parentId none false false
  let (applied, parent, call) ← body db
  validateOperationResultShape operation parent call
  applied.validateImmutableResultEvidence operation parent call
  let document ← operationPayload operation parent call
  let unsigned := authority.unsignedReceipt operationId effectKey operation document parent call
  let _ ← unsigned.validated
  let receipt := authority.signReceipt unsigned
  require (authority.signer.verify receipt.signingBytes receipt.signature)
    (.integrity "signer returned an unverifiable receipt")
  let validated ← receipt.validated
  let row :=
    authority.journalRow receipt (authority.digests.requestHash operation payload) parent call
      parentCheckpoint global
  require
    (authority.signer.verify (row.replayPayload authority.authorityId authority.keyId)
      row.integritySignature)
    (.integrity "signer returned an unverifiable replay payload binding")
  let journaled ← insertJournal applied row
  let checked ← authority.writeParentCheckpoint journaled parent row.parentOrdinal row.operationHash
  let marked ←
    authority.writeGlobalCheckpoint checked row.globalOrdinal
      (global.mutationCounter + 1) row.operationHash
      (some (nextClock global parent))
  let staged ← authority.stage marked operationId nonce acknowledged
  pure (staged, { receipt := validated, parent, call })

/-- The transaction of `_operate`: a known operation id is replayed, a known
effect key is refused, and everything else is a new operation. -/
def operate (operationId effectKey : String) (operation : OperationKind)
    (payload : OperationPayload) (nonce : Digest)
    (body : Database → Except AuthorityError Applied) :
    Except AuthorityError (Database × AuthorityResult) := do
  let identifier ← requireNonempty operationId "operation_id"
  match findKey JournalRow.operationId identifier db.journal with
  | some existing => do
    let result ← authority.replayOperation db existing
    require
      (existing.requestHash = authority.digests.requestHash operation payload ∧
        existing.operation = operation)
      (.conflict "operation_id payload conflicts")
    require (existing.effectKey = effectKey) (.conflict "operation_id effect key conflicts")
    pure (db, result)
  | none =>
    match findKey JournalRow.effectKey effectKey db.journal with
    | some effect => do
      let _ ← authority.replayOperation db effect
      .error (.conflict "effect key is already bound to another operation")
    | none => authority.commit db identifier effectKey operation payload nonce body

end ParentAuthority

/-! ## Requests -/

/-- The arguments of the seven methods, apart from the operation id and the
time. -/
inductive Request where
  | reserveParent (parentId source owner : String) (totalCost : ℤ)
      (expiresAt : Time) (claim : ClaimBinding)
  | recordIntent (parentId callId : String) (cost : ℤ)
  | authorizeDispatch (parentId callId : String)
  | finalize (parentId callId : String) (outcome : CallOutcome)
  | terminalizeUnknownBeforeDispatch (parentId callId : String)
  | cancel (parentId callId : String)
  | releaseUnused (parentId : String)
  deriving DecidableEq

namespace Request

/-- The checks of the arguments, which strip the texts. -/
def normalized : Request → Except AuthorityError Request
  | .reserveParent parentId source owner totalCost expiresAt claim => do
    let parentId ← requireNonempty parentId "parent_id"
    let source ← requireNonempty source "source"
    let owner ← requireNonempty owner "owner"
    require (1 ≤ totalCost) (.value "total_cost must be a positive int")
    require (1 ≤ claim.generation) (.value "claim_generation must be a positive int")
    require (1 ≤ claim.fencingToken) (.value "scheduler_fencing_token must be a positive int")
    pure (.reserveParent parentId source owner totalCost expiresAt claim)
  | .recordIntent parentId callId cost => do
    let parentId ← requireNonempty parentId "parent_id"
    let callId ← requireNonempty callId "call_id"
    require (1 ≤ cost) (.value "cost must be a positive int")
    pure (.recordIntent parentId callId cost)
  | .authorizeDispatch parentId callId => do
    let parentId ← requireNonempty parentId "parent_id"
    let callId ← requireNonempty callId "call_id"
    pure (.authorizeDispatch parentId callId)
  | .finalize parentId callId outcome => do
    require (outcome ≠ .unknownBeforeDispatch)
      (.value "UNKNOWN_BEFORE_DISPATCH must be terminalized before dispatch")
    let parentId ← requireNonempty parentId "parent_id"
    let callId ← requireNonempty callId "call_id"
    pure (.finalize parentId callId outcome)
  | .terminalizeUnknownBeforeDispatch parentId callId => do
    let parentId ← requireNonempty parentId "parent_id"
    let callId ← requireNonempty callId "call_id"
    pure (.terminalizeUnknownBeforeDispatch parentId callId)
  | .cancel parentId callId => do
    let parentId ← requireNonempty parentId "parent_id"
    let callId ← requireNonempty callId "call_id"
    pure (.cancel parentId callId)
  | .releaseUnused parentId => do
    let parentId ← requireNonempty parentId "parent_id"
    pure (.releaseUnused parentId)

def kind : Request → OperationKind
  | .reserveParent _ _ _ _ _ _ => .reserveParent
  | .recordIntent _ _ _ => .recordIntent
  | .authorizeDispatch _ _ => .authorizeDispatch
  | .finalize _ _ _ => .finalize
  | .terminalizeUnknownBeforeDispatch _ _ => .unknownBeforeDispatch
  | .cancel _ _ => .cancel
  | .releaseUnused _ => .releaseUnused

def parentId : Request → String
  | .reserveParent parentId _ _ _ _ _ => parentId
  | .recordIntent parentId _ _ => parentId
  | .authorizeDispatch parentId _ => parentId
  | .finalize parentId _ _ => parentId
  | .terminalizeUnknownBeforeDispatch parentId _ => parentId
  | .cancel parentId _ => parentId
  | .releaseUnused parentId => parentId

def callId? : Request → Option String
  | .reserveParent _ _ _ _ _ _ => none
  | .recordIntent _ callId _ => some callId
  | .authorizeDispatch _ callId => some callId
  | .finalize _ callId _ => some callId
  | .terminalizeUnknownBeforeDispatch _ callId => some callId
  | .cancel _ callId => some callId
  | .releaseUnused _ => none

def payload : Request → OperationPayload
  | .reserveParent parentId source owner totalCost expiresAt claim =>
    .reserve parentId source owner totalCost expiresAt claim none
  | .recordIntent parentId callId cost => .intent parentId callId cost
  | .authorizeDispatch parentId callId => .call parentId callId
  | .finalize parentId callId outcome => .finalize parentId callId outcome
  | .terminalizeUnknownBeforeDispatch parentId callId => .call parentId callId
  | .cancel parentId callId => .call parentId callId
  | .releaseUnused parentId => .release parentId

def effectKey (request : Request) : String :=
  match request.callId? with
  | none => parentEffectKey request.kind request.parentId
  | some callId => callEffectKey request.kind request.parentId callId

def body (authority : ParentAuthority) (now : Time) (db : Database) :
    Request → Except AuthorityError Applied
  | .reserveParent parentId source owner totalCost expiresAt claim =>
    authority.reserveParent db parentId source owner totalCost expiresAt claim now
  | .recordIntent parentId callId cost => authority.recordIntent db parentId callId cost now
  | .authorizeDispatch parentId callId => authority.authorizeDispatch db parentId callId now
  | .finalize parentId callId outcome => authority.finalize db parentId callId outcome now
  | .terminalizeUnknownBeforeDispatch parentId callId =>
    authority.terminalizeBeforeDispatch db parentId callId (some .unknownBeforeDispatch) now
  | .cancel parentId callId => authority.terminalizeBeforeDispatch db parentId callId none now
  | .releaseUnused parentId => authority.releaseUnused db parentId now

end Request

/-- A call of one of the seven methods: its result, and the database it
leaves.  A raise rolls back. -/
def ParentAuthority.perform (authority : ParentAuthority) (db : Database)
    (operationId : String) (request : Request) (now : Time)
    (nonce : Digest) : Except AuthorityError AuthorityResult × Database :=
  let performed := do
    let checked ← request.normalized
    authority.operate db operationId checked.effectKey checked.kind
      checked.payload nonce fun db => checked.body authority now db
  match performed with
  | .ok (after, result) => (.ok result, after)
  | .error raised => (.error raised, db)

/-- `_initialize` on an empty file: the tables are created and the empty
journal is anchored. -/
def ParentAuthority.created (authority : ParentAuthority) : Except AuthorityError Database :=
  authority.writeGlobalCheckpoint
    { quota := QuotaLedger.initial, parents := [], calls := [], journal := [],
      parentCheckpoints := [], globalCheckpoint := none, external := none }
    0 0 journalZeroHash none

/-- What happens to the database: a window is declared in the shared quota
ledger, an operation is called, or the synchronisation with the external root
stores something in its own row. -/
inductive AuthorityCall where
  | declareWindow (source windowId : String) (startsAt resetsAt : Time) (totalUnits : ℤ)
  | perform (operationId : String) (request : Request) (now : Time) (nonce : Digest)
  | synchronize (external : Option ExternalStateRow)

def ParentAuthority.apply (authority : ParentAuthority) (db : Database) : AuthorityCall → Database
  | .declareWindow source windowId startsAt resetsAt totalUnits =>
    { db with
      quota := (db.quota.declareWindow source windowId startsAt resetsAt totalUnits).2 }
  | .perform operationId request now nonce => (authority.perform db operationId request now nonce).2
  | .synchronize external => { db with external }

end RQuant.Authority
