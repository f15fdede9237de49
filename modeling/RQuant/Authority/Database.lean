import RQuant.Authority.Contracts

/-!
# Parent quota authority: database

The tables of the authority, which share a file with the quota ledger, and the
snapshots that are read from them.
-/

namespace RQuant.Authority

open Foundation Quota

structure Database where
  quota : QuotaLedger
  parents : List ParentRow
  calls : List CallAllocation
  journal : List JournalRow
  parentCheckpoints : List ParentCheckpointRow
  globalCheckpoint : Option GlobalCheckpointRow
  external : Option ExternalStateRow
  deriving DecidableEq

/-- What an authority with an external root is bound to. -/
structure RootBinding where
  (bindingHash configHash : Digest)
  deriving DecidableEq

/-- `SourceQuotaParentAuthority`, configured.  Without a root it is the
standalone authority. -/
structure ParentAuthority where
  (authorityId keyId : String)
  signer : ReceiptSigner
  digests : AuthorityDigests
  store : SourceQuotaStore
  root : Option RootBinding
  authorityId_stripped : Stripped authorityId
  keyId_stripped : Stripped keyId

namespace Database

variable (db : Database)

section

variable (parentId : String)

def parentRow : Option ParentRow :=
  findKey ParentRow.parentId parentId db.parents

def callRow (callId : String) : Option CallAllocation :=
  findKey CallAllocation.callId callId db.calls

def leaseRow (leaseId : Digest) : Option LeaseRow :=
  findKey LeaseRow.leaseId leaseId db.quota.leases

def windowRow (source windowId : String) : Option WindowRow :=
  findKey WindowRow.key (source, windowId) db.quota.windows

def callsOf : List CallAllocation :=
  db.calls.filter fun call => call.parentId = parentId

def orderedCalls : List CallAllocation :=
  sortOn (fun call => toLex (call.intendedAt, call.callId)) (db.callsOf parentId)

def readCalls : Except AuthorityError (List CallAllocation) :=
  (db.orderedCalls parentId).mapM CallAllocation.fromRow

def requireParentLease (parent : ParentRow) : Except AuthorityError LeaseRow :=
  orRaise (.integrity "parent quota lease is missing") (db.leaseRow parent.leaseId)

def requireOpenParent : Except AuthorityError ParentRow := do
  let parent ← orRaise (.conflict "parent reservation does not exist") (db.parentRow parentId)
  require (parent.state = .open) (.conflict "parent reservation is not open")
  pure parent

end

def requireCall (callId parentId : String) : Except AuthorityError CallAllocation := do
  let call ← orRaise (.conflict "call allocation does not belong to parent") (db.callRow callId)
  require (call.parentId = parentId) (.conflict "call allocation does not belong to parent")
  pure call

def assemble (parent : ParentRow) (lease : LeaseRow) (window : WindowRow)
    (calls : List CallAllocation) : ParentSnapshot where
  parentId := parent.parentId
  source := parent.source
  owner := parent.owner
  claim := parent.claim
  leaseId := parent.leaseId
  totalCost := parent.totalCost
  reservedAt := parent.reservedAt
  expiresAt := lease.expiresAt
  windowId := window.windowId
  windowStart := window.startsAt
  windowEnd := window.resetsAt
  resetAt := lease.quotaResetAt
  capacity := window.totalUnits
  state := parent.state
  closedAt := parent.closedAt
  reservedCost := parent.totalCost
  consumedCost := lease.usedUnits
  unusedReleased := if parent.state.Released then parent.totalCost - lease.usedUnits else 0
  calls

def snapshotParent (parentId : String) : Except AuthorityError ParentSnapshot := do
  let parent ← orRaise (.integrity "parent disappeared during transaction") (db.parentRow parentId)
  let lease ← db.requireParentLease parent
  let window ← orRaise (.integrity "parent quota window is missing")
    (db.windowRow lease.source lease.windowId)
  let calls ← db.readCalls parentId
  (assemble parent lease window calls).validated

def snapshotCall (callId : String) : Except AuthorityError CallAllocation := do
  let row ← orRaise (.integrity "call disappeared during transaction") (db.callRow callId)
  row.fromRow

end Database

namespace ParentAuthority

variable (authority : ParentAuthority) (db : Database)

def validateGlobalCheckpoint : Except AuthorityError GlobalCheckpointRow := do
  let row ← orRaise (.integrity "stored journal chain global checkpoint is missing")
    db.globalCheckpoint
  require
    (row.mutationCounter = row.journalCount ∧ row.keyId = authority.keyId ∧
      authority.signer.verify
        (.globalCheckpoint authority.authorityId row.journalCount
          row.mutationCounter row.globalHeadHash row.clockHighWater row.keyId)
        row.signature)
    (.integrity "stored journal chain checkpoint hash/signature conflicts")
  pure row

/-- `_validate_parent_checkpoint`.  A caller that has just taken the snapshot
passes it on. -/
def validateParentCheckpoint (parentId : String) (expectedParent : Option ParentSnapshot)
    (validateGlobal validateMaterialized : Bool) :
    Except AuthorityError (Option ParentCheckpointRow) := do
  if validateGlobal then
    let _ ← authority.validateGlobalCheckpoint db
  match findKey ParentCheckpointRow.parentId parentId db.parentCheckpoints,
      db.parentRow parentId with
  | none, none => pure none
  | none, some _ => .error (.integrity "stored journal chain parent checkpoint is missing")
  | some _, none => .error (.integrity "stored journal chain checkpoint parent is missing")
  | some row, some _ => do
    let parent ←
      if validateMaterialized then do
        let taken ← match expectedParent with
          | some parent => pure parent
          | none => db.snapshotParent parentId
        pure (some taken)
      else pure none
    require
      (row.keyId = authority.keyId ∧
        authority.signer.verify
          (.parentCheckpoint authority.authorityId parentId row.operationCount row.headOperationHash
            row.materializedStateHash row.clockHighWater row.keyId)
          row.signature)
      (.integrity "stored journal chain parent checkpoint signature conflicts")
    require (1 ≤ row.operationCount)
      (.integrity "stored journal chain parent checkpoint shape conflicts")
    require
      (parent.all fun taken => decide
        (row.materializedStateHash = authority.digests.materializedHash taken ∧
          row.clockHighWater = taken.clockHighWater))
      (.integrity "stored journal chain does not reach durable high-water")
    pure (some row)

def writeParentCheckpoint (parent : ParentSnapshot) (operationCount : ℕ)
    (headOperationHash : Digest) : Except AuthorityError Database := do
  let payload : SigningPayload :=
    .parentCheckpoint authority.authorityId parent.parentId operationCount
      headOperationHash (authority.digests.materializedHash parent)
      parent.clockHighWater authority.keyId
  let signature := authority.signer.sign payload
  require (authority.signer.verify payload signature)
    (.integrity "signer returned an unverifiable parent checkpoint")
  pure { db with
    parentCheckpoints := upsertKey ParentCheckpointRow.parentId
      { parentId := parent.parentId, operationCount, headOperationHash,
        materializedStateHash := authority.digests.materializedHash parent,
        clockHighWater := parent.clockHighWater, keyId := authority.keyId, signature }
      db.parentCheckpoints }

def writeGlobalCheckpoint (journalCount mutationCounter : ℕ)
    (globalHeadHash : Digest) (clockHighWater : Option Time) :
    Except AuthorityError Database := do
  let payload : SigningPayload :=
    .globalCheckpoint authority.authorityId journalCount mutationCounter
      globalHeadHash clockHighWater authority.keyId
  let signature := authority.signer.sign payload
  require (authority.signer.verify payload signature)
    (.integrity "signer returned an unverifiable global checkpoint")
  pure { db with
    globalCheckpoint := some
      { journalCount
        mutationCounter
        globalHeadHash
        clockHighWater
        keyId := authority.keyId
        signature } }

def rejectClockRollback (observedAt : Time) : Except AuthorityError Unit := do
  let checkpoint ← authority.validateGlobalCheckpoint db
  require (∀ trusted ∈ checkpoint.clockHighWater, trusted ≤ observedAt)
    (.conflict "authority clock rollback")

end ParentAuthority

end RQuant.Authority
