import RQuant.Authority.Evidence

/-!
# Parent quota authority: journal

Each accepted operation leaves one journal row with a signed receipt, a signed
copy of its result and its place in two hash chains, one for its parent and one
for the whole journal.  A replay checks one row.
-/

namespace RQuant.Authority

open Foundation Quota

section

variable (operation : OperationKind)

def operationPayload (parent : ParentSnapshot)
    (call : Option CallAllocation) : Except AuthorityError OperationPayload :=
  match operation, call with
  | .reserveParent, none =>
    .ok (.reserve parent.parentId parent.source parent.owner
      parent.totalCost parent.expiresAt parent.claim (some parent.terms))
  | .reserveParent, some _ => .error (.integrity "stored journal reserve result has call evidence")
  | .releaseUnused, none => .ok (.release parent.parentId)
  | .releaseUnused, some _ => .error (.integrity "stored journal release result has call evidence")
  | _, none => .error (.integrity "stored journal call result is missing")
  | .recordIntent, some recorded => .ok (.intent recorded.parentId recorded.callId recorded.cost)
  | .finalize, some recorded => do
    let outcome ← orRaise (.integrity "stored journal final outcome is missing") recorded.outcome
    pure (.finalize recorded.parentId recorded.callId outcome)
  | _, some recorded => .ok (.call recorded.parentId recorded.callId)

/-- `_operation_request_payload`: a reservation is requested without the terms
of the window it will be given. -/
def operationRequestPayload (parent : ParentSnapshot) (call : Option CallAllocation) :
    Except AuthorityError OperationPayload :=
  match operation, call with
  | .reserveParent, none =>
    .ok (.reserve parent.parentId parent.source parent.owner
      parent.totalCost parent.expiresAt parent.claim none)
  | kind, recorded => operationPayload kind parent recorded

def OperationKind.effectStem : OperationKind → String
  | .reserveParent => "reserve-parent"
  | .recordIntent => "record-intent"
  | .authorizeDispatch => "authorize-dispatch"
  | .finalize => "finalize"
  | .unknownBeforeDispatch => "unknown-before-dispatch"
  | .cancel => "cancel"
  | .releaseUnused => "release-unused"

def parentEffectKey (parentId : String) : String :=
  operation.effectStem ++ ":" ++ parentId

def callEffectKey (parentId callId : String) : String :=
  operation.effectStem ++ ":" ++ parentId ++ ":" ++ callId

end

def JournalRow.chainPayload (digests : AuthorityDigests) (row : JournalRow)
    (parentId : String) (parentOrdinal : ℕ) (previousOperationHash : Digest)
    (globalOrdinal : ℕ) (previousGlobalHash : Digest) : ChainPayload where
  parentId
  parentOrdinal
  previousOperationHash
  globalOrdinal
  previousGlobalHash
  operationId := row.operationId
  effectKey := row.effectKey
  operation := row.operation
  payloadHash := row.payloadHash
  requestHash := row.requestHash
  resultHash := row.resultHash
  integrityHash := row.integrityHash
  integritySignature := row.integritySignature
  receiptJsonHash := digests.receiptJsonHash row.receipt

def JournalRow.replayPayload (row : JournalRow) (authorityId keyId : String) : SigningPayload :=
  .replay authorityId row.operationId row.effectKey row.operation
    row.payloadHash row.resultHash row.integrityHash keyId

namespace ParentAuthority

variable (authority : ParentAuthority) (db : Database)

section

variable (row : JournalRow)

def validateReplayPayloadBinding : Except AuthorityError Unit := do
  require (authority.digests.replayPayloadHash row.parent row.call = row.integrityHash)
    (.integrity "stored journal replay payload hash conflicts")
  require
    (authority.signer.verify (row.replayPayload authority.authorityId authority.keyId)
      row.integritySignature)
    (.integrity "stored journal replay payload hash or signature conflicts")

def readJournalRow : Except AuthorityError AuthorityResult := do
  let receipt ← row.receipt.validated
  let calls ← row.parent.calls.mapM CallAllocation.fromRow
  let parent ← { row.parent with calls }.validated
  match row.call with
  | none => pure { receipt, parent, call := none }
  | some stored => do
    let call ← stored.fromRow
    pure { receipt, parent, call := some call }

def validateJournalRow : Except AuthorityError AuthorityResult := do
  let result ← orMalformed "stored quota operation journal is malformed" (readJournalRow row)
  let receipt := result.receipt
  let parent := result.parent
  require (receipt.authorityId = authority.authorityId ∧ receipt.keyId = authority.keyId)
    (.integrity "stored journal receipt authority conflicts")
  require (receipt.operationId = row.operationId ∧ receipt.effectKey = row.effectKey)
    (.integrity "stored journal receipt identity conflicts")
  require (receipt.operation = row.operation)
    (.integrity "stored journal receipt operation conflicts")
  require (receipt.claim = parent.claim)
    (.integrity "stored journal receipt claim binding conflicts")
  require (receipt.payloadHash = row.payloadHash ∧ receipt.resultHash = row.resultHash)
    (.integrity "stored journal receipt hash conflicts")
  require (authority.signer.verify receipt.signingBytes receipt.signature)
    (.integrity "stored journal receipt signature is invalid")
  validateOperationResultShape row.operation parent result.call
  db.validateImmutableResultEvidence row.operation parent result.call
  require (authority.digests.resultHashOf parent result.call = row.resultHash)
    (.integrity "stored journal result hash conflicts")
  let payload ← operationPayload row.operation parent result.call
  require (authority.digests.payloadHash payload = row.payloadHash)
    (.integrity "stored journal payload hash conflicts")
  let request ← operationRequestPayload row.operation parent result.call
  require (authority.digests.requestHash row.operation request = row.requestHash)
    (.integrity "stored journal request hash conflicts")
  pure result

def validateJournalChain (replayed : AuthorityResult) : Except AuthorityError Unit := do
  let found ← authority.validateParentCheckpoint db replayed.parent.parentId none false true
  let checkpoint ← orRaise (.integrity "stored journal chain parent checkpoint is missing") found
  let global ← orRaise (.integrity "stored journal chain global checkpoint is missing")
    db.globalCheckpoint
  require
    (row.parentId = replayed.parent.parentId ∧ 1 ≤ row.parentOrdinal ∧
      row.parentOrdinal ≤ checkpoint.operationCount ∧
      1 ≤ row.globalOrdinal ∧ row.globalOrdinal ≤ global.journalCount ∧
      row.operationHash =
        authority.digests.operationChainHash
          (row.chainPayload authority.digests row.parentId row.parentOrdinal
            row.previousOperationHash row.globalOrdinal
            row.previousGlobalHash))
    (.integrity "stored journal chain hash or ordinal conflicts")
  require
    (row.parentOrdinal = checkpoint.operationCount →
      row.operationHash = checkpoint.headOperationHash)
    (.integrity "stored journal chain does not reach parent checkpoint")

def replayOperation : Except AuthorityError AuthorityResult := do
  authority.validateReplayPayloadBinding row
  let result ← authority.validateJournalRow db row
  let _ ← authority.validateGlobalCheckpoint db
  authority.validateJournalChain db row result
  pure result

end

end ParentAuthority

end RQuant.Authority
