import RQuant.Quota.Store

/-!
# Parent quota authority: contracts

The values that cross the boundary, with the validators that run whenever one
is built or read back.  Digests and the receipt signer come from outside; a
payload is what the code serialises before it hashes or signs it.  Only a
signature can come with white space around it.
-/

namespace RQuant.Authority

open Foundation Quota

inductive RepairReason where
  | legacyDatabaseWithoutExternalBinding
  | externalRootMissing
  | externalRootAheadWithoutPendingProof
  | externalRootDivergesAtSameHighWater
  | localStateAheadOfExternalRoot
  | externalBindingChanged
  deriving DecidableEq

/-- What a call on the authority raises.  `validation` is a contract that
rejects its fields. -/
inductive AuthorityError where
  | value (text : String)
  | validation (text : String)
  | conflict (text : String)
  | exhausted (text : String)
  | integrity (text : String)
  | repairRequired (reason : RepairReason)
  deriving DecidableEq

/-- An error of the quota store inside an authority transaction; a violated
constraint of the database is reported as a conflict. -/
def AuthorityError.ofQuota : QuotaError → AuthorityError
  | .value text => .value text
  | .validation text => .validation text
  | .conflict text => .conflict text
  | .exhausted text => .exhausted text
  | .integrity _ => .conflict "quota authority unique constraint conflicts"

def liftQuota {α : Type} : Except QuotaError α → Except AuthorityError α
  | .ok value => .ok value
  | .error raised => .error (.ofQuota raised)

@[simp] theorem liftQuota_eq_ok : liftQuota computed = .ok value ↔ computed = .ok value := by
  cases computed <;> simp [liftQuota]

/-- Contracts and values that fail to be read are reported as `text`; an
integrity error passes. -/
def orMalformed {α : Type} (text : String) : Except AuthorityError α → Except AuthorityError α
  | .error (.value _) => .error (.integrity text)
  | .error (.validation _) => .error (.integrity text)
  | computed => computed

def requireNonempty (text label : String) : Except AuthorityError String := do
  require (strip text ≠ "") (.value (label ++ " must be nonempty"))
  pure (strip text)

@[simp] theorem requireNonempty_eq_ok :
    requireNonempty text label = .ok result ↔ strip text ≠ "" ∧ strip text = result := by
  unfold requireNonempty
  simp only [run_eq_ok]

/-- `SourceQuotaParentState`. -/
inductive ParentState where
  | open
  | closing
  | closed
  | compensated
  deriving DecidableEq

def ParentState.Released (state : ParentState) : Prop := state = .closed ∨ state = .compensated
deriving Decidable

/-- `SourceQuotaCallOutcome`. -/
inductive CallOutcome where
  | success
  | failure
  | unknown
  | unknownBeforeDispatch
  deriving DecidableEq

/-- `SourceQuotaCallState`. -/
inductive CallState where
  | intent
  | dispatchAuthorized
  | success
  | failure
  | unknown
  | cancelledBeforeDispatch
  deriving DecidableEq

namespace CallState

def Ended (state : CallState) : Prop := state = .success ∨ state = .failure ∨ state = .unknown
deriving Decidable

def Dispatched (state : CallState) : Prop := state = .dispatchAuthorized ∨ state.Ended
deriving Decidable

def Terminal (state : CallState) : Prop := state.Ended ∨ state = .cancelledBeforeDispatch
deriving Decidable

def outcome : CallState → Option CallOutcome
  | .success => some .success
  | .failure => some .failure
  | .unknown => some .unknown
  | _ => none

/-- `_CALL_REPLAY_TRANSITIONS`: the states a recorded call can be in later. -/
def replay : CallState → List CallState
  | .intent =>
    [.intent, .dispatchAuthorized, .success, .failure, .unknown, .cancelledBeforeDispatch]
  | .dispatchAuthorized => [.dispatchAuthorized, .success, .failure, .unknown]
  | .success => [.success]
  | .failure => [.failure]
  | .unknown => [.unknown]
  | .cancelledBeforeDispatch => [.cancelledBeforeDispatch]

end CallState

/-- `_PARENT_REPLAY_TRANSITIONS`; the code has no entry for a closing parent
and never looks one up. -/
def ParentState.replay : ParentState → List ParentState
  | .open => [.open, .closed, .compensated]
  | .closing => []
  | .closed => [.closed]
  | .compensated => [.compensated]

/-- `SourceQuotaOperationKind`. -/
inductive OperationKind where
  | reserveParent
  | recordIntent
  | authorizeDispatch
  | finalize
  | unknownBeforeDispatch
  | cancel
  | releaseUnused
  deriving DecidableEq

/-- `claim_binding_hash`, `claim_generation` and `scheduler_fencing_token`. -/
structure ClaimBinding where
  bindingHash : Digest
  (generation fencingToken : ℤ)
  deriving DecidableEq

/-- `SourceQuotaCallAllocation`; the rows of `source_call_allocation` have the
same fields. -/
structure CallAllocation where
  (callId parentId : String)
  cost : ℤ
  state : CallState
  outcome : Option CallOutcome
  intendedAt : Time
  (authorizedAt finalizedAt : Option Time)
  usageId : Option Digest
  deriving DecidableEq

namespace CallAllocation

/-- The terminal evidence of a call agrees with its state. -/
def validateOutcome (call : CallAllocation) : Except AuthorityError Unit :=
  if call.state.Ended then
    require (call.outcome = call.state.outcome ∧ call.finalizedAt ≠ none)
      (.validation "dispatched terminal call outcome conflicts with call state")
  else if call.state = .cancelledBeforeDispatch then
    if call.outcome = some .unknownBeforeDispatch then
      require (call.finalizedAt ≠ none)
        (.validation "pre-dispatch unknown requires terminal timestamp")
    else
      require (call.outcome = none ∧ call.finalizedAt ≠ none)
        (.validation "cancelled call has invalid terminal outcome")
  else
    require (call.outcome = none ∧ call.finalizedAt = none)
      (.validation "nonterminal call cannot have an outcome")

def InOrder (call : CallAllocation) : Prop :=
  (∀ authorized ∈ call.authorizedAt, call.intendedAt ≤ authorized) ∧
    (∀ finalized ∈ call.finalizedAt, call.intendedAt ≤ finalized) ∧
    ∀ authorized ∈ call.authorizedAt, ∀ finalized ∈ call.finalizedAt, authorized ≤ finalized
deriving Decidable

/-- `_call_from_row`, with `validate_lifecycle`. -/
def fromRow (row : CallAllocation) : Except AuthorityError CallAllocation := do
  require (¬ Blank row.callId) (.validation "call_id")
  require (¬ Blank row.parentId) (.validation "parent_id")
  require (0 < row.cost) (.validation "cost")
  require
    (if row.state.Dispatched then
      row.authorizedAt ≠ none ∧ row.usageId ≠ none
    else row.authorizedAt = none ∧ row.usageId = none)
    (.validation "call authorization and quota usage must agree with call state")
  row.validateOutcome
  require row.InOrder (.validation "call lifecycle timestamp order is invalid")
  pure row

end CallAllocation

/-- `SourceQuotaParentSnapshot`. -/
structure ParentSnapshot where
  (parentId source owner : String)
  claim : ClaimBinding
  leaseId : Digest
  totalCost : ℤ
  (reservedAt expiresAt : Time)
  windowId : String
  (windowStart windowEnd resetAt : Time)
  capacity : ℤ
  state : ParentState
  closedAt : Option Time
  (reservedCost consumedCost unusedReleased : ℤ)
  calls : List CallAllocation
  deriving DecidableEq

namespace ParentSnapshot

/-- `validate_accounting`, with the constraints of the fields. -/
def validated (parent : ParentSnapshot) : Except AuthorityError ParentSnapshot := do
  require (¬ Blank parent.parentId) (.validation "parent_id")
  require (¬ Blank parent.source) (.validation "source")
  require (¬ Blank parent.owner) (.validation "owner")
  require (1 ≤ parent.claim.generation) (.validation "claim_generation")
  require (1 ≤ parent.claim.fencingToken) (.validation "scheduler_fencing_token")
  require (0 < parent.totalCost) (.validation "total_cost")
  require (¬ Blank parent.windowId) (.validation "window_id")
  require (0 < parent.capacity) (.validation "capacity")
  require (0 < parent.reservedCost) (.validation "reserved_cost")
  require (0 ≤ parent.consumedCost) (.validation "consumed_cost")
  require (0 ≤ parent.unusedReleased) (.validation "unused_released")
  require (parent.windowStart ≤ parent.reservedAt ∧ parent.reservedAt < parent.windowEnd)
    (.validation "parent reservation is outside its quota window")
  require (parent.reservedAt < parent.expiresAt ∧ parent.expiresAt ≤ parent.resetAt)
    (.validation "parent expiry conflicts with its quota contract")
  require (parent.resetAt = parent.windowEnd)
    (.validation "parent quota reset conflicts with its quota window")
  require (parent.totalCost ≤ parent.capacity)
    (.validation "parent reservation exceeds its quota capacity")
  require (parent.reservedCost = parent.totalCost)
    (.validation "parent reserved cost must equal its total cost")
  require (parent.consumedCost ≤ parent.reservedCost)
    (.validation "parent consumption exceeds reservation")
  if parent.state.Released then do
    require (parent.closedAt ≠ none) (.validation "closed parent requires close timestamp")
    require (parent.reservedCost = parent.consumedCost + parent.unusedReleased)
      (.validation "closed parent accounting invariant fails")
  else
    require (parent.closedAt = none ∧ parent.unusedReleased = 0)
      (.validation "open parent cannot report released capacity")
  pure parent

/-- `_parent_clock_high_water`: the latest time a snapshot mentions. -/
def clockHighWater (parent : ParentSnapshot) : Time :=
  (parent.closedAt.toList ++
    parent.calls.flatMap fun call =>
      call.intendedAt :: (call.authorizedAt.toList ++ call.finalizedAt.toList)).foldl
    max parent.reservedAt

end ParentSnapshot

/-! ## Payloads that are hashed -/

structure WindowTerms where
  capacity : ℤ
  (resetAt windowEnd : Time)
  windowId : String
  windowStart : Time
  deriving DecidableEq

/-- The payload of an operation.  The payload of a reservation's request has no
window terms; the one in its receipt has. -/
inductive OperationPayload where
  | reserve (parentId source owner : String) (totalCost : ℤ)
      (expiresAt : Time) (claim : ClaimBinding) (terms : Option WindowTerms)
  | release (parentId : String)
  | intent (parentId callId : String) (cost : ℤ)
  | finalize (parentId callId : String) (outcome : CallOutcome)
  | call (parentId callId : String)
  deriving DecidableEq

def OperationPayload.parentId : OperationPayload → String
  | .reserve parentId _ _ _ _ _ _ => parentId
  | .release parentId => parentId
  | .intent parentId _ _ => parentId
  | .finalize parentId _ _ => parentId
  | .call parentId _ => parentId

structure TimelessCall where
  (callId parentId : String)
  cost : ℤ
  state : CallState
  outcome : Option CallOutcome
  deriving DecidableEq

def CallAllocation.timeless (call : CallAllocation) : TimelessCall where
  callId := call.callId
  parentId := call.parentId
  cost := call.cost
  state := call.state
  outcome := call.outcome

/-- What `_result_hash` covers: the effect of an operation without the times
the authority assigned. -/
structure ResultPayload where
  (parentId source owner : String)
  claim : ClaimBinding
  leaseId : Digest
  expiresAt : Time
  terms : WindowTerms
  totalCost : ℤ
  state : ParentState
  (reservedCost consumedCost unusedReleased : ℤ)
  calls : List TimelessCall
  call : Option TimelessCall
  deriving DecidableEq

def ParentSnapshot.terms (parent : ParentSnapshot) : WindowTerms where
  capacity := parent.capacity
  resetAt := parent.resetAt
  windowEnd := parent.windowEnd
  windowId := parent.windowId
  windowStart := parent.windowStart

def resultPayload (parent : ParentSnapshot) (call : Option CallAllocation) : ResultPayload where
  parentId := parent.parentId
  source := parent.source
  owner := parent.owner
  claim := parent.claim
  leaseId := parent.leaseId
  expiresAt := parent.expiresAt
  terms := parent.terms
  totalCost := parent.totalCost
  state := parent.state
  reservedCost := parent.reservedCost
  consumedCost := parent.consumedCost
  unusedReleased := parent.unusedReleased
  calls := (sortOn CallAllocation.callId parent.calls).map CallAllocation.timeless
  call := call.map CallAllocation.timeless

/-- `SourceQuotaOperationReceipt`. -/
structure OperationReceipt where
  (authorityId operationId effectKey : String)
  operation : OperationKind
  claim : ClaimBinding
  (payloadHash resultHash : Digest)
  (keyId signature : String)
  deriving DecidableEq

/-- Reading a receipt: the constraints of its fields, and the white space
around its signature removed. -/
def OperationReceipt.validated (receipt : OperationReceipt) :
    Except AuthorityError OperationReceipt := do
  require (¬ Blank receipt.authorityId) (.validation "authority_id")
  require (¬ Blank receipt.operationId) (.validation "operation_id")
  require (¬ Blank receipt.effectKey) (.validation "effect_key")
  require (1 ≤ receipt.claim.generation) (.validation "claim_generation")
  require (1 ≤ receipt.claim.fencingToken) (.validation "scheduler_fencing_token")
  require (¬ Blank receipt.keyId) (.validation "key_id")
  require (¬ Blank receipt.signature) (.validation "signature")
  pure { receipt with signature := strip receipt.signature }

/-- `SourceQuotaAuthorityResult`. -/
structure AuthorityResult where
  receipt : OperationReceipt
  parent : ParentSnapshot
  call : Option CallAllocation
  deriving DecidableEq

/-- The bytes that are signed, by the contract they carry. -/
inductive SigningPayload where
  | receipt (authorityId effectKey keyId : String) (operation : OperationKind)
      (operationId : String) (claim : ClaimBinding)
      (payloadHash resultHash : Digest)
  | replay (authorityId operationId effectKey : String) (operation : OperationKind)
      (payloadHash resultHash integrityHash : Digest) (keyId : String)
  | parentCheckpoint (authorityId parentId : String) (operationCount : ℕ)
      (headOperationHash materializedStateHash : Digest)
      (clockHighWater : Time) (keyId : String)
  | globalCheckpoint (authorityId : String) (journalCount mutationCounter : ℕ)
      (globalHeadHash : Digest) (clockHighWater : Option Time)
      (keyId : String)
  deriving DecidableEq

/-- `signing_bytes` of a receipt: everything but the signature. -/
def OperationReceipt.signingBytes (receipt : OperationReceipt) : SigningPayload :=
  .receipt receipt.authorityId receipt.effectKey receipt.keyId
    receipt.operation receipt.operationId receipt.claim receipt.payloadHash
    receipt.resultHash

/-- `SourceQuotaReceiptSigner`. -/
structure ReceiptSigner where
  sign : SigningPayload → String
  verify : SigningPayload → String → Bool

/-- What `_operation_chain_hash` covers. -/
structure ChainPayload where
  parentId : String
  parentOrdinal : ℕ
  previousOperationHash : Digest
  globalOrdinal : ℕ
  previousGlobalHash : Digest
  (operationId effectKey : String)
  operation : OperationKind
  (payloadHash requestHash resultHash integrityHash : Digest)
  integritySignature : String
  receiptJsonHash : Digest
  deriving DecidableEq

/-- `source_quota_operation`; the result and the receipt stand for the JSON
texts they are stored as. -/
structure JournalRow where
  (operationId effectKey : String)
  operation : OperationKind
  parentId : String
  parentOrdinal : ℕ
  previousOperationHash : Digest
  globalOrdinal : ℕ
  (previousGlobalHash payloadHash requestHash resultHash : Digest)
  parent : ParentSnapshot
  call : Option CallAllocation
  integrityHash : Digest
  integritySignature : String
  receipt : OperationReceipt
  operationHash : Digest
  deriving DecidableEq

/-- `source_quota_parent_checkpoint`. -/
structure ParentCheckpointRow where
  parentId : String
  operationCount : ℕ
  (headOperationHash materializedStateHash : Digest)
  clockHighWater : Time
  (keyId signature : String)
  deriving DecidableEq

/-- `source_quota_global_checkpoint`. -/
structure GlobalCheckpointRow where
  (journalCount mutationCounter : ℕ)
  globalHeadHash : Digest
  clockHighWater : Option Time
  (keyId signature : String)
  deriving DecidableEq

/-- `source_parent_reservation`. -/
structure ParentRow where
  (parentId source owner : String)
  claim : ClaimBinding
  leaseId : Digest
  totalCost : ℤ
  reservedAt : Time
  state : ParentState
  closedAt : Option Time
  deriving DecidableEq

/-- `SourceQuotaExternalCheckpoint`. -/
structure ExternalCheckpoint where
  authorityId : String
  bindingHash : Digest
  (journalCount mutationCounter : ℕ)
  globalHeadHash : Digest
  clockHighWater : Option Time
  signatureHash : Digest
  deriving DecidableEq

inductive RequestKind where
  | pin
  | advance
  deriving DecidableEq

/-- A mutation request, `ExternalMonotonicRootRequest`. -/
structure RootRequest where
  kind : RequestKind
  (operationId previousCheckpointHash : Digest)
  checkpoint : ExternalCheckpoint
  challengeNonce : Digest
  deriving DecidableEq

/-- `source_quota_external_root_state`. -/
structure ExternalStateRow where
  (bindingHash configHash acknowledged : Digest)
  acknowledgedReceipt : Option ExternalCheckpoint
  pending : Option RootRequest
  deriving DecidableEq

/-- The digests the authority takes.  Nothing is assumed of them here. -/
structure AuthorityDigests where
  requestHash : OperationKind → OperationPayload → Digest
  payloadHash : OperationPayload → Digest
  resultHash : ResultPayload → Digest
  replayPayloadHash : ParentSnapshot → Option CallAllocation → Digest
  operationChainHash : ChainPayload → Digest
  receiptJsonHash : OperationReceipt → Digest
  materializedHash : ParentSnapshot → Digest
  usageId : String → String → Digest
  signatureHash : String → Digest
  checkpointHash : ExternalCheckpoint → Digest
  pinOperation : Digest → Digest → Digest
  advanceOperation : String → Digest → Digest → Digest → Digest

/-- `SOURCE_QUOTA_JOURNAL_ZERO_HASH`, 64 zeros. -/
def journalZeroHash : Digest := 0

def AuthorityDigests.resultHashOf (digests : AuthorityDigests)
    (parent : ParentSnapshot) (call : Option CallAllocation) : Digest :=
  digests.resultHash (resultPayload parent call)

end RQuant.Authority
