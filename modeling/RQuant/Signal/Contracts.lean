import RQuant.Foundation.Table
import RQuant.Foundation.Text
import RQuant.Runtime

/-!
# Routing and delivery contracts

A contract whose validator rejects a value before any store call sees it
carries the validator's conditions as fields.  `OutboxRecord` is built from a
stored row on every read, so its validator is a computation that can raise.  Of
an envelope, what the bus does not read is one opaque body.
-/

namespace RQuant.Signal

open Foundation

/-- What a call on the signal bus raises, with its text. -/
inductive BusError where
  | value (text : String)
  | activation (text : String)
  | lease (text : String)
  | conflict (text : String)
  | sequence (text : String)
  | sourceSequence (text : String)
  | missing (text : String)
  | integrity (text : String)
  | overflow (text : String)
  | encoding (text : String)
  deriving DecidableEq

/-- `SignalEnvelope`, the legacy family. -/
structure SignalEnvelope where
  signalId : Digest
  (availableAt expiresAt : Time)
  body : String
  available_before_expiry : availableAt < expiresAt
  deriving DecidableEq

/-- The legacy and the current family; the current one is read only. -/
inductive SignalEnvelopeFamily where
  | legacy (signal : SignalEnvelope)
  | current (signal : SignalEnvelope)
  deriving DecidableEq

def requireLegacySignalWrite (operation : String) : SignalEnvelopeFamily →
    Except BusError SignalEnvelope
  | .legacy signal => .ok signal
  | .current _ =>
    .error (.activation (operation ++ " is legacy-only in this reader-only release; " ++
      "current-family writes are not activated"))

inductive DeliveryChannel where
  | pushdeer
  | pushplus
  deriving DecidableEq

def DeliveryChannel.text : DeliveryChannel → String
  | .pushdeer => "pushdeer"
  | .pushplus => "pushplus"

structure DeliveryTarget where
  recipientId : String
  channel : DeliveryChannel
  recipientId_stripped : Stripped recipientId
  deriving DecidableEq

def DeliveryTarget.key (target : DeliveryTarget) : String ×ₗ String :=
  toLex (target.recipientId, target.channel.text)

/-- `canonical_delivery_targets`: distinct targets in order. -/
def canonicalDeliveryTargets (targets : List DeliveryTarget) : List DeliveryTarget :=
  sortOn DeliveryTarget.key targets.dedup

theorem mem_canonicalDeliveryTargets :
    target ∈ canonicalDeliveryTargets targets ↔ target ∈ targets := by
  unfold canonicalDeliveryTargets
  rw [mem_sortOn, List.mem_dedup]

inductive RouteDecisionKind where
  | route
  | noTarget
  deriving DecidableEq

/-- The digests the bus takes: of a delivery target, a stored payload, a
target manifest and a routing decision.  Nothing is assumed of them here. -/
structure SignalDigests where
  deliveryKey : Digest → DeliveryTarget → Digest
  payloadHash : SignalEnvelope → Digest
  manifestHash : List DeliveryTarget → Digest
  routingDecision : Digest → RouteDecisionKind → List DeliveryTarget → Option String → Digest

inductive OutboxStatus where
  | pending
  | leased
  | retry
  | succeeded
  | expired
  | deadLetter
  deriving DecidableEq

namespace OutboxStatus

/-- `_TERMINAL_STATUSES`. -/
def Terminal (status : OutboxStatus) : Prop :=
  status = .succeeded ∨ status = .expired ∨ status = .deadLetter
deriving Decidable

def Waiting (status : OutboxStatus) : Prop := status = .pending ∨ status = .retry
deriving Decidable

variable {status : OutboxStatus}

theorem Waiting.not_terminal (waiting : status.Waiting) : ¬ status.Terminal := by
  rcases waiting with rfl | rfl <;> decide

theorem Waiting.ne_leased (waiting : status.Waiting) : status ≠ .leased := by
  rcases waiting with rfl | rfl <;> decide

end OutboxStatus

structure OutboxRecord where
  (outboxId signalId : Digest)
  target : DeliveryTarget
  status : OutboxStatus
  expiresAt : Time
  attemptCount : ℕ
  nextAttemptAt : Option Time
  leaseOwner : Option String
  leaseUntil : Option Time
  lastError : Option String
  (createdAt updatedAt : Time)
  deriving DecidableEq

namespace OutboxRecord

/-- `OutboxRecord.validate_record`, check by check. -/
def validateRecord (digests : SignalDigests) (record : OutboxRecord) : Except BusError Unit := do
  require (record.createdAt < record.expiresAt) (.value "expires_at must be after created_at")
  require (record.createdAt ≤ record.updatedAt) (.value "updated_at must be at or after created_at")
  require (record.status.Terminal ∨ record.updatedAt < record.expiresAt)
    (.value "active outbox updated_at must be before expires_at")
  require (∀ next ∈ record.nextAttemptAt, record.updatedAt ≤ next)
    (.value "next_attempt_at must be at or after updated_at")
  require (∀ next ∈ record.nextAttemptAt, next < record.expiresAt)
    (.value "next_attempt_at must be before expires_at")
  require (record.leaseOwner.isSome = record.leaseUntil.isSome)
    (.value "lease_owner and lease_until must be provided together")
  require (record.status = .leased → record.leaseOwner.isSome = true)
    (.value "leased records require lease_owner and lease_until")
  require (record.status = .leased → ∀ deadline ∈ record.leaseUntil, record.updatedAt < deadline)
    (.value "lease_until must be after updated_at")
  require (record.status = .leased → ∀ deadline ∈ record.leaseUntil, deadline ≤ record.expiresAt)
    (.value "lease_until cannot be after expires_at")
  require (record.status = .leased ∨ record.leaseOwner = none)
    (.value "lease fields are only valid while status is leased")
  require (record.status.Terminal → record.nextAttemptAt = none ∧ record.leaseOwner = none)
    (.value "terminal records cannot have a next attempt or lease")
  require (record.status = .expired ∨ record.status = .deadLetter → record.lastError.isSome = true)
    (.value "expired and dead-letter records require last_error")
  require (record.status = .retry → record.nextAttemptAt.isSome = true)
    (.value "retry records require next_attempt_at")
  require (record.status = .retry → record.lastError.isSome = true)
    (.value "retry records require last_error")
  require (record.outboxId = digests.deliveryKey record.signalId record.target)
    (.value "outbox_id does not match signal and delivery target")

end OutboxRecord

inductive RouterDisposition where
  | accepted
  | duplicate
  | quarantined
  deriving DecidableEq

structure RouterReceipt where
  signalId : Digest
  disposition : RouterDisposition
  globalSequence : Option ℕ
  reason : Option String
  receivedAt : Time
  deriving DecidableEq

inductive RouteReceiptDisposition where
  | routed
  | noTarget
  | expired
  deriving DecidableEq

structure RouteSourceDescriptor where
  sourceId : String
  (generationId strategySpecFingerprint : Digest)
  (firstSequence highWatermark : ℕ)
  sourceId_stripped : Stripped sourceId
  firstSequence_pos : 1 ≤ firstSequence
  start_le_watermark : firstSequence ≤ highWatermark + 1
  deriving DecidableEq

structure SignalRouteReceipt where
  sourceId : String
  sourceSequence : ℕ
  (signalId decisionFingerprint : Digest)
  disposition : RouteReceiptDisposition
  reasonCode : Option String
  targetManifestHash : Digest
  targets : List DeliveryTarget
  targetCount : ℕ
  routedAt : Time
  deriving DecidableEq

def SignalRouteReceipt.validateTargets (receipt : SignalRouteReceipt) : Except BusError Unit := do
  require (receipt.targetCount = receipt.targets.length)
    (.value "target_count does not match targets")
  require
    (receipt.disposition = .noTarget → receipt.targets = [] ∧ receipt.reasonCode.isSome = true)
    (.value "no-target receipts require a reason and no targets")
  require (receipt.disposition ≠ .noTarget → receipt.targets ≠ [] ∧ receipt.reasonCode = none)
    (.value "routed receipts require targets and forbid a reason")

end RQuant.Signal
