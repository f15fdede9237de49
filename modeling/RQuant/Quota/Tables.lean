import RQuant.Foundation.Table
import RQuant.Foundation.Text
import RQuant.Runtime

/-!
# The source quota ledger

Leases and attempts are read back through their contracts, so a read is a
computation that can raise.  Nothing is assumed of the digest that names a lease
and the text that names a calendar window.
-/

namespace RQuant.Quota

open Foundation

/-- What a call on the quota store raises.  `validation` is a contract that
rejects its fields: it carries the field or the text of the validator. -/
inductive QuotaError where
  | value (text : String)
  | validation (text : String)
  | conflict (text : String)
  | exhausted (text : String)
  | integrity (text : String)
  deriving DecidableEq

def maxResourceCount : ℤ := 2 ^ 63 - 1

/-- `identity_payload` of a lease. -/
structure LeaseIdentity where
  (source owner : String)
  units : ℤ
  (grantedAt expiresAt quotaResetAt : Time)
  deriving DecidableEq

structure SourceQuotaLease where
  leaseId : Digest
  identity : LeaseIdentity
  releasedAt : Option Time
  deriving DecidableEq

inductive WindowKind where
  | day
  | minute
  deriving DecidableEq

/-- The store's view of the world outside: the canonical digest of a lease and
the text `strftime` gives a calendar window. -/
structure SourceQuotaStore where
  leaseDigest : LeaseIdentity → Digest
  windowLabel : WindowKind → Time → String

/-- `validate_lease`, with the constraints of the fields.  A lease read back
brings its stored id. -/
def SourceQuotaStore.sourceQuotaLease (store : SourceQuotaStore)
    (leaseId : Option Digest) (identity : LeaseIdentity)
    (releasedAt : Option Time) : Except QuotaError SourceQuotaLease := do
  require (identity.source ≠ "") (.validation "source")
  require (identity.owner ≠ "") (.validation "owner")
  require (0 < identity.units ∧ identity.units ≤ maxResourceCount) (.validation "units")
  require (identity.grantedAt < identity.expiresAt)
    (.validation "expires_at must follow granted_at")
  require (identity.expiresAt ≤ identity.quotaResetAt)
    (.validation "quota_reset_at cannot precede expires_at")
  require (releasedAt.all fun released => decide (identity.grantedAt ≤ released))
    (.validation "released_at cannot precede granted_at")
  require (leaseId.all fun stored => decide (stored = store.leaseDigest identity))
    (.validation "lease_id does not match canonical lease content")
  pure { leaseId := store.leaseDigest identity, identity, releasedAt }

/-- `SourceQuotaAttemptOutcome`. -/
inductive AttemptOutcome where
  | pending
  | success
  | failure
  | unknown
  deriving DecidableEq

/-- `SourceQuotaAttempt`; the rows of `quota_attempt` have the same fields. -/
structure SourceQuotaAttempt where
  (attemptId source owner : String)
  leaseId : Digest
  units : ℤ
  preparedAt : Time
  dispatchedAt : Option Time
  outcome : AttemptOutcome
  committedAt : Option Time
  bootId : String
  (lastMonotonicNs lifecycleSequence clockRollbackCount : ℤ)
  deriving DecidableEq

namespace SourceQuotaAttempt

def validateLifecycle (attempt : SourceQuotaAttempt) : Except QuotaError Unit := do
  require (attempt.dispatchedAt.all fun dispatched => decide (attempt.preparedAt ≤ dispatched))
    (.validation "attempt dispatch precedes preparation")
  if attempt.outcome = .pending then
    require (attempt.committedAt = none) (.validation "pending attempt cannot be committed")
  else
    match attempt.committedAt with
    | none => .error (.validation "completed attempt requires committed_at")
    | some committed => do
      require (attempt.preparedAt ≤ committed)
        (.validation "attempt completion precedes preparation")
      require (attempt.dispatchedAt.all fun dispatched => decide (dispatched ≤ committed))
        (.validation "attempt completion precedes dispatch")

def fromRow (row : SourceQuotaAttempt) : Except QuotaError SourceQuotaAttempt := do
  require (¬ Blank row.attemptId) (.validation "attempt_id")
  require (¬ Blank row.source) (.validation "source")
  require (¬ Blank row.owner) (.validation "owner")
  require (0 < row.units) (.validation "units")
  require (¬ Blank row.bootId) (.validation "boot_id")
  require (0 ≤ row.lastMonotonicNs) (.validation "last_monotonic_ns")
  require (1 ≤ row.lifecycleSequence) (.validation "lifecycle_sequence")
  require (0 ≤ row.clockRollbackCount) (.validation "clock_rollback_count")
  row.validateLifecycle
  pure row

theorem fromRow_eq_ok (read : fromRow row = .ok attempt) : attempt = row ∧ 0 < row.units := by
  unfold fromRow at read
  simp only [run_eq_ok] at read
  obtain ⟨-, -, -, positive, -, -, -, -, -, rfl⟩ := read
  exact ⟨rfl, positive⟩

end SourceQuotaAttempt

/-- `quota_window`. -/
structure WindowRow where
  (source windowId : String)
  (startsAt resetsAt : Time)
  totalUnits : ℤ
  deriving DecidableEq

def WindowRow.key (window : WindowRow) : String × String := (window.source, window.windowId)

/-- `quota_lease`. -/
structure LeaseRow where
  leaseId : Digest
  (source windowId owner : String)
  (units usedUnits : ℤ)
  (grantedAt expiresAt quotaResetAt : Time)
  releasedAt : Option Time
  deriving DecidableEq

namespace LeaseRow

section

variable (lease : LeaseRow)

def windowKey : String × String := (lease.source, lease.windowId)

def ownerKey : String × String × String :=
  (lease.source, lease.windowId, lease.owner)

/-- `UPDATE quota_lease SET used_units = used_units + ?`. -/
def charge (units : ℤ) : LeaseRow :=
  { lease with usedUnits := lease.usedUnits + units }

/-- `UPDATE quota_lease SET released_at = ?`. -/
def release (time : Time) : LeaseRow := { lease with releasedAt := some time }

def identity : LeaseIdentity where
  source := lease.source
  owner := lease.owner
  units := lease.units
  grantedAt := lease.grantedAt
  expiresAt := lease.expiresAt
  quotaResetAt := lease.quotaResetAt

end

end LeaseRow

def SourceQuotaStore.leaseFromRow (store : SourceQuotaStore) (row : LeaseRow) :
    Except QuotaError SourceQuotaLease :=
  store.sourceQuotaLease (some row.leaseId) row.identity row.releasedAt

/-- `quota_usage`. -/
structure UsageRow where
  usageId : String
  leaseId : Digest
  units : ℤ
  consumedAt : Time
  deriving DecidableEq

/-- `quota_transport_attempt`. -/
structure TransportRow where
  (attemptId source logicalRequestId apiName : String)
  callOrdinal : ℤ
  deriving DecidableEq

def TransportRow.ordinalKey (row : TransportRow) : String × String × ℤ :=
  (row.source, row.logicalRequestId, row.callOrdinal)

instance TransportRow.decidableOrdinalTaken (row : TransportRow) (rows : List TransportRow) :
    Decidable (row.ordinalKey ∈ rows.map TransportRow.ordinalKey) :=
  inferInstance

/-- `quota_source_clock`. -/
structure SourceClockRow where
  source : String
  windowKind : WindowKind
  trustedAt : Time
  rollbackCount : ℤ
  deriving DecidableEq

structure QuotaLedger where
  windows : List WindowRow
  leases : List LeaseRow
  usages : List UsageRow
  attempts : List SourceQuotaAttempt
  transports : List TransportRow
  clocks : List SourceClockRow
  deriving DecidableEq

namespace QuotaLedger

def initial : QuotaLedger where
  windows := []
  leases := []
  usages := []
  attempts := []
  transports := []
  clocks := []

variable (ledger : QuotaLedger)

def leasesOf (window : String × String) : List LeaseRow :=
  ledger.leases.filter fun lease => lease.windowKey = window

def usagesOf (leaseId : Digest) : List UsageRow :=
  ledger.usages.filter fun usage => usage.leaseId = leaseId

def pendingOn (leaseId : Digest) : Bool :=
  ledger.attempts.any fun attempt => attempt.leaseId = leaseId ∧ attempt.outcome = .pending

/-- A lease whose unused units are still set aside: it has not been released,
and it has not expired or an attempt on it is pending. -/
def held (now : Time) (lease : LeaseRow) : Bool :=
  lease.releasedAt.isNone && (now < lease.expiresAt || ledger.pendingOn lease.leaseId)

/-- What a lease takes out of its window: the units used, and the unused ones
while they are held. -/
def owed (now : Time) (lease : LeaseRow) : ℤ :=
  lease.usedUnits +
    if ledger.held now lease then lease.units - lease.usedUnits else 0

/-- Insert a lease under its primary key and the key of its owner. -/
def insertLease (row : LeaseRow) : Except QuotaError QuotaLedger := do
  require (row.leaseId ∉ ledger.leases.map LeaseRow.leaseId)
    (.integrity "UNIQUE constraint failed: quota_lease.lease_id")
  require (row.ownerKey ∉ ledger.leases.map LeaseRow.ownerKey)
    (.integrity ("UNIQUE constraint failed: quota_lease.source, " ++
      "quota_lease.window_id, quota_lease.owner"))
  pure { ledger with leases := ledger.leases ++ [row] }

/-- Insert an attempt under its primary key; a lease has one attempt. -/
def insertAttempt (row : SourceQuotaAttempt) : Except QuotaError QuotaLedger := do
  require (row.attemptId ∉ ledger.attempts.map SourceQuotaAttempt.attemptId)
    (.integrity "UNIQUE constraint failed: quota_attempt.attempt_id")
  require (row.leaseId ∉ ledger.attempts.map SourceQuotaAttempt.leaseId)
    (.integrity "UNIQUE constraint failed: quota_attempt.lease_id")
  pure { ledger with attempts := ledger.attempts ++ [row] }

def insertUsage (row : UsageRow) : Except QuotaError QuotaLedger := do
  require (row.usageId ∉ ledger.usages.map UsageRow.usageId)
    (.integrity "UNIQUE constraint failed: quota_usage.usage_id")
  pure { ledger with usages := ledger.usages ++ [row] }

def insertTransport (row : TransportRow) : Except QuotaError QuotaLedger := do
  require (row.attemptId ∉ ledger.transports.map TransportRow.attemptId)
    (.integrity "UNIQUE constraint failed: quota_transport_attempt.attempt_id")
  require (row.ordinalKey ∉ ledger.transports.map TransportRow.ordinalKey)
    (.integrity ("UNIQUE constraint failed: quota_transport_attempt.source, " ++
      "quota_transport_attempt.logical_request_id, " ++
      "quota_transport_attempt.call_ordinal"))
  pure { ledger with transports := ledger.transports ++ [row] }

end QuotaLedger

end RQuant.Quota
