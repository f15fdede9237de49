import RQuant.Lab.Reader

/-!
# Lab jobs: scheduler leases

A scheduler holds the lease of the store for a while.  Every lease has a
fencing token of its own, one more than any before it; the calls of a scheduler
name its lease, and are refused when the lease is released, has expired or is
no longer the newest.
-/

namespace RQuant.Lab

open Foundation

variable {now : Time}

namespace Ledger

variable (ledger : Ledger)

def unreleased (name : String) : List LabLeaseRecord :=
  ledger.leases.filter fun row => row.leaseName = name && row.releasedAt.isNone

def lastFencingToken : ℕ := (ledger.leases.map LabLeaseRecord.fencingToken).foldl max 0

/-- The rows after the expired lease `active`, if there is one, is released. -/
def releaseExpired (active : Option LabLeaseRecord) (now : Time) :
    Except LabError (List LabLeaseRecord) :=
  match active with
  | none => .ok ledger.leases
  | some row => do
    require (row.expiresAt ≤ now) (.leaseUnavailable ("scheduler lease is held by " ++ row.ownerId))
    pure
      (updateKey LabLeaseRecord.leaseId row.leaseId
        (fun held => { held with releasedAt := some now }) ledger.leases)

/-- `acquire_scheduler_lease`; `token` is the fresh UUID. -/
def acquireSchedulerLease (ownerId : String) (leaseSeconds : ℤ) (now : Time)
    (token : Uuid) : Except LabError (LabLeaseRecord × Ledger) := do
  require (¬ Blank ownerId) (.value "owner_id must not be empty")
  require (1 ≤ leaseSeconds) (.value "lease_seconds must be positive")
  let released ← ledger.releaseExpired (ledger.unreleased leaseName).getLast? now
  let lease : LabLeaseRecord :=
    { leaseId := ledger.leases.length + 1, leaseName, ownerId := strip ownerId, token,
      fencingToken := ledger.lastFencingToken + 1, acquiredAt := now, heartbeatAt := now,
      expiresAt := now + seconds leaseSeconds, releasedAt := none }
  require (token ∉ released.map LabLeaseRecord.token)
    (.integrity "UNIQUE constraint failed: lab_lease.token")
  require (∀ row ∈ released, row.leaseName = leaseName → row.releasedAt ≠ none)
    (.integrity "UNIQUE constraint failed: lab_lease.lease_name")
  pure (lease, { ledger with leases := released ++ [lease] })

def activeLease (name : String) : Option LabLeaseRecord :=
  (sortOn LabLeaseRecord.fencingToken (ledger.unreleased name)).getLast?

def staleLease : LabError := .leaseFenced "scheduler lease is stale or expired"

section

variable (lease : LabLeaseRecord)

def validateLease (now : Time) : Except LabError Unit := do
  let row ← orRaise staleLease (findKey LabLeaseRecord.leaseId lease.leaseId ledger.leases)
  require (row.token = lease.token) staleLease
  requirePositive "lab_lease.fencing_token" row.fencingToken
  require (row.fencingToken = lease.fencingToken ∧ row.releasedAt = none ∧ now < row.expiresAt)
    staleLease
  require ((ledger.activeLease lease.leaseName).map LabLeaseRecord.leaseId = some lease.leaseId)
    (.leaseFenced "scheduler lease has been superseded")

def renewSchedulerLease (leaseSeconds : ℤ)
    (now : Time) : Except LabError (LabLeaseRecord × Ledger) := do
  require (1 ≤ leaseSeconds) (.value "lease_seconds must be positive")
  ledger.validateLease lease now
  let expiresAt := now + seconds leaseSeconds
  pure
    ({ lease with heartbeatAt := now, expiresAt := expiresAt },
      { ledger with
        leases := updateKey LabLeaseRecord.leaseId lease.leaseId
          (fun row => { row with heartbeatAt := now, expiresAt := expiresAt })
          ledger.leases })

def releaseSchedulerLease (now : Time) :
    Except LabError (LabLeaseRecord × Ledger) := do
  ledger.validateLease lease now
  pure
    ({ lease with releasedAt := some now },
      { ledger with
        leases := updateKey LabLeaseRecord.leaseId lease.leaseId
          (fun row => { row with releasedAt := some now }) ledger.leases })

/-- A lease that is held: its row carries its token and fence, is not released
and has not expired. -/
structure Holds (now : Time) : Prop where
  stored : ∃ row ∈ ledger.leases, row.leaseId = lease.leaseId ∧
    row.token = lease.token ∧ row.fencingToken = lease.fencingToken ∧
    row.releasedAt = none ∧ now < row.expiresAt
  positive : 1 ≤ lease.fencingToken

end

variable {ledger}

theorem holds_of_validateLease (valid : ledger.validateLease lease now = .ok ()) :
    ledger.Holds lease now := by
  unfold validateLease requirePositive at valid
  simp only [run_eq_ok, orRaise_eq_ok] at valid
  obtain ⟨row, found, sameToken, positive, ⟨sameFence, unreleased, unexpired⟩, -⟩ := valid
  obtain ⟨mem, sameId⟩ := mem_of_findKey found
  exact ⟨⟨row, mem, sameId, sameToken, sameFence, unreleased, unexpired⟩, sameFence ▸ positive⟩

end Ledger

end RQuant.Lab
