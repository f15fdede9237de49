import RQuant.Quota.Tables

/-!
# The source quota store

Each operation is one transaction: a raise inside it rolls back, and what a
call reads back after its commit can only change its answer.  Callers bring
their own times, and for attempts their boot id and monotonic clock.
-/

namespace RQuant.Quota

open Foundation

/-- A transaction body gives the tables it commits, and an answer that is
computed after the commit. -/
def transaction {α : Type}
    (body : QuotaLedger → Except QuotaError (QuotaLedger × Except QuotaError α))
    (ledger : QuotaLedger) : Except QuotaError α × QuotaLedger :=
  match body ledger with
  | .ok (committed, answer) => (answer, committed)
  | .error raised => (.error raised, ledger)

theorem transaction_cases
    (body : QuotaLedger → Except QuotaError (QuotaLedger × Except QuotaError α))
    (ledger : QuotaLedger) :
    (transaction body ledger).2 = ledger ∨
      ∃ answer, body ledger = .ok ((transaction body ledger).2, answer) := by
  unfold transaction
  cases executed : body ledger with
  | error raised => exact .inl rfl
  | ok done => exact .inr ⟨done.2, rfl⟩

structure ProcessClock where
  bootId : String
  monotonicNs : ℤ
  deriving DecidableEq

namespace QuotaLedger

variable (ledger : QuotaLedger)

/-- A window of the same source that shares time with the given one. -/
def overlapping (window : WindowRow) : Option WindowRow :=
  ledger.windows.find? fun other =>
    other.source = window.source ∧ other.startsAt < window.resetsAt ∧
      window.startsAt < other.resetsAt

/-- Store a window; a stored one must have the same contract. -/
def ensureWindow (window : WindowRow) : Except QuotaError QuotaLedger :=
  match findKey WindowRow.key window.key ledger.windows with
  | some existing => do
    require (existing = window) (.conflict "quota window contract conflicts")
    pure ledger
  | none =>
    match ledger.overlapping window with
    | some overlap => .error (.conflict ("quota window overlaps " ++ overlap.windowId))
    | none => .ok { ledger with windows := ledger.windows ++ [window] }

def declareWindow (source windowId : String) (startsAt resetsAt : Time)
    (totalUnits : ℤ) : Except QuotaError Unit × QuotaLedger :=
  transaction
    (fun ledger => do
      require (strip source ≠ "" ∧ strip windowId ≠ "")
        (.value "source and window_id must be nonempty")
      require (startsAt < resetsAt) (.value "resets_at must follow starts_at")
      require (1 ≤ totalUnits) (.value "total_units must be positive")
      let committed ← ledger.ensureWindow {
        source := strip source
        windowId := strip windowId
        startsAt
        resetsAt
        totalUnits }
      pure (committed, .ok ()))
    ledger

/-- `_active_window`: the latest window of the source that is open. -/
def activeWindow (source : String) (now : Time) : Except QuotaError WindowRow :=
  orRaise (.exhausted ("no active window for source " ++ source))
    (sortOn (fun window => -window.startsAt)
      (ledger.windows.filter fun window =>
        window.source = source ∧ window.startsAt ≤ now ∧ now < window.resetsAt)).head?

def remainingInWindow (window : WindowRow) (now : Time) : ℤ :=
  window.totalUnits - ((ledger.leasesOf window.key).map LeaseRow.usedUnits).sum -
    ((ledger.leasesOf window.key).map fun lease =>
      if ledger.held now lease then lease.units - lease.usedUnits else 0).sum

def remaining (source : String) (now : Time) : Except QuotaError ℤ := do
  let window ← ledger.activeWindow source now
  pure (ledger.remainingInWindow window now)

def consume (leaseId : Digest) (usageId : String)
    (units : ℤ) (now : Time) : Except QuotaError Unit × QuotaLedger :=
  transaction
    (fun ledger => do
      require (strip usageId ≠ "") (.value "usage_id must be nonempty")
      require (1 ≤ units) (.value "units must be positive")
      let row ← orRaise (.conflict "quota lease does not exist")
        (findKey LeaseRow.leaseId leaseId ledger.leases)
      match findKey SourceQuotaAttempt.leaseId leaseId ledger.attempts with
      | some linked =>
        .error (.conflict ("quota attempt lease requires explicit completion " ++ linked.attemptId))
      | none =>
        match findKey UsageRow.usageId (strip usageId) ledger.usages with
        | some usage => do
          require (usage.leaseId = leaseId ∧ usage.units = units)
            (.conflict "usage_id retry conflicts")
          pure (ledger, .ok ())
        | none => do
          require (row.releasedAt = none ∧ now < row.expiresAt)
            (.conflict "quota lease is not active")
          require (row.usedUnits + units ≤ row.units)
            (.conflict "consumption exceeds reserved units")
          let committed ← insertUsage
            { ledger with
              leases := updateKey LeaseRow.leaseId leaseId
                (fun lease => lease.charge units) ledger.leases }
            { usageId := strip usageId, leaseId, units, consumedAt := now }
          pure (committed, .ok ()))
    ledger

end QuotaLedger

namespace SourceQuotaStore

variable (store : SourceQuotaStore)

/-- Lend units of a window: the part that `acquire`, `begin_attempt` and
`begin_transport_dispatch` share. -/
def grantLease (ledger : QuotaLedger) (window : WindowRow) (owner : String)
    (units : ℤ) (grantedAt expiresAt : Time) :
    Except QuotaError (QuotaLedger × SourceQuotaLease) := do
  let remaining := ledger.remainingInWindow window grantedAt
  require (units ≤ remaining)
    (.exhausted ("quota exhausted: requested=" ++ toString units ++
      ", remaining=" ++ toString remaining))
  let lease ← store.sourceQuotaLease none
    { source := window.source, owner, units, grantedAt, expiresAt, quotaResetAt := window.resetsAt }
    none
  let committed ← ledger.insertLease {
    leaseId := lease.leaseId
    source := window.source
    windowId := window.windowId
    owner
    units
    usedUnits := 0
    grantedAt
    expiresAt
    quotaResetAt := window.resetsAt
    releasedAt := none }
  pure (committed, lease)

def acquire (ledger : QuotaLedger) (source owner : String) (units : ℤ) (now expiresAt : Time) :
    Except QuotaError SourceQuotaLease × QuotaLedger :=
  transaction
    (fun ledger => do
      require (strip source ≠ "" ∧ strip owner ≠ "") (.value "source and owner must be nonempty")
      require (1 ≤ units) (.value "units must be positive")
      let window ← ledger.activeWindow (strip source) now
      require (now < expiresAt ∧ expiresAt ≤ window.resetsAt)
        (.value "expires_at must be after now and no later than reset")
      match findKey LeaseRow.ownerKey
          (strip source, window.windowId, strip owner) ledger.leases with
      | some existing => do
        require (existing.units = units ∧ existing.expiresAt = expiresAt)
          (.conflict "quota owner retry conflicts")
        pure (ledger, store.leaseFromRow existing)
      | none => do
        let (committed, lease) ← store.grantLease ledger window (strip owner) units now expiresAt
        pure (committed, .ok lease))
    ledger

def release (ledger : QuotaLedger) (leaseId : Digest) (now : Time) :
    Except QuotaError SourceQuotaLease × QuotaLedger :=
  transaction
    (fun ledger => do
      let row ← orRaise (.conflict "quota lease does not exist")
        (findKey LeaseRow.leaseId leaseId ledger.leases)
      match ledger.attempts.find? fun attempt =>
          attempt.leaseId = leaseId ∧ attempt.outcome = .pending with
      | some pending => .error (.conflict ("quota lease has pending attempt " ++ pending.attemptId))
      | none =>
        if row.releasedAt = none then do
          require (row.grantedAt ≤ now) (.conflict "release precedes grant")
          pure (
            { ledger with
              leases := updateKey LeaseRow.leaseId leaseId
                (fun lease => lease.release now) ledger.leases },
            store.leaseFromRow (row.release now))
        else
          pure (ledger, store.leaseFromRow row))
    ledger

def beginAttempt (ledger : QuotaLedger) (process : ProcessClock)
    (source owner attemptId : String) (units : ℤ) (now expiresAt : Time) :
    Except QuotaError SourceQuotaAttempt × QuotaLedger :=
  transaction
    (fun ledger => do
      require (0 ≤ process.monotonicNs) (.value "monotonic_ns must be nonnegative")
      require (strip source ≠ "" ∧ strip owner ≠ "" ∧ strip attemptId ≠ "")
        (.value "source, owner, and attempt_id must be nonempty")
      require (1 ≤ units) (.value "units must be positive")
      match findKey SourceQuotaAttempt.attemptId (strip attemptId) ledger.attempts with
      | some row => do
        let attempt ← row.fromRow
        require
          (attempt.source = strip source ∧ attempt.owner = strip owner ∧ attempt.units = units)
          (.conflict "quota attempt retry conflicts")
        pure (ledger, .ok attempt)
      | none => do
        let window ← ledger.activeWindow (strip source) now
        require (now < expiresAt ∧ expiresAt ≤ window.resetsAt)
          (.value "expires_at must be after now and no later than reset")
        require
          (findKey LeaseRow.ownerKey
            (strip source, window.windowId, strip owner) ledger.leases = none)
          (.conflict "quota owner already has an attempt")
        let (granted, lease) ← store.grantLease ledger window (strip owner) units now expiresAt
        let row : SourceQuotaAttempt := {
          attemptId := strip attemptId
          source := strip source
          owner := strip owner
          leaseId := lease.leaseId
          units
          preparedAt := now
          dispatchedAt := none
          outcome := .pending
          committedAt := none
          bootId := process.bootId
          lastMonotonicNs := process.monotonicNs
          lifecycleSequence := 1
          clockRollbackCount := 0 }
        let committed ← granted.insertAttempt row
        pure (committed, row.fromRow))
    ledger

end SourceQuotaStore

/-- The arguments of `begin_transport_dispatch`; `observed` is what its clock
returns inside the transaction. -/
structure TransportDispatch where
  (source owner attemptId logicalRequestId apiName : String)
  (callOrdinal units totalUnits : ℤ)
  windowKind : WindowKind
  observed : Time
  deriving DecidableEq

def TransportDispatch.binding (dispatch : TransportDispatch) : TransportRow where
  attemptId := strip dispatch.attemptId
  source := strip dispatch.source
  logicalRequestId := strip dispatch.logicalRequestId
  apiName := strip dispatch.apiName
  callOrdinal := dispatch.callOrdinal

namespace QuotaLedger

variable (ledger : QuotaLedger)

def latestAttempt (source : String) : Option Time :=
  ((ledger.attempts.filter fun attempt => attempt.source = source).map
    fun attempt => attempt.dispatchedAt.getD attempt.preparedAt).max?

/-- The trusted clock of a source never runs backwards: an observation before
it is counted as a rollback and replaced by it.  Returns the ledger with the
clock moved, the effective time and the number of rollbacks. -/
def trustClock (source : String) (windowKind : WindowKind) (observed : Time) :
    Except QuotaError (QuotaLedger × Time × ℤ) :=
  match findKey SourceClockRow.source source ledger.clocks with
  | none =>
    let trusted := (ledger.latestAttempt source).getD observed
    let effective := max observed trusted
    let rollback : ℤ := if observed < trusted then 1 else 0
    .ok (
      { ledger with
        clocks := ledger.clocks ++ [
          { source
            windowKind
            trustedAt := effective
            rollbackCount := rollback }] },
      effective, rollback)
  | some clock => do
    require (clock.windowKind = windowKind) (.conflict "source quota window kind conflicts")
    let effective := max observed clock.trustedAt
    let rollback : ℤ := if observed < clock.trustedAt then 1 else 0
    pure (
      { ledger with
        clocks := updateKey SourceClockRow.source source
          (fun row =>
            { row with trustedAt := effective, rollbackCount := row.rollbackCount + rollback })
          ledger.clocks },
      effective, rollback)

def bindTransportAttempt (attemptId source logicalRequestId apiName : String)
    (callOrdinal : ℤ) : Except QuotaError Unit × QuotaLedger :=
  transaction
    (fun ledger => do
      require
        (strip attemptId ≠ "" ∧ strip source ≠ "" ∧
          strip logicalRequestId ≠ "" ∧ strip apiName ≠ "")
        (.value ("attempt_id, source, logical_request_id, " ++ "and api_name must be nonempty"))
      require (1 ≤ callOrdinal) (.value "call_ordinal must be a positive int")
      let attempt ← orRaise (.conflict "quota transport attempt does not exist")
        (findKey SourceQuotaAttempt.attemptId (strip attemptId) ledger.attempts)
      require (attempt.source = strip source) (.conflict "quota transport attempt source conflicts")
      let binding : TransportRow := {
        attemptId := strip attemptId
        source := strip source
        logicalRequestId := strip logicalRequestId
        apiName := strip apiName
        callOrdinal }
      match findKey TransportRow.attemptId (strip attemptId) ledger.transports with
      | some existing => do
        require (existing = binding) (.conflict "quota transport attempt binding conflicts")
        pure (ledger, .ok ())
      | none => do
        require (binding.ordinalKey ∉ ledger.transports.map TransportRow.ordinalKey)
          (.conflict "quota transport call ordinal conflicts")
        let committed ← ledger.insertTransport binding
        pure (committed, .ok ()))
    ledger

end QuotaLedger

namespace SourceQuotaStore

variable (store : SourceQuotaStore)

/-- `_quota_window`: the day or the minute of a time, without its total. -/
def quotaWindow (windowKind : WindowKind) (observedAt : Time) : String × Time × Time :=
  let length : Time :=
    match windowKind with
    | .day => 86400000000
    | .minute => 60000000
  let startsAt := observedAt - observedAt % length
  (store.windowLabel windowKind startsAt, startsAt, startsAt + length)

def retryTransportDispatch (ledger : QuotaLedger)
    (dispatch : TransportDispatch) (row : SourceQuotaAttempt) :
    Except QuotaError (QuotaLedger × SourceQuotaAttempt) := do
  let existing ← row.fromRow
  require
    (existing.source = strip dispatch.source ∧
      existing.owner = strip dispatch.owner ∧ existing.units = dispatch.units)
    (.conflict "quota attempt retry conflicts")
  match findKey TransportRow.attemptId (strip dispatch.attemptId) ledger.transports with
  | none => do
    let committed ← ledger.insertTransport dispatch.binding
    pure (committed, existing)
  | some binding => do
    require (binding = dispatch.binding) (.conflict "quota transport attempt binding conflicts")
    pure (ledger, existing)

/-- The first dispatch of an attempt: move the source's clock, open the
calendar window, lend the units, and store the attempt as dispatched. -/
def newTransportDispatch (ledger : QuotaLedger) (process : ProcessClock)
    (dispatch : TransportDispatch) :
    Except QuotaError (QuotaLedger × SourceQuotaAttempt) := do
  let source := strip dispatch.source
  let owner := strip dispatch.owner
  let (trusted, effective, rollback) ←
    ledger.trustClock source dispatch.windowKind dispatch.observed
  let (windowId, startsAt, resetsAt) := store.quotaWindow dispatch.windowKind effective
  let window : WindowRow := {
    source
    windowId
    startsAt
    resetsAt
    totalUnits := dispatch.totalUnits }
  let opened ← trusted.ensureWindow window
  require (findKey LeaseRow.ownerKey (source, windowId, owner) opened.leases = none)
    (.conflict "quota owner already has an attempt")
  let (granted, lease) ← store.grantLease opened window owner dispatch.units effective resetsAt
  let row : SourceQuotaAttempt := {
    attemptId := strip dispatch.attemptId
    source
    owner
    leaseId := lease.leaseId
    units := dispatch.units
    preparedAt := effective
    dispatchedAt := some effective
    outcome := .pending
    committedAt := none
    bootId := process.bootId
    lastMonotonicNs := process.monotonicNs
    lifecycleSequence := 2
    clockRollbackCount := rollback }
  let prepared ← granted.insertAttempt row
  let committed ← prepared.insertTransport dispatch.binding
  pure (committed, row)

/-- `begin_transport_dispatch`; the flag tells a new dispatch from a retry. -/
def beginTransportDispatch (ledger : QuotaLedger) (process : ProcessClock)
    (dispatch : TransportDispatch) :
    Except QuotaError (SourceQuotaAttempt × Bool) × QuotaLedger :=
  transaction
    (fun ledger => do
      require
        (strip dispatch.source ≠ "" ∧ strip dispatch.owner ≠ "" ∧ strip dispatch.attemptId ≠ "" ∧
          strip dispatch.logicalRequestId ≠ "" ∧ strip dispatch.apiName ≠ "")
        (.value "transport attempt identifiers must be nonempty")
      require (1 ≤ dispatch.callOrdinal) (.value "call_ordinal must be a positive int")
      require (1 ≤ dispatch.units ∧ 1 ≤ dispatch.totalUnits)
        (.value "transport quota units must be positive")
      require (0 ≤ process.monotonicNs) (.value "monotonic_ns must be nonnegative")
      match findKey SourceQuotaAttempt.attemptId (strip dispatch.attemptId) ledger.attempts with
      | some row => do
        let (committed, existing) ← retryTransportDispatch ledger dispatch row
        pure (committed, .ok (existing, false))
      | none => do
        let (committed, row) ← store.newTransportDispatch ledger process dispatch
        pure (committed, do
          let attempt ← row.fromRow
          pure (attempt, true)))
    ledger

end SourceQuotaStore

section

variable (attempt : SourceQuotaAttempt)

/-- The fields `mark_dispatched` sets. -/
def SourceQuotaAttempt.dispatch (observed : Time) (monotonicNs : ℤ) : SourceQuotaAttempt :=
  { attempt with
    dispatchedAt := some (max observed attempt.preparedAt)
    lastMonotonicNs := monotonicNs
    lifecycleSequence := attempt.lifecycleSequence + 1
    clockRollbackCount := attempt.clockRollbackCount +
      if observed < attempt.preparedAt then 1 else 0 }

/-- The earliest time an attempt can be completed at. -/
def SourceQuotaAttempt.floor : Time :=
  attempt.dispatchedAt.getD attempt.preparedAt

/-- The fields `_complete_attempt` sets. -/
def SourceQuotaAttempt.complete (outcome : AttemptOutcome) (observed : Time) (monotonicNs : ℤ) :
    SourceQuotaAttempt :=
  { attempt with
    outcome
    committedAt := some (max observed attempt.floor)
    lastMonotonicNs := monotonicNs
    lifecycleSequence := attempt.lifecycleSequence + 1
    clockRollbackCount := attempt.clockRollbackCount + if observed < attempt.floor then 1 else 0 }

end

namespace QuotaLedger

variable (ledger : QuotaLedger)

section

variable (process : ProcessClock) (attemptId : String)

def markDispatched (now : Time) : Except QuotaError SourceQuotaAttempt × QuotaLedger :=
  transaction
    (fun ledger => do
      require (0 ≤ process.monotonicNs) (.value "monotonic_ns must be nonnegative")
      let row ← orRaise (.conflict "quota attempt does not exist")
        (findKey SourceQuotaAttempt.attemptId attemptId ledger.attempts)
      let attempt ← row.fromRow
      require (attempt.outcome = .pending) (.conflict "quota attempt is already completed")
      if attempt.dispatchedAt = none then
        pure (
          { ledger with
            attempts := updateKey SourceQuotaAttempt.attemptId attemptId
              (fun stored => stored.dispatch now process.monotonicNs)
              ledger.attempts },
          (row.dispatch now process.monotonicNs).fromRow)
      else
        pure (ledger, row.fromRow))
    ledger

/-- `_complete_attempt`: charge the lease with the attempt's units and release
it, whatever the outcome is. -/
def completeAttempt (outcome : AttemptOutcome) (now : Time) :
    Except QuotaError SourceQuotaAttempt × QuotaLedger :=
  transaction
    (fun ledger => do
      require (outcome ≠ .pending) (.value "attempt outcome must be final")
      require (0 ≤ process.monotonicNs) (.value "monotonic_ns must be nonnegative")
      let row ← orRaise (.conflict "quota attempt does not exist")
        (findKey SourceQuotaAttempt.attemptId attemptId ledger.attempts)
      let attempt ← row.fromRow
      if attempt.outcome = .pending then do
        let effective := max now attempt.floor
        let lease ← orRaise (.conflict "quota attempt lease is not active")
          (findKey LeaseRow.leaseId attempt.leaseId ledger.leases)
        require (lease.releasedAt = none) (.conflict "quota attempt lease is not active")
        require (lease.usedUnits + attempt.units ≤ lease.units)
          (.conflict "attempt consumption exceeds reserved units")
        let charged ← ledger.insertUsage {
          usageId := "attempt:" ++ attempt.attemptId
          leaseId := attempt.leaseId
          units := attempt.units
          consumedAt := effective }
        pure (
          { charged with
            leases := updateKey LeaseRow.leaseId attempt.leaseId
              (fun stored => (stored.charge attempt.units).release effective)
              ledger.leases
            attempts := updateKey SourceQuotaAttempt.attemptId
              attempt.attemptId
              (fun stored => stored.complete outcome now process.monotonicNs)
              ledger.attempts },
          (row.complete outcome now process.monotonicNs).fromRow)
      else do
        require (attempt.outcome = outcome) (.conflict "quota attempt completion conflicts")
        pure (ledger, .ok attempt))
    ledger

def commitAttempt (outcome : AttemptOutcome) (now : Time) :
    Except QuotaError SourceQuotaAttempt × QuotaLedger :=
  ledger.completeAttempt process attemptId outcome now

def recoverAttempt (now : Time) : Except QuotaError SourceQuotaAttempt × QuotaLedger :=
  ledger.completeAttempt process attemptId .unknown now

end

def getAttempt (attemptId : String) : Except QuotaError (Option SourceQuotaAttempt) := do
  require (strip attemptId ≠ "") (.value "attempt_id must be nonempty")
  match findKey SourceQuotaAttempt.attemptId (strip attemptId) ledger.attempts with
  | none => pure none
  | some row => do
    let attempt ← row.fromRow
    pure (some attempt)

/-- The loop of `recover_stale_attempts`.  Each recovery is a transaction of
its own and reads the monotonic clock again, so a raise keeps what was
recovered before it. -/
def recoverEach (bootId : String) (now : Time) (readings : ℕ → ℤ) :
    List String → ℕ → QuotaLedger → Except QuotaError (List SourceQuotaAttempt) × QuotaLedger
  | [], _, ledger => (.ok [], ledger)
  | attemptId :: rest, reading, ledger =>
    match ledger.getAttempt attemptId with
    | .error raised => (.error raised, ledger)
    | .ok none => recoverEach bootId now readings rest reading ledger
    | .ok (some current) =>
      if current.outcome = .pending then
        match ledger.recoverAttempt { bootId, monotonicNs := readings reading } attemptId now with
        | (.error raised, after) => (.error raised, after)
        | (.ok recovered, after) =>
          match recoverEach bootId now readings rest (reading + 1) after with
          | (.error raised, final) => (.error raised, final)
          | (.ok others, final) => (.ok (recovered :: others), final)
      else recoverEach bootId now readings rest reading ledger

/-- The pending attempts of a source that are old enough to recover: those of
another boot, and those whose monotonic reading is long ago. -/
def staleAttempts (bootId source : String) (monotonicNs : ℤ) (minAge : Time)
    (maxCount : ℤ) : List String :=
  ((sortOn (fun attempt => toLex (attempt.preparedAt, attempt.attemptId))
      (ledger.attempts.filter fun attempt =>
        attempt.source = source ∧ attempt.outcome = .pending)).filter
    fun attempt =>
      attempt.bootId ≠ bootId ∨
        attempt.lastMonotonicNs ≤ monotonicNs ∧
          minAge * 1000 ≤ monotonicNs - attempt.lastMonotonicNs).map
      SourceQuotaAttempt.attemptId |>.take maxCount.toNat

/-- `recover_stale_attempts`; `readings` are the values of the monotonic clock
in the order in which the call reads them. -/
def recoverStaleAttempts (bootId source : String) (now minAge : Time)
    (maxCount : ℤ) (readings : ℕ → ℤ) :
    Except QuotaError (List SourceQuotaAttempt) × QuotaLedger :=
  let checked : Except QuotaError Unit := do
    require (strip source ≠ "") (.value "source must be nonempty")
    require (0 ≤ minAge) (.value "min_age must be nonnegative")
    require (1 ≤ maxCount) (.value "max_count must be positive")
    require (0 ≤ readings 0) (.value "monotonic_ns must be nonnegative")
  match checked with
  | .error raised => (.error raised, ledger)
  | .ok () =>
    recoverEach bootId now readings
      (ledger.staleAttempts bootId (strip source) (readings 0) minAge maxCount)
      1 ledger

end QuotaLedger

/-! ## Calls -/

/-- A call of a client.  The operations on attempts carry what the client's
process reads of its own clocks. -/
inductive QuotaCall where
  | declareWindow (source windowId : String) (startsAt resetsAt : Time) (totalUnits : ℤ)
  | acquire (source owner : String) (units : ℤ) (now expiresAt : Time)
  | consume (leaseId : Digest) (usageId : String) (units : ℤ) (now : Time)
  | release (leaseId : Digest) (now : Time)
  | beginAttempt (process : ProcessClock) (source owner attemptId : String)
      (units : ℤ) (now expiresAt : Time)
  | beginTransportDispatch (process : ProcessClock) (dispatch : TransportDispatch)
  | bindTransportAttempt (attemptId source logicalRequestId apiName : String) (callOrdinal : ℤ)
  | markDispatched (process : ProcessClock) (attemptId : String) (now : Time)
  | commitAttempt (process : ProcessClock) (attemptId : String)
      (outcome : AttemptOutcome) (now : Time)
  | recoverAttempt (process : ProcessClock) (attemptId : String) (now : Time)
  | recoverStaleAttempts (bootId source : String) (now minAge : Time)
      (maxCount : ℤ) (readings : ℕ → ℤ)

/-- The ledger a call leaves, whether it answers or raises. -/
def SourceQuotaStore.apply (store : SourceQuotaStore) (ledger : QuotaLedger) :
    QuotaCall → QuotaLedger
  | .declareWindow source windowId startsAt resetsAt totalUnits =>
    (ledger.declareWindow source windowId startsAt resetsAt totalUnits).2
  | .acquire source owner units now expiresAt =>
    (store.acquire ledger source owner units now expiresAt).2
  | .consume leaseId usageId units now => (ledger.consume leaseId usageId units now).2
  | .release leaseId now => (store.release ledger leaseId now).2
  | .beginAttempt process source owner attemptId units now expiresAt =>
    (store.beginAttempt ledger process source owner attemptId units now expiresAt).2
  | .beginTransportDispatch process dispatch =>
    (store.beginTransportDispatch ledger process dispatch).2
  | .bindTransportAttempt attemptId source logicalRequestId apiName callOrdinal =>
    (ledger.bindTransportAttempt attemptId source logicalRequestId apiName callOrdinal).2
  | .markDispatched process attemptId now => (ledger.markDispatched process attemptId now).2
  | .commitAttempt process attemptId outcome now =>
    (ledger.commitAttempt process attemptId outcome now).2
  | .recoverAttempt process attemptId now => (ledger.recoverAttempt process attemptId now).2
  | .recoverStaleAttempts bootId source now minAge maxCount readings =>
    (ledger.recoverStaleAttempts bootId source now minAge maxCount readings).2

end RQuant.Quota
