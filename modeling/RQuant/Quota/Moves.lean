import RQuant.Quota.Store

/-!
# Moves of the quota ledger

Whatever a call does to the windows, leases, usages and attempts is a sequence
of six moves.  A lease that is consumed may have lapsed on somebody else's
clock; under `strict` the move says that nothing was lent after its expiry.
-/

namespace RQuant.Quota

open Foundation QuotaLedger

/-- No lease of the window was granted at or after the expiry of this one, so
its unused units have not been lent again. -/
def QuotaLedger.Unlent (ledger : QuotaLedger) (lease : LeaseRow) : Prop :=
  ∀ other ∈ ledger.leasesOf lease.windowKey, other.grantedAt < lease.expiresAt
deriving Decidable

/-- What the capacity of a window depends on in an attempt. -/
def SourceQuotaAttempt.standing (attempt : SourceQuotaAttempt) : Digest × AttemptOutcome :=
  (attempt.leaseId, attempt.outcome)

inductive QuotaMove (strict : Prop) (before : QuotaLedger) : QuotaLedger → Prop
  /-- Bookkeeping of attempts, bindings and clocks. -/
  | noted (attempts : List SourceQuotaAttempt)
      (transports : List TransportRow) (clocks : List SourceClockRow)
      (same : attempts.map SourceQuotaAttempt.standing =
        before.attempts.map SourceQuotaAttempt.standing) :
      QuotaMove strict before { before with attempts, transports, clocks }
  | declared (window : WindowRow) (fresh : window.key ∉ before.windows.map WindowRow.key)
      (positive : 1 ≤ window.totalUnits) :
      QuotaMove strict before { before with windows := before.windows ++ [window] }
  | granted (window : WindowRow) (lease : LeaseRow) (attempts : List SourceQuotaAttempt)
      (stored : window ∈ before.windows)
      (drawn : lease.windowKey = window.key)
      (fresh : lease.leaseId ∉ before.leases.map LeaseRow.leaseId)
      (positive : 1 ≤ lease.units)
      (unused : lease.usedUnits = 0)
      (unreleased : lease.releasedAt = none)
      (lasting : lease.grantedAt < lease.expiresAt)
      (room : lease.units ≤ before.remainingInWindow window lease.grantedAt)
      (own : ∀ attempt ∈ attempts, attempt.leaseId = lease.leaseId) :
      QuotaMove strict before
        { before with leases := before.leases ++ [lease], attempts := before.attempts ++ attempts }
  | consumed (lease : LeaseRow) (usage : UsageRow) (stored : lease ∈ before.leases)
      (own : usage.leaseId = lease.leaseId)
      (positive : 1 ≤ usage.units)
      (unreleased : lease.releasedAt = none)
      (unexpired : usage.consumedAt < lease.expiresAt)
      (within : lease.usedUnits + usage.units ≤ lease.units)
      (unlent : strict → before.Unlent lease) :
      QuotaMove strict before
        { before with
          leases := updateKey LeaseRow.leaseId lease.leaseId
            (fun row => row.charge usage.units) before.leases
          usages := before.usages ++ [usage] }
  | completed (lease : LeaseRow) (attempt : SourceQuotaAttempt)
      (usage : UsageRow) (outcome : AttemptOutcome) (time observed : Time)
      (monotonicNs : ℤ)
      (stored : lease ∈ before.leases)
      (pending : attempt ∈ before.attempts)
      (standing : attempt.standing = (lease.leaseId, .pending))
      (final : outcome ≠ .pending)
      (own : usage.leaseId = lease.leaseId)
      (positive : 1 ≤ usage.units)
      (unreleased : lease.releasedAt = none)
      (within : lease.usedUnits + usage.units ≤ lease.units) :
      QuotaMove strict before
        { before with
          leases := updateKey LeaseRow.leaseId lease.leaseId
            (fun row => (row.charge usage.units).release time) before.leases
          usages := before.usages ++ [usage]
          attempts := updateKey SourceQuotaAttempt.attemptId attempt.attemptId
            (fun row => row.complete outcome observed monotonicNs)
            before.attempts }
  | released (lease : LeaseRow) (time : Time) (stored : lease ∈ before.leases)
      (granted : lease.grantedAt ≤ time) :
      QuotaMove strict before
        { before with
          leases := updateKey LeaseRow.leaseId lease.leaseId
            (fun row => row.release time) before.leases }

abbrev QuotaMoves (strict : Prop) : QuotaLedger → QuotaLedger → Prop :=
  Relation.ReflTransGen (QuotaMove strict)

variable {after : QuotaLedger} {window : WindowRow} {now : Time} {units : ℤ}

section Parts

variable {strict : Prop} {ledger : QuotaLedger}

theorem QuotaLedger.insertLease_eq_ok (inserted : ledger.insertLease row = .ok after) :
    row.leaseId ∉ ledger.leases.map LeaseRow.leaseId ∧
      row.ownerKey ∉ ledger.leases.map LeaseRow.ownerKey ∧
      after = { ledger with leases := ledger.leases ++ [row] } := by
  unfold QuotaLedger.insertLease at inserted
  simp only [run_eq_ok] at inserted
  exact ⟨inserted.1, inserted.2.1, inserted.2.2.symm⟩

theorem QuotaLedger.insertAttempt_eq_ok (inserted : ledger.insertAttempt row = .ok after) :
    after = { ledger with attempts := ledger.attempts ++ [row] } := by
  unfold QuotaLedger.insertAttempt at inserted
  simp only [run_eq_ok] at inserted
  exact inserted.2.2.symm

theorem QuotaLedger.insertUsage_eq_ok (inserted : ledger.insertUsage row = .ok after) :
    row.usageId ∉ ledger.usages.map UsageRow.usageId ∧
      after = { ledger with usages := ledger.usages ++ [row] } := by
  unfold QuotaLedger.insertUsage at inserted
  simp only [run_eq_ok] at inserted
  exact ⟨inserted.1, inserted.2.symm⟩

theorem QuotaMove.of_insertTransport (inserted : ledger.insertTransport row = .ok after) :
    QuotaMove strict ledger after := by
  unfold QuotaLedger.insertTransport at inserted
  simp only [run_eq_ok] at inserted
  obtain ⟨-, -, rfl⟩ := inserted
  exact .noted _ _ _ rfl

theorem QuotaLedger.ensureWindow_moves (positive : 1 ≤ window.totalUnits)
    (ensured : ledger.ensureWindow window = .ok after) :
    QuotaMoves strict ledger after ∧ window ∈ after.windows := by
  unfold QuotaLedger.ensureWindow at ensured
  cases found : findKey WindowRow.key window.key ledger.windows with
  | some existing =>
    simp only [run_eq_ok, found] at ensured
    obtain ⟨rfl, rfl⟩ := ensured
    exact ⟨.refl, (mem_of_findKey found).1⟩
  | none =>
    simp only [found] at ensured
    split at ensured
    · cases ensured
    · cases ensured
      exact ⟨.single (.declared window (findKey_eq_none.mp found) positive), by simp⟩

theorem QuotaLedger.activeWindow_eq_ok (active : ledger.activeWindow source now = .ok window) :
    window ∈ ledger.windows ∧ window.source = source ∧
      window.startsAt ≤ now ∧ now < window.resetsAt := by
  unfold QuotaLedger.activeWindow at active
  rw [orRaise_eq_ok] at active
  have mem := mem_sortOn.mp (List.mem_of_head? active)
  rw [List.mem_filter, decide_eq_true_eq] at mem
  exact mem

theorem SourceQuotaStore.grantLease_move {store : SourceQuotaStore}
    (stored : window ∈ ledger.windows)
    (granted : store.grantLease ledger window owner units grantedAt expiresAt = .ok (after, lease))
    (attempts : List SourceQuotaAttempt)
    (own : ∀ attempt ∈ attempts, attempt.leaseId = lease.leaseId) :
    QuotaMove strict ledger { after with attempts := after.attempts ++ attempts } := by
  unfold SourceQuotaStore.grantLease SourceQuotaStore.sourceQuotaLease at granted
  simp only [pair_eq_ok] at granted
  obtain ⟨room, _, ⟨-, -, ⟨positive, -⟩, lasting, -, -, -, rfl⟩, _, inserted, rfl, rfl⟩ := granted
  obtain ⟨fresh, -, rfl⟩ := insertLease_eq_ok inserted
  exact .granted window _ attempts stored rfl fresh positive rfl rfl lasting room own

end Parts

theorem QuotaMoves.of_transaction {strict : Prop} {α : Type} {ledger : QuotaLedger}
    {body : QuotaLedger → Except QuotaError (QuotaLedger × Except QuotaError α)}
    (moves : ∀ {after answer}, body ledger = .ok (after, answer) → QuotaMoves strict ledger after) :
    QuotaMoves strict ledger (transaction body ledger).2 := by
  rcases transaction_cases body ledger with same | ⟨answer, executed⟩
  · rw [same]
  · exact moves executed

namespace QuotaLedger

variable {strict : Prop} (ledger : QuotaLedger)

section

variable (source windowId : String) (startsAt resetsAt : Time) (totalUnits : ℤ)

theorem declareWindow_cases :
    (ledger.declareWindow source windowId startsAt resetsAt totalUnits).2 = ledger ∨
      ∃ window : WindowRow, window.key ∉ ledger.windows.map WindowRow.key ∧ 1 ≤ window.totalUnits ∧
        (ledger.declareWindow source windowId startsAt resetsAt totalUnits).2 =
          { ledger with windows := ledger.windows ++ [window] } := by
  unfold declareWindow
  rcases transaction_cases _ ledger with same | ⟨_, executed⟩
  · exact .inl same
  · simp only [pair_eq_ok] at executed
    obtain ⟨-, -, positive, _, ensured, stored, -⟩ := executed
    rw [← stored]
    unfold ensureWindow at ensured
    split at ensured
    · simp only [run_eq_ok] at ensured
      exact .inl ensured.2.symm
    · rename_i unknown
      split at ensured
      · cases ensured
      · cases ensured
        exact .inr ⟨_, findKey_eq_none.mp unknown, positive, rfl⟩

theorem moves_declareWindow : QuotaMoves strict ledger
    (ledger.declareWindow source windowId startsAt resetsAt totalUnits).2 := by
  rcases ledger.declareWindow_cases source windowId startsAt resetsAt
      totalUnits with same | ⟨window, fresh, positive, stored⟩
  · rw [same]
  · rw [stored]
    exact .single (.declared window fresh positive)

end

theorem moves_consume (leaseId : Digest) (usageId : String) (units : ℤ) (now : Time)
    (unlent : strict → ∀ lease ∈ ledger.leases, lease.leaseId = leaseId → ledger.Unlent lease) :
    QuotaMoves strict ledger (ledger.consume leaseId usageId units now).2 := by
  refine QuotaMoves.of_transaction ?_
  intro _ _ executed
  simp only [run_eq_ok, orRaise_eq_ok] at executed
  obtain ⟨-, positive, lease, found, executed⟩ := executed
  obtain ⟨stored, rfl⟩ := mem_of_findKey found
  split at executed
  · cases executed
  · split at executed
    · simp only [pair_eq_ok] at executed
      obtain ⟨-, rfl, -⟩ := executed
      exact .refl
    · simp only [pair_eq_ok] at executed
      obtain ⟨⟨unreleased, unexpired⟩, within, _, inserted, rfl, -⟩ := executed
      obtain ⟨-, rfl⟩ := insertUsage_eq_ok inserted
      exact .single (.consumed lease ⟨strip usageId, lease.leaseId, units, now⟩ stored rfl positive
        unreleased unexpired within fun holds => unlent holds lease stored rfl)

theorem moves_bindTransportAttempt
    (attemptId source logicalRequestId apiName : String) (callOrdinal : ℤ) :
    QuotaMoves strict ledger
      (ledger.bindTransportAttempt attemptId source logicalRequestId apiName callOrdinal).2 := by
  refine QuotaMoves.of_transaction ?_
  intro _ _ executed
  simp only [run_eq_ok, orRaise_eq_ok] at executed
  obtain ⟨-, -, _, -, -, executed⟩ := executed
  split at executed
  · simp only [pair_eq_ok] at executed
    obtain ⟨-, rfl, -⟩ := executed
    exact .refl
  · simp only [pair_eq_ok] at executed
    obtain ⟨-, _, inserted, rfl, -⟩ := executed
    exact .single (.of_insertTransport inserted)

theorem moves_markDispatched (process : ProcessClock) (attemptId : String) (now : Time) :
    QuotaMoves strict ledger (ledger.markDispatched process attemptId now).2 := by
  refine QuotaMoves.of_transaction ?_
  intro _ _ executed
  simp only [run_eq_ok, orRaise_eq_ok] at executed
  obtain ⟨-, _, -, _, -, -, executed⟩ := executed
  split at executed
  · cases executed
    exact .single (.noted _ _ _ (map_updateKey fun _ _ _ => rfl))
  · cases executed
    exact .refl

theorem moves_completeAttempt
    (process : ProcessClock) (attemptId : String) (outcome : AttemptOutcome) (now : Time) :
    QuotaMoves strict ledger (ledger.completeAttempt process attemptId outcome now).2 := by
  refine QuotaMoves.of_transaction ?_
  intro _ _ executed
  simp only [run_eq_ok, orRaise_eq_ok] at executed
  obtain ⟨final, -, _, found, attempt, read, executed⟩ := executed
  obtain ⟨rfl, positive⟩ := SourceQuotaAttempt.fromRow_eq_ok read
  have stored := (mem_of_findKey found).1
  split at executed
  · rename_i pending
    simp only [run_eq_ok, orRaise_eq_ok, Prod.mk.injEq] at executed
    obtain ⟨lease, leaseFound, unreleased, within, _, inserted, rfl, -⟩ := executed
    obtain ⟨-, rfl⟩ := insertUsage_eq_ok inserted
    obtain ⟨leaseStored, named⟩ := mem_of_findKey leaseFound
    have standing : attempt.standing = (lease.leaseId, .pending) := by
      rw [SourceQuotaAttempt.standing, named, pending]
    rw [← named]
    exact .single (.completed lease attempt
      ⟨"attempt:" ++ attempt.attemptId, lease.leaseId, attempt.units, max now attempt.floor⟩
      outcome _ now process.monotonicNs leaseStored stored standing final rfl
      positive unreleased within)
  · simp only [pair_eq_ok] at executed
    obtain ⟨-, rfl, -⟩ := executed
    exact .refl

theorem moves_recoverEach (bootId : String) (now : Time) (readings : ℕ → ℤ)
    (attemptIds : List String) (reading : ℕ) :
    QuotaMoves strict ledger (recoverEach bootId now readings attemptIds reading ledger).2 := by
  induction attemptIds generalizing reading ledger with
  | nil => exact .refl
  | cons attemptId rest ih =>
    unfold recoverEach
    split
    · exact .refl
    · exact ih ledger reading
    · split
      · have first : QuotaMoves strict ledger
            (ledger.recoverAttempt { bootId, monotonicNs := readings reading } attemptId now).2 :=
          moves_completeAttempt ledger _ _ _ _
        split
        · rename_i raised after recovered
          rwa [recovered] at first
        · rename_i answer after recovered
          rw [recovered] at first
          have others := ih after (reading + 1)
          split
          · rename_i raised final looped
            rw [looped] at others
            exact first.trans others
          · rename_i answers final looped
            rw [looped] at others
            exact first.trans others
      · exact ih ledger reading

theorem moves_recoverStaleAttempts (bootId source : String) (now minAge : Time) (maxCount : ℤ)
    (readings : ℕ → ℤ) :
    QuotaMoves strict ledger
      (ledger.recoverStaleAttempts bootId source now minAge maxCount readings).2 := by
  unfold recoverStaleAttempts
  dsimp only
  split
  · exact .refl
  · exact moves_recoverEach ledger _ _ _ _ _

end QuotaLedger

namespace SourceQuotaStore

variable {strict : Prop} (store : SourceQuotaStore) (ledger : QuotaLedger)

theorem moves_acquire (source owner : String) (units : ℤ) (now expiresAt : Time) :
    QuotaMoves strict ledger (store.acquire ledger source owner units now expiresAt).2 := by
  refine QuotaMoves.of_transaction ?_
  intro _ _ executed
  simp only [run_eq_ok] at executed
  obtain ⟨-, -, _, active, -, executed⟩ := executed
  split at executed
  · simp only [pair_eq_ok] at executed
    obtain ⟨-, rfl, -⟩ := executed
    exact .refl
  · simp only [run_eq_ok, Prod.mk.injEq] at executed
    obtain ⟨granted, grantedOk, rfl, -⟩ := executed
    have stored := (activeWindow_eq_ok active).1
    have move : QuotaMove strict ledger { granted.1 with attempts := granted.1.attempts ++ [] } :=
      grantLease_move stored grantedOk [] (by simp)
    rw [List.append_nil] at move
    exact .single move

theorem moves_release (leaseId : Digest) (now : Time) :
    QuotaMoves strict ledger (store.release ledger leaseId now).2 := by
  refine QuotaMoves.of_transaction ?_
  intro _ _ executed
  simp only [bind_eq_ok, orRaise_eq_ok] at executed
  obtain ⟨lease, found, executed⟩ := executed
  obtain ⟨stored, rfl⟩ := mem_of_findKey found
  split at executed
  · cases executed
  · split at executed
    · simp only [pair_eq_ok] at executed
      obtain ⟨granted, rfl, -⟩ := executed
      exact .single (.released lease now stored granted)
    · cases executed
      exact .refl

theorem moves_beginAttempt (process : ProcessClock) (source owner attemptId : String) (units : ℤ)
    (now expiresAt : Time) :
    QuotaMoves strict ledger
      (store.beginAttempt ledger process source owner attemptId units now expiresAt).2 := by
  refine QuotaMoves.of_transaction ?_
  intro _ _ executed
  simp only [run_eq_ok] at executed
  obtain ⟨-, -, -, executed⟩ := executed
  split at executed
  · simp only [pair_eq_ok] at executed
    obtain ⟨_, -, -, rfl, -⟩ := executed
    exact .refl
  · simp only [run_eq_ok, Prod.mk.injEq] at executed
    obtain ⟨_, active, -, -, _, grantedOk, _, inserted, rfl, -⟩ := executed
    rw [insertAttempt_eq_ok inserted]
    exact .single (grantLease_move (activeWindow_eq_ok active).1 grantedOk _ (by simp))

theorem moves_newTransportDispatch (positive : 1 ≤ dispatch.totalUnits)
    (executed : store.newTransportDispatch ledger process dispatch = .ok (after, row)) :
    QuotaMoves strict ledger after := by
  unfold newTransportDispatch at executed
  simp only [run_eq_ok, Prod.mk.injEq] at executed
  obtain ⟨trusted, trustedOk, opened, ensured, -, _, grantedOk,
    prepared, inserted, _, bound, rfl, rfl⟩ := executed
  have clocked : QuotaMove strict ledger trusted.1 := by
    unfold QuotaLedger.trustClock at trustedOk
    split at trustedOk
    · cases trustedOk
      exact .noted _ _ _ rfl
    · simp only [run_eq_ok] at trustedOk
      obtain ⟨-, rfl⟩ := trustedOk
      exact .noted _ _ _ rfl
  obtain ⟨openedMoves, stored⟩ : QuotaMoves strict trusted.1 opened ∧ _ ∈ opened.windows :=
    ensureWindow_moves positive ensured
  have lent : QuotaMove strict opened prepared := by
    rw [insertAttempt_eq_ok inserted]
    exact grantLease_move stored grantedOk _ (by simp)
  exact ((openedMoves.head clocked).tail lent).tail (.of_insertTransport bound)

theorem moves_beginTransportDispatch (process : ProcessClock) (dispatch : TransportDispatch) :
    QuotaMoves strict ledger (store.beginTransportDispatch ledger process dispatch).2 := by
  refine QuotaMoves.of_transaction ?_
  intro _ _ executed
  simp only [run_eq_ok] at executed
  obtain ⟨-, -, ⟨-, positive⟩, -, executed⟩ := executed
  split at executed
  · simp only [run_eq_ok, Prod.mk.injEq] at executed
    obtain ⟨_, retriedOk, rfl, -⟩ := executed
    unfold retryTransportDispatch at retriedOk
    simp only [run_eq_ok] at retriedOk
    obtain ⟨_, -, -, retriedOk⟩ := retriedOk
    split at retriedOk
    · simp only [run_eq_ok] at retriedOk
      obtain ⟨_, inserted, rfl⟩ := retriedOk
      exact .single (.of_insertTransport inserted)
    · simp only [run_eq_ok] at retriedOk
      obtain ⟨-, rfl⟩ := retriedOk
      exact .refl
  · simp only [run_eq_ok, Prod.mk.injEq] at executed
    obtain ⟨_, dispatchedOk, rfl, -⟩ := executed
    exact moves_newTransportDispatch store ledger positive dispatchedOk

end SourceQuotaStore

/-- A consumption charges a lease whose unused units were not lent again. -/
def QuotaCall.Unlent (ledger : QuotaLedger) : QuotaCall → Prop
  | .consume leaseId _ _ _ => ∀ lease ∈ ledger.leases, lease.leaseId = leaseId → ledger.Unlent lease
  | _ => True

instance (ledger : QuotaLedger) (call : QuotaCall) : Decidable (call.Unlent ledger) :=
  match call with
  | .consume _ _ _ _ => inferInstanceAs (Decidable (∀ lease ∈ _, _ → _))
  | .declareWindow _ _ _ _ _ | .acquire _ _ _ _ _ | .release _ _
  | .beginAttempt _ _ _ _ _ _ _ | .beginTransportDispatch _ _
  | .bindTransportAttempt _ _ _ _ _ | .markDispatched _ _ _
  | .commitAttempt _ _ _ _ | .recoverAttempt _ _ _
  | .recoverStaleAttempts _ _ _ _ _ _ => inferInstanceAs (Decidable True)

theorem SourceQuotaStore.moves_apply (store : SourceQuotaStore)
    (unlent : strict → call.Unlent ledger) :
    QuotaMoves strict ledger (store.apply ledger call) := by
  cases call with
  | declareWindow => exact ledger.moves_declareWindow _ _ _ _ _
  | acquire => exact store.moves_acquire ledger _ _ _ _ _
  | consume => exact ledger.moves_consume _ _ _ _ unlent
  | release => exact store.moves_release ledger _ _
  | beginAttempt => exact store.moves_beginAttempt ledger _ _ _ _ _ _ _
  | beginTransportDispatch => exact store.moves_beginTransportDispatch ledger _ _
  | bindTransportAttempt => exact ledger.moves_bindTransportAttempt _ _ _ _ _
  | markDispatched => exact ledger.moves_markDispatched _ _ _
  | commitAttempt | recoverAttempt => exact ledger.moves_completeAttempt _ _ _ _
  | recoverStaleAttempts => exact ledger.moves_recoverStaleAttempts _ _ _ _ _ _

end RQuant.Quota
