import RQuant.Foundation.Lending
import RQuant.Foundation.Runs
import RQuant.Quota.Moves

/-!
# Spending within the quota

A lease is charged with exactly its usage rows and never beyond its units.  The
leases of a window together stay within its total as long as no lease is
consumed after units of its window were lent past its expiry.
-/

namespace RQuant.Quota

open Foundation
open QuotaLedger hiding attempts windows leases usages
open List hiding after next count minimum

/-- Keys are unique, rows refer to rows that exist, and each lease is charged
with its usage rows. -/
structure SoundLedger (ledger : QuotaLedger) : Prop where
  windowsUnique : (ledger.windows.map WindowRow.key).Nodup
  totalsPositive : ∀ window ∈ ledger.windows, 1 ≤ window.totalUnits
  leasesUnique : (ledger.leases.map LeaseRow.leaseId).Nodup
  windowed : ∀ lease ∈ ledger.leases, lease.windowKey ∈ ledger.windows.map WindowRow.key
  usagesOwned : ∀ usage ∈ ledger.usages, usage.leaseId ∈ ledger.leases.map LeaseRow.leaseId
  balanced : ∀ lease ∈ ledger.leases,
    lease.usedUnits = ((ledger.usagesOf lease.leaseId).map UsageRow.units).sum
  within : ∀ lease ∈ ledger.leases, 0 ≤ lease.usedUnits ∧ lease.usedUnits ≤ lease.units

variable {after before : QuotaLedger} {window : WindowRow} {strict : Prop} {lease : LeaseRow}
  {then_ time : Time}

namespace SoundLedger

theorem initial : SoundLedger QuotaLedger.initial where
  windowsUnique := nodup_nil
  totalsPositive := by simp [QuotaLedger.initial]
  leasesUnique := nodup_nil
  windowed := by simp [QuotaLedger.initial]
  usagesOwned := by simp [QuotaLedger.initial]
  balanced := by simp [QuotaLedger.initial]
  within := by simp [QuotaLedger.initial]

section

variable (sound : SoundLedger before)

include sound

theorem declare (fresh : window.key ∉ before.windows.map WindowRow.key)
    (positive : 1 ≤ window.totalUnits) :
    SoundLedger { before with windows := before.windows ++ [window] } :=
  { sound with
    windowsUnique := nodup_concat sound.windowsUnique fresh
    totalsPositive := by
      refine forall_mem_concat.mpr ⟨sound.totalsPositive, ?_⟩
      exact positive
    windowed := by
      intro lease mem
      have known := sound.windowed lease mem
      simp only [map_append, mem_append]
      exact .inl known }

theorem grant (attempts : List SourceQuotaAttempt)
    (stored : window ∈ before.windows)
    (drawn : lease.windowKey = window.key)
    (fresh : lease.leaseId ∉ before.leases.map LeaseRow.leaseId)
    (positive : 1 ≤ lease.units) (unused : lease.usedUnits = 0) :
    SoundLedger { before with leases := before.leases ++ [lease], attempts } where
  windowsUnique := sound.windowsUnique
  totalsPositive := sound.totalsPositive
  leasesUnique := nodup_concat sound.leasesUnique fresh
  windowed := by
    refine forall_mem_concat.mpr ⟨sound.windowed, ?_⟩
    rw [drawn]
    exact mem_map_of_mem stored
  usagesOwned := by
    intro usage mem
    have owned := sound.usagesOwned usage mem
    simp only [map_append, mem_append]
    exact .inl owned
  balanced := by
    refine forall_mem_concat.mpr ⟨sound.balanced, ?_⟩
    rw [unused]
    -- usage rows belong to stored leases, and this one is new
    have none : before.usagesOf lease.leaseId = [] :=
      filter_of_none fun usage mem named => fresh (named ▸ sound.usagesOwned usage mem)
    have unread : QuotaLedger.usagesOf { before with leases := before.leases ++ [lease], attempts }
        lease.leaseId = [] := none
    rw [unread]
    rfl
  within := by
    refine forall_mem_concat.mpr ⟨sound.within, ?_⟩
    rw [unused]
    omega

/-- A change of one lease that charges it with new usage rows of its own. -/
theorem change (attempts : List SourceQuotaAttempt) (stored : lease ∈ before.leases)
    (kept : ∀ row, (edit row).leaseId = row.leaseId ∧
      (edit row).windowKey = row.windowKey ∧ (edit row).units = row.units)
    (charged : ∀ row, (edit row).usedUnits = row.usedUnits + (extra.map UsageRow.units).sum)
    (own : ∀ usage ∈ extra, usage.leaseId = lease.leaseId)
    (nonneg : 0 ≤ (extra.map UsageRow.units).sum)
    (within : lease.usedUnits + (extra.map UsageRow.units).sum ≤ lease.units) :
    SoundLedger
      { before with
        leases := updateKey LeaseRow.leaseId lease.leaseId edit before.leases,
        usages := before.usages ++ extra, attempts } := by
  have sameIds :
      (updateKey LeaseRow.leaseId lease.leaseId edit before.leases).map LeaseRow.leaseId =
        before.leases.map LeaseRow.leaseId :=
    map_updateKey fun row _ _ => (kept row).1
  have only : ∀ row ∈ before.leases, row.leaseId = lease.leaseId → row = lease :=
    fun row mem same => eq_of_key_eq sound.leasesUnique mem stored same
  refine
    { windowsUnique := sound.windowsUnique, totalsPositive := sound.totalsPositive,
      leasesUnique := sameIds ▸ sound.leasesUnique, windowed := ?_, usagesOwned := ?_,
      balanced := ?_, within := ?_ }
  · refine forall_mem_updateKey sound.windowed fun old mem _ => ?_
    rw [(kept old).2.1]
    exact sound.windowed old mem
  · intro usage mem
    show usage.leaseId ∈
      (updateKey LeaseRow.leaseId lease.leaseId edit before.leases).map LeaseRow.leaseId
    rw [sameIds]
    rcases mem_append.mp mem with old | new
    · exact sound.usagesOwned usage old
    · rw [own usage new]
      exact mem_map_of_mem stored
  · intro row mem
    obtain ⟨old, oldMem, ⟨same, rfl⟩ | ⟨different, rfl⟩⟩ := mem_updateKey.mp mem
    · have allOwn : extra.filter (fun usage => usage.leaseId = old.leaseId) = extra := by
        rw [filter_eq_self]
        intro usage usageMem
        rw [decide_eq_true_eq, own usage usageMem, same]
      have balance := sound.balanced old oldMem
      unfold QuotaLedger.usagesOf at balance ⊢
      rw [charged, (kept old).1, filter_append, allOwn, map_append, sum_append, balance]
    · have balance := sound.balanced row oldMem
      unfold QuotaLedger.usagesOf at balance ⊢
      rw [filter_append_of_none fun usage usageMem same =>
        different (same.symm.trans (own usage usageMem)), balance]
  · refine forall_mem_updateKey sound.within fun old mem same => ?_
    have bounds := sound.within old mem
    rw [charged, (kept old).2.2]
    rw [only old mem same] at bounds ⊢
    omega

/-- A move charges a lease together with the usage row it stores. -/
theorem step (move : QuotaMove strict before after) :
    SoundLedger after := by
  cases move with
  | noted attempts transports clocks same => exact { sound with }
  | declared window fresh positive => exact sound.declare fresh positive
  | granted window lease attempts stored drawn fresh positive unused =>
    exact sound.grant _ stored drawn fresh positive unused
  | consumed lease usage stored own positive unreleased unexpired within =>
    refine sound.change _ stored (fun row => ⟨rfl, rfl, rfl⟩) ?_ ?_ ?_ ?_
    · intro row
      simp [LeaseRow.charge]
    · simpa using own
    · simp
      omega
    · simpa using within
  | completed lease attempt usage outcome time observed monotonicNs stored
      pending standing final own positive unreleased within =>
      refine sound.change _ stored (fun row => ⟨rfl, rfl, rfl⟩) ?_ ?_ ?_ ?_
      · intro row
        simp [LeaseRow.charge, LeaseRow.release]
      · simpa using own
      · simp
        omega
      · simpa using within
  | released lease time stored granted =>
    have bounds := sound.within lease stored
    have changed : SoundLedger
        { before with
          leases := updateKey LeaseRow.leaseId lease.leaseId
            (fun row => row.release time) before.leases
          usages := before.usages ++ []
          attempts := before.attempts } :=
      sound.change _ stored (fun row => ⟨rfl, rfl, rfl⟩)
        (fun row => by simp [LeaseRow.release]) (by simp) (by simp)
        (by simpa using bounds.2)
    rwa [append_nil] at changed

theorem of_moves (moves : QuotaMoves strict before after) :
    SoundLedger after := by
  induction moves with
  | refl => exact sound
  | tail _ move ih => exact ih.step move

end

end SoundLedger

namespace QuotaLedger

variable {ledger other : QuotaLedger} {lease : LeaseRow} {now : Time}

theorem remainingInWindow_eq (window : WindowRow) : ledger.remainingInWindow window now =
    window.totalUnits - outstanding ledger.owed now (ledger.leasesOf window.key) := by
  unfold remainingInWindow outstanding owed
  rw [sum_map_add]
  ring

section

variable (within : lease.usedUnits ≤ lease.units)

include within

theorem usedUnits_le_owed (now : Time) : lease.usedUnits ≤ ledger.owed now lease := by
  unfold owed
  split <;> omega

theorem owed_le_units : ledger.owed now lease ≤ lease.units := by
  unfold owed
  split <;> omega

omit within in
theorem owed_of_held (held : ledger.held now lease = true) :
    ledger.owed now lease = lease.units := by
  unfold owed
  rw [if_pos held]
  omega

omit within in
theorem owed_of_released (released : lease.releasedAt = some time) :
    ledger.owed now lease = lease.usedUnits := by
  simp [owed, held, released]

theorem owed_le_owed (less : other.held then_ lease = true → ledger.held now lease = true) :
    other.owed then_ lease ≤ ledger.owed now lease := by
  by_cases held : other.held then_ lease = true
  · rw [owed_of_held held, owed_of_held (less held)]
  · have lapsed : other.owed then_ lease = lease.usedUnits := by
      simp [owed, held]
    rw [lapsed]
    exact usedUnits_le_owed within now

theorem owed_antitone : Antitone fun now => ledger.owed now lease := by
  intro _ _ ordered
  refine owed_le_owed within ?_
  intro held
  simp only [QuotaLedger.held, Bool.and_eq_true, Bool.or_eq_true, decide_eq_true_eq] at held ⊢
  exact ⟨held.1, held.2.imp_left fun unexpired => ordered.trans_lt unexpired⟩

end

theorem held_of_pendingOn
    (pending : other.pendingOn lease.leaseId = true → ledger.pendingOn lease.leaseId = true)
    (held : other.held now lease = true) :
    ledger.held now lease = true := by
  simp only [QuotaLedger.held, Bool.and_eq_true, Bool.or_eq_true] at held ⊢
  exact ⟨held.1, held.2.imp_right pending⟩

theorem pendingOn_iff : ledger.pendingOn leaseId = true ↔
    (leaseId, .pending) ∈ ledger.attempts.map SourceQuotaAttempt.standing := by
  simp only [pendingOn, any_eq_true, decide_eq_true_eq, mem_map,
    SourceQuotaAttempt.standing, Prod.mk.injEq]

end QuotaLedger

def CoveredLedger (ledger : QuotaLedger) : Prop :=
  ∀ window ∈ ledger.windows,
    Fits ledger.owed LeaseRow.grantedAt window.totalUnits (ledger.leasesOf window.key)

namespace CoveredLedger

variable {before : QuotaLedger}

theorem initial : CoveredLedger QuotaLedger.initial := by
  intro _ mem
  cases mem

section

variable (covered : CoveredLedger before)

include covered

/-- A change of one lease that leaves it owing no more when a lease of its
window was granted, while no lease gains a pending attempt. -/
theorem change (sound : SoundLedger before) (stored : lease ∈ before.leases)
    (windows : after.windows = before.windows)
    (leases : after.leases = updateKey LeaseRow.leaseId lease.leaseId edit before.leases)
    (kept : ∀ row, (edit row).windowKey = row.windowKey ∧ (edit row).grantedAt = row.grantedAt)
    (pending : ∀ leaseId, after.pendingOn leaseId = true → before.pendingOn leaseId = true)
    (less : ∀ other ∈ before.leasesOf lease.windowKey,
      after.owed other.grantedAt (edit lease) ≤ before.owed other.grantedAt lease) :
    CoveredLedger after := by
  intro window mem
  rw [windows] at mem
  have selected : after.leasesOf window.key =
      updateKey LeaseRow.leaseId lease.leaseId edit (before.leasesOf window.key) := by
    unfold QuotaLedger.leasesOf
    rw [leases, filter_updateKey fun row => by rw [(kept row).1]]
  rw [selected]
  refine (covered window mem).map ?_ ?_
  · intro row _
    by_cases same : row.leaseId = lease.leaseId <;> simp [same, kept]
  · intro row rowMem other otherMem
    have rowStored := (mem_filter.mp rowMem).1
    by_cases same : row.leaseId = lease.leaseId
    · have isLease : row = lease := eq_of_key_eq sound.leasesUnique rowStored stored same
      subst isLease
      have drawn : row.windowKey = window.key := by
        simpa using (mem_filter.mp rowMem).2
      rw [if_pos rfl]
      exact less other (drawn ▸ otherMem)
    · rw [if_neg same]
      exact owed_le_owed (sound.within row rowStored).2 (held_of_pendingOn (pending row.leaseId))

/-- A lease is granted only within what its window has left. -/
theorem grant (sound : SoundLedger before) (stored : window ∈ before.windows)
    (drawn : lease.windowKey = window.key)
    (fresh : lease.leaseId ∉ before.leases.map LeaseRow.leaseId)
    (positive : 1 ≤ lease.units) (unused : lease.usedUnits = 0)
    (room : lease.units ≤ before.remainingInWindow window lease.grantedAt)
    (own : ∀ attempt ∈ attempts, attempt.leaseId = lease.leaseId) :
    CoveredLedger
      { before with
        leases := before.leases ++ [lease], attempts := before.attempts ++ attempts } := by
  intro other mem
  set after : QuotaLedger :=
    { before with
      leases := before.leases ++ [lease], attempts := before.attempts ++ attempts } with afterEq
  -- the new attempts are on the new lease only
  have pending : ∀ row ∈ before.leases, after.pendingOn row.leaseId = true →
      before.pendingOn row.leaseId = true := by
    intro row rowStored isPending
    rw [pendingOn_iff, afterEq, map_append, mem_append] at isPending
    rcases isPending with old | new
    · exact pendingOn_iff.mpr old
    · obtain ⟨attempt, attemptMem, standing⟩ := mem_map.mp new
      have named : attempt.leaseId = row.leaseId := (Prod.mk.inj standing).1
      rw [own attempt attemptMem] at named
      exact absurd (named ▸ mem_map_of_mem rowStored) fresh
  have less :
      ∀ time, ∀ row ∈ before.leasesOf other.key, after.owed time row ≤ before.owed time row := by
    intro time row rowMem
    have rowStored := (mem_filter.mp rowMem).1
    exact owed_le_owed (sound.within row rowStored).2 (held_of_pendingOn (pending row rowStored))
  by_cases same : lease.windowKey = other.key
  · have isWindow : other = window :=
      eq_of_key_eq sound.windowsUnique mem stored (same.symm.trans drawn)
    subst isWindow
    have selected : after.leasesOf other.key = before.leasesOf other.key ++ [lease] := by
      simp [QuotaLedger.leasesOf, afterEq, same]
    rw [selected]
    apply Fits.lend
    rw [remainingInWindow_eq] at room
    have old : outstanding after.owed lease.grantedAt (before.leasesOf other.key) ≤
        outstanding before.owed lease.grantedAt (before.leasesOf other.key) :=
      sum_le_sum (less lease.grantedAt)
    have new : after.owed lease.grantedAt lease ≤ lease.units :=
      owed_le_units (by omega)
    omega
  · have selected : after.leasesOf other.key = before.leasesOf other.key := by
      simp [QuotaLedger.leasesOf, afterEq, same]
    rw [selected]
    exact (covered other mem).of_owed_le fun row rowMem latest _ => less latest.grantedAt row rowMem

theorem step (sound : SoundLedger before) (move : QuotaMove True before after) :
    CoveredLedger after := by
  cases move with
  | noted attempts transports clocks same =>
    intro window mem
    refine (covered window mem).of_owed_le ?_
    intro lease leaseMem other _
    have stored := (mem_filter.mp leaseMem).1
    refine owed_le_owed (sound.within lease stored).2 (held_of_pendingOn ?_)
    rw [pendingOn_iff, pendingOn_iff, same]
    exact id
  | declared window fresh positive =>
    intro other mem
    rcases mem_append.mp mem with old | new
    · exact covered other old
    · -- the leases are in windows that were declared before
      rw [mem_singleton.mp new]
      exact .inl (filter_of_none fun lease stored drawn =>
        fresh (drawn ▸ sound.windowed lease stored))
  | granted window lease attempts stored drawn fresh positive unused unreleased lasting room own =>
    exact covered.grant sound stored drawn fresh positive unused room own
  | consumed lease usage stored own positive unreleased unexpired within unlent =>
    refine covered.change sound stored rfl rfl (fun _ => ⟨rfl, rfl⟩) (fun _ pending => pending) ?_
    intro other otherMem
    -- the lease had not expired when the other one was granted
    have early := unlent trivial other otherMem
    have held : before.held other.grantedAt lease = true := by
      simp [QuotaLedger.held, unreleased, early]
    rw [owed_of_held held]
    exact owed_le_units within
  | completed lease attempt usage outcome time observed monotonicNs stored
      pending standing final own positive unreleased within =>
      refine covered.change sound stored rfl rfl (fun _ => ⟨rfl, rfl⟩) ?_ ?_
      · intro _ pending
        rw [pendingOn_iff] at pending ⊢
        obtain ⟨row, mem, standing⟩ := mem_map.mp pending
        obtain ⟨_, oldMem, ⟨_, rfl⟩ | ⟨_, rfl⟩⟩ := mem_updateKey.mp mem
        · exact absurd (Prod.mk.inj standing).2 final
        · exact mem_map.mpr ⟨row, oldMem, standing⟩
      intro other _
      -- the pending attempt kept the lease held
      have isPending : before.pendingOn lease.leaseId = true :=
        pendingOn_iff.mpr (standing ▸ mem_map_of_mem pending)
      have held : before.held other.grantedAt lease = true := by
        simp [QuotaLedger.held, unreleased, isPending]
      rw [owed_of_held held, owed_of_released rfl]
      exact within
  | released lease time stored granted =>
    refine covered.change sound stored rfl rfl (fun _ => ⟨rfl, rfl⟩) (fun _ pending => pending) ?_
    intro other _
    rw [owed_of_released rfl]
    exact usedUnits_le_owed (sound.within lease stored).2 _

theorem of_moves (sound : SoundLedger before) (moves : QuotaMoves True before after) :
    CoveredLedger after := by
  induction moves with
  | refl => exact covered
  | tail earlier move ih => exact ih.step (sound.of_moves earlier) move

end

end CoveredLedger

/-! ## Runs -/

namespace SourceQuotaStore

variable (store : SourceQuotaStore)

/-- The ledgers that runs of calls reach, each call being `allowed` where it is
made. -/
abbrev Run (allowed : QuotaLedger → QuotaCall → Prop) (ledger : QuotaLedger) : Prop :=
  Reaches (fun source call target => store.apply source call = target) allowed
    QuotaLedger.initial ledger

variable {store}

theorem soundLedger_of_run (run : store.Run allowed ledger) : SoundLedger ledger := by
  refine Reaches.invariant run SoundLedger.initial ?_
  rintro before call _ sound - rfl
  have moves : QuotaMoves False before (store.apply before call) := store.moves_apply False.elim
  exact sound.of_moves moves

theorem coveredLedger_of_run (run : store.Run (fun before call => call.Unlent before) ledger) :
    SoundLedger ledger ∧ CoveredLedger ledger := by
  refine Reaches.invariant (motive := fun ledger => SoundLedger ledger ∧ CoveredLedger ledger) run
    ⟨SoundLedger.initial, CoveredLedger.initial⟩ ?_
  rintro before call _ ⟨sound, covered⟩ unlent rfl
  have moves : QuotaMoves True before (store.apply before call) := store.moves_apply fun _ => unlent
  exact ⟨sound.of_moves moves, covered.of_moves sound moves⟩

/-- In every run each lease is charged with exactly its usage rows and within
its units.  In every run in which only leases are consumed whose unused units
were not lent again, the leases of a window are charged within its total. -/
theorem source_quota_never_overspent (store : SourceQuotaStore) :
    (∀ ledger, store.Run (fun _ _ => True) ledger →
      ∀ lease ∈ ledger.leases,
        lease.usedUnits = ((ledger.usagesOf lease.leaseId).map UsageRow.units).sum ∧
          lease.usedUnits ≤ lease.units) ∧
    (∀ ledger, store.Run (fun before call => call.Unlent before) ledger →
      ∀ window ∈ ledger.windows,
        ((ledger.leasesOf window.key).map LeaseRow.usedUnits).sum ≤ window.totalUnits) := by
  constructor
  · intro ledger run lease member
    have sound := soundLedger_of_run run
    exact ⟨sound.balanced lease member, (sound.within lease member).2⟩
  · intro ledger run window member
    have kept := coveredLedger_of_run run
    have positive := kept.1.totalsPositive window member
    refine (kept.2 window member).sum_le (by omega) ?_
    intro lease leaseMem _ _
    exact usedUnits_le_owed (kept.1.within lease (mem_filter.mp leaseMem).1).2 _

def sample : SourceQuotaStore where
  leaseDigest identity := if identity.owner = "live" then 1 else 2
  windowLabel _ _ := "today"

/-- A window of ten units, lent to two owners and spent by both. -/
def sampleCalls : List QuotaCall :=
  [ .declareWindow "ticks" "today" 0 100 10, .acquire "ticks" "live" 6 0 50,
    .acquire "ticks" "research" 4 1 20,
    .consume 1 "first" 6 2,
    .consume 2 "second" 4 7 ]

/-- The two owners spend the whole window and no more. -/
theorem source_quota_never_overspent_sample :
    ∃ ledger, sample.Run (fun before call => call.Unlent before) ledger ∧
      ledger.windows.map WindowRow.totalUnits = [10] ∧
      ledger.leases.map LeaseRow.usedUnits = [6, 4] ∧
      ∀ window ∈ ledger.windows, ((ledger.leasesOf window.key).map LeaseRow.usedUnits).sum ≤
        window.totalUnits :=
  ⟨_, reaches_applyAllowed QuotaLedger.initial sampleCalls, by decide +kernel, by decide +kernel,
    (source_quota_never_overspent sample).2 _
      (reaches_applyAllowed QuotaLedger.initial sampleCalls)⟩

/-- The lease of `live` expires at 5 and its ten units are lent again at 6;
`live` still consumes them, with a clock that shows 3. -/
def backwardCalls : List QuotaCall :=
  [ .declareWindow "ticks" "today" 0 100 10, .acquire "ticks" "live" 10 0 5,
    .acquire "ticks" "research" 10 6 20,
    .consume 2 "second" 10 7,
    .consume 1 "first" 10 3 ]

/-- A clock that steps back lets twenty units of a window of ten be spent. -/
theorem source_quota_overspent_after_rollback : ∃ ledger, sample.Run (fun _ _ => True) ledger ∧
    ∃ window ∈ ledger.windows,
      window.totalUnits < ((ledger.leasesOf window.key).map LeaseRow.usedUnits).sum :=
  ⟨_, reaches_foldl (fun _ _ => trivial) QuotaLedger.initial backwardCalls, by decide +kernel⟩

end SourceQuotaStore

end RQuant.Quota
