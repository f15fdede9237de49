import RQuant.Authority.Commits
import RQuant.Authority.Frame
import RQuant.Quota.Spending

/-!
# Parent quota accounting

A parent is charged with exactly its authorised calls.  The parents of a window
together stay within its total: when capacity that lapses is lent again, the
clock of the authority has passed the expiry of the lapsed lease, so that
nothing more is charged to it.
-/

namespace RQuant.Authority

open Foundation Quota List Database QuotaLedger

def CallAllocation.charge? (leaseId : Digest) (call : CallAllocation) : Option UsageRow :=
  match call.usageId, call.authorizedAt with
  | some usageId, some authorizedAt =>
    some { usageId := hex usageId, leaseId, units := call.cost, consumedAt := authorizedAt }
  | _, _ => none

/-- What the contract of a call says about its cost and its charge. -/
structure CallAllocation.Charged (call : CallAllocation) : Prop where
  positive : 1 ≤ call.cost
  authorized : call.state.Dispatched →
    ∃ usageId authorizedAt, call.usageId = some usageId ∧ call.authorizedAt = some authorizedAt
  unauthorized : ¬ call.state.Dispatched → call.usageId = none ∧ call.authorizedAt = none

theorem CallAllocation.charged_of_fromRow
    {row call : CallAllocation} (read : row.fromRow = .ok call) :
    row = call ∧ call.Charged := by
  unfold CallAllocation.fromRow at read
  simp only [run_eq_ok] at read
  obtain ⟨-, -, _, authorization, -, -, rfl⟩ := read
  refine ⟨rfl, by omega, ?_, ?_⟩
  · intro dispatched
    rw [if_pos dispatched] at authorization
    obtain ⟨authorizedAt, isAuthorized⟩ := Option.ne_none_iff_exists'.mp authorization.1
    obtain ⟨usageId, isUsed⟩ := Option.ne_none_iff_exists'.mp authorization.2
    exact ⟨usageId, authorizedAt, isUsed, isAuthorized⟩
  · intro undispatched
    rw [if_neg undispatched] at authorization
    exact ⟨authorization.2, authorization.1⟩

namespace CallAllocation.Charged

variable {call : CallAllocation} (leaseId : Digest)

theorem charge?_eq_none (charged : call.Charged) (undispatched : ¬ call.state.Dispatched) :
    call.charge? leaseId = none := by
  simp [charge?, (charged.unauthorized undispatched).1]

theorem exists_charge (charged : call.Charged) (dispatched : call.state.Dispatched) :
    ∃ usage, call.charge? leaseId = some usage ∧ usage.units = call.cost ∧
      call.usageId.map hex = some usage.usageId := by
  obtain ⟨usageId, authorizedAt, used, authorized⟩ := charged.authorized dispatched
  exact ⟨⟨hex usageId, leaseId, call.cost, authorizedAt⟩,
    by simp [charge?, used, authorized], rfl, by simp [used]⟩

end CallAllocation.Charged

theorem sum_charges {calls : List CallAllocation} {leaseId : Digest}
    (charged : ∀ call ∈ calls, call.Charged) :
    ((calls.filterMap (CallAllocation.charge? leaseId)).map UsageRow.units).sum =
      ((calls.filter fun call => call.state.Dispatched).map CallAllocation.cost).sum := by
  induction calls with
  | nil => rfl
  | cons head tail ih =>
    have rest := ih fun call mem => charged call (mem_cons_of_mem _ mem)
    have headCharged := charged head (by simp)
    by_cases dispatched : head.state.Dispatched
    · obtain ⟨_, isCharge, units, -⟩ := headCharged.exists_charge leaseId dispatched
      rw [filterMap_cons_some isCharge, filter_cons_of_pos (by simpa using dispatched), map_cons,
        map_cons, sum_cons, sum_cons, rest, units]
    · rw [filterMap_cons_none (headCharged.charge?_eq_none leaseId dispatched),
        filter_cons_of_neg (by simpa using dispatched), rest]

namespace Database

variable {db : Database} {parentId : String} {snapshot : ParentSnapshot}

theorem snapshotParent_eq_ok (taken : db.snapshotParent parentId = .ok snapshot) :
    ∃ parent lease window calls, db.parentRow parentId = some parent ∧
      db.leaseRow parent.leaseId = some lease ∧
      db.windowRow lease.source lease.windowId = some window ∧
      db.readCalls parentId = .ok calls ∧
      (assemble parent lease window calls).validated = .ok snapshot := by
  unfold snapshotParent at taken
  simp only [bind_eq_ok, orRaise_eq_ok, requireParentLease] at taken
  obtain ⟨parent, found, lease, leaseFound, window, windowFound, calls, read, valid⟩ := taken
  exact ⟨parent, lease, window, calls, found, leaseFound, windowFound, read, valid⟩

theorem validated_eq_ok (valid : parent.validated = .ok snapshot) :
    snapshot = parent := by
  unfold ParentSnapshot.validated at valid
  simp only [bind_eq_ok] at valid
  obtain ⟨_, -, _, -, _, -, _, -, _, -, _, -, _, -, _, -, _, -, _, -, _, -, _,
    -, _, -, _, -, _, -, _, -, _, -, rest⟩ := valid
  split at rest
  · simp only [bind_eq_ok, pure_eq_ok] at rest
    obtain ⟨_, -, _, -, same⟩ := rest
    exact same.symm
  · simp only [bind_eq_ok, pure_eq_ok] at rest
    obtain ⟨_, -, same⟩ := rest
    exact same.symm

theorem charged_of_snapshotParent (taken : db.snapshotParent parentId = .ok snapshot) :
    ∀ call ∈ db.callsOf parentId, call.Charged := by
  intro call mem
  obtain ⟨_, _, _, _, -, -, -, read, -⟩ := snapshotParent_eq_ok taken
  obtain ⟨_, -, isRead⟩ := exists_of_mapM_eq_ok read (mem_sortOn.mpr mem)
  obtain ⟨rfl, charged⟩ := CallAllocation.charged_of_fromRow isRead
  exact charged

end Database

theorem Untouched.snapshotParent {before after : Database} {parentId : String}
    (untouched : Untouched parentId before after)
    (taken : before.snapshotParent parentId = .ok snapshot) :
    after.snapshotParent parentId = .ok snapshot := by
  obtain ⟨parent, lease, window, calls, found, leaseFound, windowFound, read,
    valid⟩ := snapshotParent_eq_ok taken
  have readAfter : after.readCalls parentId = .ok calls := by
    unfold Database.readCalls Database.orderedCalls at read ⊢
    rwa [untouched.callsOf]
  unfold Database.snapshotParent Database.requireParentLease
  simp only [bind_eq_ok, orRaise_eq_ok]
  exact ⟨parent, untouched.parentRow.trans found, lease,
    (untouched.leaseRow found).trans leaseFound, window,
    untouched.windowRow windowFound, calls, readAfter, valid⟩

structure Account (db : Database) (parent : ParentRow) (lease : LeaseRow) : Prop where
  units : lease.units = parent.totalCost
  allocated : ((db.callsOf parent.parentId).map CallAllocation.cost).sum ≤ parent.totalCost
  usages : (db.quota.usagesOf parent.leaseId).Perm
    ((db.callsOf parent.parentId).filterMap (CallAllocation.charge? parent.leaseId))
  unexpired : ∀ usage ∈ db.quota.usagesOf parent.leaseId, usage.consumedAt < lease.expiresAt
  standing : (parent.state = .open ∧ lease.releasedAt = none) ∨
    (parent.state.Released ∧ lease.releasedAt ≠ none ∧
      ∀ call ∈ db.callsOf parent.parentId, call.state.Terminal)

namespace Account

variable {before after : Database} {now : Time} {parent : ParentRow} {lease : LeaseRow}

theorem of_untouched (account : Account before parent lease)
    (found : before.parentRow parent.parentId = some parent)
    (untouched : Untouched parent.parentId before after) :
    Account after parent lease where
  units := account.units
  allocated := by
    rw [untouched.callsOf]
    exact account.allocated
  usages := by
    rw [untouched.callsOf, untouched.usagesOf found]
    exact account.usages
  unexpired := by
    rw [untouched.usagesOf found]
    exact account.unexpired
  standing := by
    rw [untouched.callsOf]
    exact account.standing

theorem reserved (keyed : Keyed before)
    (freshParent : parent.parentId ∉ before.parents.map ParentRow.parentId)
    (freshLease : parent.leaseId ∉ before.parents.map ParentRow.leaseId)
    (calls : after.calls = before.calls) (usages : after.quota.usages = before.quota.usages)
    (units : lease.units = parent.totalCost) (positive : 1 ≤ lease.units)
    (isOpen : parent.state = .open) (unreleased : lease.releasedAt = none) :
    Account after parent lease := by
  have noCalls : after.callsOf parent.parentId = [] := by
    rw [Database.callsOf, calls]
    exact filter_of_none fun call mem own => freshParent (own ▸ keyed.callsOwned call mem)
  have noUsages : after.quota.usagesOf parent.leaseId = [] := by
    rw [QuotaLedger.usagesOf, usages]
    exact filter_of_none fun usage mem own => freshLease (own ▸ keyed.usagesOwned usage mem)
  refine ⟨units, ?_, ?_, ?_, Or.inl ⟨isOpen, unreleased⟩⟩
  · rw [noCalls, map_nil, sum_nil]
    omega
  · rw [noCalls, noUsages, filterMap_nil]
  · rw [noUsages]
    simp

section

variable (account : Account before parent lease)

include account

theorem unreleased_of_open (isOpen : parent.state = .open) : lease.releasedAt = none := by
  rcases account.standing with ⟨-, unreleased⟩ | ⟨released, -⟩
  · exact unreleased
  · rw [isOpen] at released
    exact absurd released (by decide)

theorem intended (isOpen : parent.state = .open)
    (calls : after.callsOf parent.parentId = before.callsOf parent.parentId ++ [call])
    (usages : after.quota.usagesOf parent.leaseId = before.quota.usagesOf parent.leaseId)
    (within :
      ((before.callsOf parent.parentId).map CallAllocation.cost).sum + call.cost ≤ parent.totalCost)
    (unused : call.usageId = none) :
    Account after parent lease := by
  have uncharged : call.charge? parent.leaseId = none := by
    simp [CallAllocation.charge?, unused]
  have unreleased := account.unreleased_of_open isOpen
  refine ⟨account.units, ?_, ?_, ?_, Or.inl ⟨isOpen, unreleased⟩⟩
  · rw [calls, map_append, sum_append]
    simpa using within
  · rw [calls, usages, filterMap_append, filterMap_cons_none uncharged, filterMap_nil, append_nil]
    exact account.usages
  · rw [usages]
    exact account.unexpired

theorem allocated_updateKey {change : CallAllocation → CallAllocation}
    (calls : after.calls = updateKey CallAllocation.callId callId change before.calls)
    (kept : ∀ row, (change row).parentId = row.parentId ∧ (change row).cost = row.cost) :
    ((after.callsOf parent.parentId).map CallAllocation.cost).sum ≤ parent.totalCost := by
  rw [callsOf_updateKey _ calls fun row => (kept row).1, map_updateKey fun row _ _ => (kept row).2]
  exact account.allocated

end

theorem authorized (keyed : Keyed before)
    (account : Account before parent lease) (isOpen : parent.state = .open)
    (charged : call.Charged) (mem : call ∈ before.calls)
    (own : call.parentId = parent.parentId) (intent : call.state = .intent)
    (unexpired : now < lease.expiresAt) (unreleased : lease.releasedAt = none)
    (calls : after.calls =
      updateKey CallAllocation.callId call.callId
        (fun row => row.authorize now usageId) before.calls)
    (usages :
      after.quota.usages = before.quota.usages ++ [⟨hex usageId, parent.leaseId, call.cost, now⟩]) :
    Account after parent (lease.charge call.cost) := by
  have callsAfter := callsOf_updateKey parent.parentId calls fun _ => rfl
  have usagesAfter : after.quota.usagesOf parent.leaseId =
      before.quota.usagesOf parent.leaseId ++ [⟨hex usageId, parent.leaseId, call.cost, now⟩] := by
    unfold QuotaLedger.usagesOf
    rw [usages, filter_append]
    simp
  have listed : call ∈ before.callsOf parent.parentId := mem_filter.mpr ⟨mem, by simpa using own⟩
  have unique : ((before.callsOf parent.parentId).map CallAllocation.callId).Nodup :=
    keyed.callsUnique.sublist (filter_sublist.map _)
  have uncharged : call.charge? parent.leaseId = none :=
    charged.charge?_eq_none _ (by rw [intent]; decide)
  refine ⟨account.units, ?_, ?_, ?_, Or.inl ⟨isOpen, unreleased⟩⟩
  · exact account.allocated_updateKey calls fun _ => ⟨rfl, rfl⟩
  · rw [callsAfter, usagesAfter]
    have charge : (call.authorize now usageId).charge? parent.leaseId =
        some ⟨hex usageId, parent.leaseId, call.cost, now⟩ := rfl
    refine (account.usages.append_right _).trans ?_
    symm
    exact filterMap_updateKey_perm unique listed uncharged charge
  · rw [usagesAfter]
    refine forall_mem_concat.mpr ⟨account.unexpired, ?_⟩
    exact unexpired

theorem ended {call : CallAllocation}
    (account : Account before parent lease) (isOpen : parent.state = .open)
    (calls : after.calls =
      updateKey CallAllocation.callId call.callId
        (fun row => row.finish state outcome now) before.calls)
    (usages : after.quota.usages = before.quota.usages) :
    Account after parent lease := by
  have callsAfter := callsOf_updateKey parent.parentId calls fun _ => rfl
  have usagesAfter :
      after.quota.usagesOf parent.leaseId = before.quota.usagesOf parent.leaseId := by
    unfold QuotaLedger.usagesOf
    rw [usages]
  have unreleased := account.unreleased_of_open isOpen
  refine ⟨account.units, ?_, ?_, ?_, Or.inl ⟨isOpen, unreleased⟩⟩
  · exact account.allocated_updateKey calls fun _ => ⟨rfl, rfl⟩
  · have sameCharges :
        (after.callsOf parent.parentId).filterMap (CallAllocation.charge? parent.leaseId) =
          (before.callsOf parent.parentId).filterMap (CallAllocation.charge? parent.leaseId) := by
      rw [callsAfter]
      exact filterMap_updateKey fun _ _ _ => rfl
    rw [sameCharges, usagesAfter]
    exact account.usages
  · rw [usagesAfter]
    exact account.unexpired

theorem released (account : Account before parent lease)
    (settled : ∀ call ∈ before.callsOf parent.parentId, call.state.Terminal)
    (calls : after.calls = before.calls) (usages : after.quota.usages = before.quota.usages)
    (kept : closed.parentId = parent.parentId ∧ closed.leaseId = parent.leaseId ∧
      closed.totalCost = parent.totalCost)
    (state : closed.state.Released) :
    Account after closed (lease.release now) := by
  have sameCalls : after.callsOf closed.parentId = before.callsOf parent.parentId := by
    unfold Database.callsOf
    rw [calls, kept.1]
  have sameUsages : after.quota.usagesOf closed.leaseId = before.quota.usagesOf parent.leaseId := by
    unfold QuotaLedger.usagesOf
    rw [usages, kept.2.1]
  refine ⟨account.units.trans kept.2.2.symm, ?_, ?_, ?_,
    Or.inr ⟨state, by simp [LeaseRow.release], ?_⟩⟩
  · rw [sameCalls, kept.2.2]
    exact account.allocated
  · rw [sameCalls, sameUsages, kept.2.1]
    exact account.usages
  · rw [sameUsages]
    exact account.unexpired
  · rw [sameCalls]
    exact settled

end Account

/-! ## All parents -/

/-- The invariants of the tables. -/
structure Accounts (db : Database) : Prop where
  keyed : Keyed db
  sound : SoundLedger db.quota
  covered : CoveredLedger db.quota
  account : ∀ {parent lease}, parent ∈ db.parents →
    db.leaseRow parent.leaseId = some lease → Account db parent lease
  readable :
    ∀ {parent}, parent ∈ db.parents → ∃ snapshot, db.snapshotParent parent.parentId = .ok snapshot

variable {time : Time} {row : ParentRow} {operationId : String}

namespace Accounts

variable {before after : Database} {now : Time} {parentId : String}

/-- An operation keeps the account of the parent it is about. -/
theorem account_step (accounts : Accounts before)
    (move : AuthorityMove before now row.parentId after) (mem : row ∈ after.parents)
    (leaseFound : after.leaseRow row.leaseId = some lease) :
    Account after row lease := by
  have unique := (accounts.keyed.step move).parentsUnique
  generalize named : row.parentId = touched at move
  cases move with
  | reserved window granted parent freshParent freshLease stored drawn fresh
      room sameLease units positive unused unreleased grantedAt lasting
      isOpen =>
      have isNew : row = parent := eq_of_key_eq unique mem (mem_append_right _ (by simp)) named
      subst isNew
      have isGranted : lease = granted := by
        have found := findKey_append_singleton fresh
        rw [sameLease] at found
        exact Option.some_inj.mp (leaseFound.symm.trans found)
      subst isGranted
      exact Account.reserved accounts.keyed freshParent freshLease rfl rfl
        units positive isOpen unreleased
  | intended parent call found isOpen fresh own positive within intent unauthorized unused =>
    have isParent : row = parent := eq_of_key_eq unique mem (mem_of_findKey found).1 named
    subst isParent
    refine (accounts.account mem leaseFound).intended isOpen ?_ rfl within unused
    rw [callsOf_append, if_pos own]
  | authorized parent granted call usageId found isOpen grantedFound callFound
      own intent unreleased unexpired within =>
      have isParent : row = parent := eq_of_key_eq unique mem (mem_of_findKey found).1 named
      subst isParent
      have charged : lease = granted.charge call.cost := by
        have updated : findKey LeaseRow.leaseId row.leaseId
              (updateKey LeaseRow.leaseId row.leaseId (fun lease => lease.charge call.cost)
                before.quota.leases) =
            some (granted.charge call.cost) :=
          findKey_updateKey (fun _ => rfl) grantedFound
        exact Option.some_inj.mp (leaseFound.symm.trans updated)
      subst charged
      obtain ⟨_, taken⟩ := accounts.readable mem
      have callMem := (mem_of_findKey callFound).1
      have callCharged := charged_of_snapshotParent taken call
        (mem_filter.mpr ⟨callMem, by simpa using own⟩)
      exact Account.authorized accounts.keyed
        (accounts.account mem grantedFound) isOpen callCharged callMem
        own intent unexpired unreleased rfl rfl
  | ended parent call state outcome found isOpen callFound own ends =>
    have isParent : row = parent := eq_of_key_eq unique mem (mem_of_findKey found).1 named
    subst isParent
    exact (accounts.account mem leaseFound).ended isOpen rfl rfl
  | released parent granted found isOpen settled grantedFound unreleased =>
    have updated : findKey LeaseRow.leaseId parent.leaseId
          (updateKey LeaseRow.leaseId parent.leaseId
            (fun lease => lease.release now) before.quota.leases) =
        some (granted.release now) :=
      findKey_updateKey (fun _ => rfl) grantedFound
    obtain ⟨old, oldMem, ⟨isParent, rfl⟩ | ⟨different, rfl⟩⟩ := mem_updateKey.mp mem
    · have same : old = parent :=
        eq_of_key_eq accounts.keyed.parentsUnique oldMem (mem_of_findKey found).1 isParent
      subst same
      have isReleased : lease = granted.release now :=
        Option.some_inj.mp (leaseFound.symm.trans updated)
      subst isReleased
      refine (accounts.account oldMem grantedFound).released settled rfl
        rfl ⟨rfl, rfl, rfl⟩ ?_
      simp only [ParentState.Released]
      split <;> simp
    · exact absurd named different

theorem quotaMoves (accounts : Accounts before)
    (clocked : ∀ lease ∈ before.quota.leases, ∃ trusted ∈ before.clock, lease.grantedAt ≤ trusted)
    (timely : ∀ trusted ∈ before.clock, trusted ≤ now)
    (move : AuthorityMove before now parentId after) :
    QuotaMoves True before.quota after.quota := by
  cases move with
  | reserved window lease parent freshParent freshLease stored drawn fresh
      room named units positive unused unreleased granted lasting =>
      have moved : QuotaMove True before.quota
          { before.quota with
            leases := before.quota.leases ++ [lease], attempts := before.quota.attempts ++ [] } :=
        .granted window lease [] stored drawn fresh positive unused unreleased
          (granted ▸ lasting) (granted ▸ room) (by simp)
      rw [append_nil] at moved
      exact .single moved
  | intended => exact .refl
  | authorized parent lease call usageId found isOpen leaseFound callFound own
      intent unreleased unexpired within =>
      obtain ⟨_, taken⟩ := accounts.readable (mem_of_findKey found).1
      have charged := charged_of_snapshotParent taken call
        (mem_filter.mpr ⟨(mem_of_findKey callFound).1, by simpa using own⟩)
      obtain ⟨stored, named⟩ := mem_of_findKey leaseFound
      rw [← named]
      refine .single (.consumed lease ⟨hex usageId, lease.leaseId, call.cost, now⟩ stored rfl
        charged.positive unreleased unexpired within ?_)
      -- every grant is behind the clock, and the lease expires ahead of it
      rintro - other otherMem
      obtain ⟨trusted, shown, granted⟩ := clocked other (mem_filter.mp otherMem).1
      exact (granted.trans (timely trusted shown)).trans_lt unexpired
  | ended => exact .refl
  | released parent lease found isOpen settled leaseFound unreleased granted =>
    obtain ⟨stored, named⟩ := mem_of_findKey leaseFound
    rw [← named]
    exact .single (.released lease now stored granted)

theorem mem_of_untouched (keyed : Keyed after) (mem : row ∈ after.parents)
    (untouched : Untouched row.parentId before after) :
    before.parentRow row.parentId = some row :=
  untouched.parentRow.symm.trans (keyed.parentRow_of_mem mem)

theorem step {request : Request}
    (accounts : Accounts before)
    (clocked : ∀ lease ∈ before.quota.leases, ∃ trusted ∈ before.clock, lease.grantedAt ≤ trusted)
    (outcome : BodyOutcome request now before after parent call) :
    Accounts after := by
  have moves := accounts.quotaMoves clocked outcome.timely outcome.move
  have keyed := accounts.keyed.step outcome.move
  refine
    { keyed, sound := accounts.sound.of_moves moves,
      covered := accounts.covered.of_moves accounts.sound moves, account := ?_, readable := ?_ }
  · intro row lease mem leaseFound
    by_cases touched : request.parentId = row.parentId
    · exact accounts.account_step (touched ▸ outcome.move) mem leaseFound
    · have untouched := outcome.move.untouched accounts.keyed touched
      have found := mem_of_untouched keyed mem untouched
      have account := accounts.account (mem_of_findKey found).1
        ((untouched.leaseRow found).symm.trans leaseFound)
      exact account.of_untouched found untouched
  · intro row mem
    by_cases touched : request.parentId = row.parentId
    · exact ⟨parent, touched ▸ outcome.snapshot⟩
    · have untouched := outcome.move.untouched accounts.keyed touched
      have found := mem_of_untouched keyed mem untouched
      obtain ⟨snapshot, taken⟩ := accounts.readable (mem_of_findKey found).1
      exact ⟨snapshot, untouched.snapshotParent taken⟩

end Accounts

def Clocked (db : Database) : Prop :=
  ∀ lease ∈ db.quota.leases, ∃ trusted ∈ db.clock, lease.grantedAt ≤ trusted

theorem ParentSnapshot.reservedAt_le_clockHighWater (parent : ParentSnapshot) :
    parent.reservedAt ≤ parent.clockHighWater := by
  unfold ParentSnapshot.clockHighWater
  generalize parent.closedAt.toList ++ _ = times
  induction times using reverseRecOn with
  | nil => exact le_rfl
  | append_singleton earlier last ih =>
    rw [foldl_append]
    exact ih.trans (le_max_left _ _)

theorem Clocked.commit (clocked : Clocked before)
    (commit : Commit authority before operationId request now) :
    Clocked commit.after := by
  have earlier : ∀ lease ∈ before.quota.leases,
      lease.grantedAt ≤ ParentAuthority.nextClock commit.global commit.parent := by
    intro lease mem
    obtain ⟨_, shown, granted⟩ := clocked lease mem
    exact granted.trans (commit.clock_le shown)
  have snapshot := commit.outcome.snapshot
  have leases : ∀ lease ∈ commit.applied.quota.leases,
      lease.grantedAt ≤ ParentAuthority.nextClock commit.global commit.parent := by
    have move := commit.outcome.move
    generalize commit.applied = applied at move snapshot
    generalize named : request.parentId = parentId at move
    cases move with
    | reserved window lease parent freshParent freshLease stored drawn fresh
        room sameLease units positive unused unreleased granted lasting isOpen
        unclosed reservedAt =>
        intro other mem
        rcases mem_append.mp mem with old | new
        · exact earlier other old
        · rw [named] at snapshot
          have shown : commit.parent.reservedAt = parent.reservedAt := by
            obtain ⟨_, _, _, _, rowFound, -, -, -, valid⟩ := snapshotParent_eq_ok snapshot
            cases (findKey_append_singleton freshParent).symm.trans rowFound
            rw [validated_eq_ok valid]
            rfl
          have isGrant : lease.grantedAt = commit.parent.reservedAt :=
            granted.trans (reservedAt.symm.trans shown.symm)
          rw [mem_singleton.mp new, isGrant]
          exact commit.parent.reservedAt_le_clockHighWater.trans commit.parentClock_le
    | intended => exact earlier
    | authorized | released => exact forall_mem_updateKey earlier fun old mem _ => earlier old mem
    | ended => exact earlier
  exact fun lease mem => ⟨_, rfl, leases lease mem⟩

theorem ParentAuthority.Run.accounts {authority : ParentAuthority}
    {allowed : Database → AuthorityCall → Prop} {db : Database} (run : authority.Run allowed db) :
    Accounts db ∧ Clocked db := by
  refine run.invariant (fun db => Accounts db ∧ Clocked db) ?_ ?_ ?_ ?_
  · intro _ created
    obtain ⟨_, rfl, -⟩ := ParentAuthority.created_eq_ok created
    refine ⟨⟨⟨?_, ?_, rfl, ?_, ?_, ?_, ?_⟩, SoundLedger.initial,
      CoveredLedger.initial, ?_, ?_⟩, ?_⟩ <;>
      simp [QuotaLedger.initial, Clocked]
  · rintro before window ⟨accounts, clocked⟩ fresh positive
    have move : QuotaMoves True before.quota
        { before.quota with windows := before.quota.windows ++ [window] } :=
      .single (.declared window fresh positive)
    refine
      ⟨{ keyed := { accounts.keyed with }
         sound := accounts.sound.of_moves move
         covered := accounts.covered.of_moves accounts.sound move
         account := ?_
         readable := ?_ }, clocked⟩
    · intro parent _ mem leaseFound
      exact (accounts.account mem leaseFound).of_untouched
        (accounts.keyed.parentRow_of_mem mem) (.declared before window _)
    · intro parent mem
      obtain ⟨snapshot, taken⟩ := accounts.readable mem
      exact ⟨snapshot, (Untouched.declared before window _).snapshotParent taken⟩
  · rintro before _ _ _ _ ⟨accounts, clocked⟩ - _ - commit
    have stepped := accounts.step clocked commit.outcome
    exact ⟨⟨{ stepped.keyed with }, stepped.sound, stepped.covered,
      fun mem leaseFound => { stepped.account mem leaseFound with }, stepped.readable⟩,
      clocked.commit commit⟩
  · rintro before _ ⟨accounts, clocked⟩
    exact ⟨⟨{ accounts.keyed with }, accounts.sound, accounts.covered,
      fun mem leaseFound => { accounts.account mem leaseFound with }, accounts.readable⟩, clocked⟩

def Database.accounts (db : Database) : List (ParentRow × LeaseRow) :=
  db.parents.filterMap fun parent => (db.leaseRow parent.leaseId).map fun lease => (parent, lease)

/-- What a parent takes out of its window at a time: what it has consumed, and
the rest of its reservation while it is open and has not expired. -/
def takenAt (time : Time) (account : ParentRow × LeaseRow) : ℤ :=
  account.2.usedUnits +
    if account.1.state = .open ∧ time < account.2.expiresAt then
      account.1.totalCost - account.2.usedUnits
    else 0

structure Database.Accounted (db : Database) (parent : ParentRow) (lease : LeaseRow) : Prop where
  consumed_eq_authorized : lease.usedUnits =
    (((db.callsOf parent.parentId).filter fun call =>
      call.state.Dispatched).map CallAllocation.cost).sum
  consumed_eq_usages : lease.usedUnits = ((db.quota.usagesOf parent.leaseId).map UsageRow.units).sum
  consumed_le_allocated :
    lease.usedUnits ≤ ((db.callsOf parent.parentId).map CallAllocation.cost).sum
  allocated_le_total : ((db.callsOf parent.parentId).map CallAllocation.cost).sum ≤ parent.totalCost
  /-- The usage rows under the id of a call are the one it is charged with. -/
  charged_once : ∀ call ∈ db.callsOf parent.parentId,
    (db.quota.usages.filter fun usage => call.usageId.map hex = some usage.usageId) =
      (call.charge? parent.leaseId).toList
  charged_in_time : ∀ usage ∈ db.quota.usagesOf parent.leaseId, usage.consumedAt < lease.expiresAt
  settled : parent.state.Released → ∀ call ∈ db.callsOf parent.parentId, call.state.Terminal
  reported : ∃ snapshot, db.snapshotParent parent.parentId = .ok snapshot ∧
    snapshot.consumedCost = lease.usedUnits ∧
    (parent.state.Released → snapshot.consumedCost + snapshot.unusedReleased = parent.totalCost)

namespace Accounts

variable {db : Database} {parent : ParentRow} {lease : LeaseRow}

theorem mem_accounts : (parent, lease) ∈ db.accounts ↔
    parent ∈ db.parents ∧ db.leaseRow parent.leaseId = some lease := by
  unfold Database.accounts
  rw [mem_filterMap]
  constructor
  · rintro ⟨_, mem, joined⟩
    obtain ⟨_, leaseFound, same⟩ := Option.map_eq_some_iff.mp joined
    cases same
    exact ⟨mem, leaseFound⟩
  · rintro ⟨mem, leaseFound⟩
    exact ⟨parent, mem, by rw [leaseFound]; rfl⟩

theorem map_fst_accounts (keyed : Keyed db) : db.accounts.map Prod.fst = db.parents := by
  refine map_filterMap_of_found ?_
  intro row mem
  obtain ⟨lease, stored, named⟩ := mem_map.mp
    (keyed.leased ▸ mem_map_of_mem mem : row.leaseId ∈ db.quota.leases.map LeaseRow.leaseId)
  have found : db.leaseRow row.leaseId = some lease :=
    named ▸ findKey_of_mem keyed.leasesUnique stored
  exact ⟨(row, lease), by rw [found]; rfl, rfl⟩

theorem map_snd_accounts (keyed : Keyed db) : db.accounts.map Prod.snd = db.quota.leases := by
  have joined :
      db.accounts.map Prod.snd = (db.parents.map ParentRow.leaseId).filterMap db.leaseRow := by
    unfold Database.accounts
    rw [map_filterMap, filterMap_map]
    apply filterMap_congr
    intro _ _
    simp
  have found : ∀ lease ∈ db.quota.leases, (db.leaseRow ∘ LeaseRow.leaseId) lease = some lease :=
    fun lease mem => findKey_of_mem keyed.leasesUnique mem
  rw [joined, keyed.leased, filterMap_map, filterMap_congr found, filterMap_some]

section

variable (accounts : Accounts db)

include accounts

section

variable (mem : parent ∈ db.parents) (leaseFound : db.leaseRow parent.leaseId = some lease)

include mem leaseFound

theorem charged_once : ∀ call ∈ db.callsOf parent.parentId,
    (db.quota.usages.filter fun usage => call.usageId.map hex = some usage.usageId) =
      (call.charge? parent.leaseId).toList := by
  intro call callMem
  obtain ⟨_, taken⟩ := accounts.readable mem
  have charged := charged_of_snapshotParent taken call callMem
  by_cases dispatched : call.state.Dispatched
  · obtain ⟨usage, isCharge, -, named⟩ := charged.exists_charge parent.leaseId dispatched
    have listed : usage ∈ db.quota.usagesOf parent.leaseId :=
      (accounts.account mem leaseFound).usages.mem_iff.mpr
        (mem_filterMap.mpr ⟨call, callMem, isCharge⟩)
    rw [isCharge, named]
    refine filter_eq_singleton accounts.keyed.usagesUnique (mem_filter.mp listed).1 (by simp) ?_
    intro _ _ same
    simpa [eq_comm] using same
  · rw [charged.charge?_eq_none _ dispatched, (charged.unauthorized dispatched).1]
    simp

theorem accounted : db.Accounted parent lease := by
  have account := accounts.account mem leaseFound
  obtain ⟨snapshot, taken⟩ := accounts.readable mem
  have charged := charged_of_snapshotParent taken
  obtain ⟨stored, named⟩ := mem_of_findKey leaseFound
  have balanced : lease.usedUnits = ((db.quota.usagesOf parent.leaseId).map UsageRow.units).sum :=
    named ▸ accounts.sound.balanced lease stored
  have consumed : lease.usedUnits =
      (((db.callsOf parent.parentId).filter fun call =>
        call.state.Dispatched).map CallAllocation.cost).sum := by
    rw [balanced, (account.usages.map UsageRow.units).sum_eq, sum_charges charged]
  refine
    { consumed_eq_authorized := consumed, consumed_eq_usages := balanced,
      consumed_le_allocated := ?_, allocated_le_total := account.allocated,
      charged_once := accounts.charged_once mem leaseFound, charged_in_time := account.unexpired,
      settled := ?_, reported := ⟨snapshot, taken, ?_, ?_⟩ }
  · rw [consumed]
    refine (filter_sublist.map CallAllocation.cost).sum_le_sum ?_
    intro cost costMem
    obtain ⟨call, callMem, rfl⟩ := mem_map.mp costMem
    have positive := (charged call callMem).positive
    omega
  · intro released
    rcases account.standing with ⟨isOpen, -⟩ | ⟨-, -, settled⟩
    · rw [isOpen] at released
      exact absurd released (by decide)
    · exact settled
  · obtain ⟨row, found, window, calls, rowFound, foundLease, -, -, valid⟩ :=
      snapshotParent_eq_ok taken
    rw [accounts.keyed.parentRow_of_mem mem] at rowFound
    cases rowFound
    rw [leaseFound] at foundLease
    cases foundLease
    rw [validated_eq_ok valid]
    rfl
  · intro released
    obtain ⟨row, found, window, calls, rowFound, foundLease, -, -, valid⟩ :=
      snapshotParent_eq_ok taken
    rw [accounts.keyed.parentRow_of_mem mem] at rowFound
    cases rowFound
    rw [validated_eq_ok valid]
    simp [Database.assemble, released]

end

theorem takenAt_le_owed (listed : (parent, lease) ∈ db.accounts) :
    takenAt time (parent, lease) ≤ db.quota.owed time lease := by
  obtain ⟨mem, leaseFound⟩ := mem_accounts.mp listed
  have account := accounts.account mem leaseFound
  have within := (accounts.sound.within lease (mem_of_findKey leaseFound).1).2
  unfold takenAt
  by_cases held : parent.state = .open ∧ time < lease.expiresAt
  · have isHeld : db.quota.held time lease = true := by
      simp [QuotaLedger.held, account.unreleased_of_open held.1, held.2]
    rw [if_pos held, owed_of_held isHeld, ← account.units]
    simp
  · rw [if_neg held, add_zero]
    exact usedUnits_le_owed within time

theorem sum_takenAt_le (clocked : Clocked db)
    (stored : window ∈ db.quota.windows) (passed : ∀ trusted ∈ db.clock, trusted ≤ time) :
    ((db.accounts.filter fun account => account.2.windowKey = window.key).map (takenAt time)).sum ≤
      window.totalUnits := by
  have leases : (db.accounts.filter fun account => account.2.windowKey = window.key).map Prod.snd =
      db.quota.leasesOf window.key := by
    unfold QuotaLedger.leasesOf
    rw [← map_snd_accounts accounts.keyed, filter_map]
    rfl
  have positive := accounts.sound.totalsPositive window stored
  calc
    ((db.accounts.filter fun account => account.2.windowKey = window.key).map (takenAt time)).sum
      ≤ ((db.accounts.filter fun account =>
          account.2.windowKey = window.key).map fun account => db.quota.owed time account.2).sum :=
        sum_le_sum fun account mem => accounts.takenAt_le_owed (mem_filter.mp mem).1
    _ = outstanding db.quota.owed time (db.quota.leasesOf window.key) := by
        rw [← leases, outstanding, map_map]
        rfl
    _ ≤ window.totalUnits := by
        refine (accounts.covered window stored).sum_le (by omega) ?_
        intro lease mem latest latestMem
        obtain ⟨trusted, shown, granted⟩ := clocked latest (mem_filter.mp latestMem).1
        exact owed_antitone (accounts.sound.within lease (mem_filter.mp mem).1).2
          (granted.trans (passed trusted shown))

end

end Accounts

/-- In every run each parent is charged with its authorised calls, each once
and in time, within what its calls were allocated and within its reservation;
a released parent has settled its calls and accounts for its whole reservation;
and at no time from the clock on do the parents of a window take more than its
total. -/
theorem parent_quota_accounting (authority : ParentAuthority) {db : Database}
    (run : authority.Run (fun _ _ => True) db) :
    db.accounts.map Prod.fst = db.parents ∧
    (∀ account ∈ db.accounts, db.Accounted account.1 account.2) ∧
    ∀ window ∈ db.quota.windows, ∀ time, (∀ trusted ∈ db.clock, trusted ≤ time) →
      ((db.accounts.filter fun account =>
          account.2.windowKey = window.key).map (takenAt time)).sum ≤
        window.totalUnits := by
  obtain ⟨accounts, clocked⟩ := run.accounts
  refine ⟨Accounts.map_fst_accounts accounts.keyed, ?_, ?_⟩
  · rintro ⟨_, _⟩ listed
    obtain ⟨member, leaseFound⟩ := Accounts.mem_accounts.mp listed
    exact accounts.accounted member leaseFound
  · intro window stored time passed
    exact accounts.sum_takenAt_le clocked stored passed

/-! ## A small window -/

namespace ParentAuthority

/-- An authority whose digests tell the leases and calls of the samples
apart. -/
def sample : ParentAuthority where
  authorityId := "quota"
  keyId := "key"
  signer :=
    { sign := fun _ => "signed"
      verify := fun _ signature => signature = "signed" }
  digests :=
    { requestHash := fun _ _ => 1
      payloadHash := fun _ => 1
      resultHash := fun _ => 1
      replayPayloadHash := fun _ _ => 1
      operationChainHash := fun _ => 1
      receiptJsonHash := fun _ => 1
      materializedHash := fun _ => 1
      usageId := fun callId _ => if callId = "first" then 1 else 2
      signatureHash := fun _ => 1
      checkpointHash := fun _ => 1
      pinOperation := fun _ _ => 1
      advanceOperation := fun _ _ _ _ => 1 }
  store := SourceQuotaStore.sample
  root := none
  authorityId_stripped := by decide
  keyId_stripped := by decide

def sampleStart : Database where
  quota := QuotaLedger.initial
  parents := []
  calls := []
  journal := []
  parentCheckpoints := []
  globalCheckpoint := some ⟨0, 0, journalZeroHash, none, "key", "signed"⟩
  external := none

/-- A window of ten units: `live` reserves six and spends four of them,
`research` reserves what is left, and `live` releases its rest. -/
def sampleCalls : List AuthorityCall :=
  [ .declareWindow "ticks" "today" 0 100 10,
    .perform "1" (.reserveParent "p" "ticks" "live" 6 50 ⟨1, 1, 1⟩) 1 0,
    .perform "2" (.recordIntent "p" "first" 4) 2 0,
    .perform "3" (.authorizeDispatch "p" "first") 3 0,
    .perform "4" (.reserveParent "q" "ticks" "research" 4 60 ⟨1, 1, 1⟩) 4 0,
    .perform "5" (.finalize "p" "first" .success) 5 0, .perform "6" (.releaseUnused "p") 6 0 ]

/-- Two parents share the window; one has spent four units and released
two. -/
theorem parent_quota_accounting_sample :
    ∃ db, sample.Run (fun _ _ => True) db ∧ db.parents.map ParentRow.state = [.compensated, .open] ∧
      db.quota.leases.map LeaseRow.usedUnits = [4, 0] ∧
      db.accounts.map Prod.fst = db.parents :=
  have run : sample.Run (fun _ _ => True) (sampleCalls.foldl sample.apply sampleStart) :=
    ⟨sampleStart, rfl, reaches_foldl (fun _ _ => trivial) _ _⟩
  ⟨_, run, by decide +kernel, by decide +kernel, (parent_quota_accounting sample run).1⟩

/-! ## The journal -/

/-- The journal is one chain of hashes without gaps, and the checkpoint names
its length and its head. -/
structure JournalChained (db : Database) : Prop where
  ordinals : db.journal.map JournalRow.globalOrdinal = range' 1 db.journal.length
  chained : db.journal.IsChain fun earlier later =>
    later.previousGlobalHash = earlier.operationHash
  checkpoint : ∀ checkpoint ∈ db.globalCheckpoint,
    checkpoint.journalCount = db.journal.length ∧
      checkpoint.globalHeadHash = (db.journal.getLast?.map JournalRow.operationHash).getD 0

variable {authority : ParentAuthority} {db : Database}
  {allowed : Database → AuthorityCall → Prop}

/-- In every run the journal is numbered without gaps and chained by its hashes
up to the checkpoint. -/
theorem journal_chained (run : authority.Run allowed db) : JournalChained db := by
  refine run.invariant JournalChained ?_ (fun kept _ _ => ⟨kept.1, kept.2, kept.3⟩) ?_
    fun kept => ⟨kept.1, kept.2, kept.3⟩
  · intro _ created
    obtain ⟨_, rfl, -⟩ := created_eq_ok created
    exact ⟨rfl, .nil, by rintro _ ⟨⟩; exact ⟨rfl, rfl⟩⟩
  · intro before _ _ _ _ kept _ _ _ commit
    obtain ⟨length, head⟩ :=
      kept.checkpoint _ (clock_of_validateGlobalCheckpoint commit.anchored).1
    refine ⟨?_, ?_, ?_⟩
    · simp only [Commit.after, map_append, kept.ordinals, length_append]
      rw [length_singleton, range'_1_concat, map_singleton]
      have : commit.row.globalOrdinal = commit.global.journalCount + 1 := rfl
      rw [this, length, Nat.add_comm]
    · refine isChain_append.mpr ⟨kept.chained, .singleton _, ?_⟩
      intro last isLast row isRow
      cases isRow
      rw [isLast] at head
      exact head
    · rintro _ ⟨⟩
      refine ⟨?_, by simp [Commit.after, Commit.globalMark]⟩
      simp only [Commit.after, length_append, ← length]
      rfl

/-- The journal of the sample calls. -/
theorem journal_chained_sample : JournalChained (sampleCalls.foldl sample.apply sampleStart) :=
  journal_chained ⟨sampleStart, rfl, reaches_foldl (fun _ _ => trivial) _ _⟩

/-- A call leaves everything that is stored about other parents alone. -/
theorem other_parents_untouched {request : Request} {other operationId : String} {now : Time}
    {nonce : Digest} (run : authority.Run allowed db)
    (different : ∀ checked, request.normalized = .ok checked → checked.parentId ≠ other) :
    Untouched other db (authority.apply db (.perform operationId request now nonce)) := by
  have done := authority.perform_cases db operationId request now nonce
  unfold ParentAuthority.apply
  rcases done with same | ⟨checked, normalizedAs, commit, answered⟩
  · simp only [same]
    exact .refl _ _
  · simp only [answered]
    have kept := commit.outcome.move.untouched run.accounts.1.keyed (different checked normalizedAs)
    exact { kept with }

/-- While `q` is open, `p` releases what it has not spent. -/
theorem other_parents_untouched_sample :
    let db := (sampleCalls.take 6).foldl sample.apply sampleStart
    let after := sample.apply db (.perform "6" (.releaseUnused "p") 6 0)
    db.parents.map ParentRow.state = [.open, .open] ∧
      after.parents.map ParentRow.state = [.compensated, .open] ∧ Untouched "q" db after := by
  refine ⟨by decide +kernel, by decide +kernel, ?_⟩
  refine other_parents_untouched ⟨sampleStart, rfl, reaches_foldl (fun _ _ => trivial) _ _⟩ ?_
  intro _ normalizedAs
  cases normalizedAs
  decide

end ParentAuthority

end RQuant.Authority
