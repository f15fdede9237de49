import RQuant.Authority.Moves

/-!
# Parent quota authority: what a move leaves alone

The rows of the tables refer to one another by keys.  With unique keys a move
on one parent does not touch what is stored about another.
-/

namespace RQuant.Authority

open Foundation Quota
open List hiding after next count minimum

/-- Unique keys, and rows that refer to rows that exist.  A parent and its lease
are stored together. -/
structure Keyed (db : Database) : Prop where
  parentsUnique : (db.parents.map ParentRow.parentId).Nodup
  leasesUnique : (db.quota.leases.map LeaseRow.leaseId).Nodup
  leased : db.parents.map ParentRow.leaseId = db.quota.leases.map LeaseRow.leaseId
  callsUnique : (db.calls.map CallAllocation.callId).Nodup
  callsOwned : ∀ call ∈ db.calls, call.parentId ∈ db.parents.map ParentRow.parentId
  usagesUnique : (db.quota.usages.map UsageRow.usageId).Nodup
  usagesOwned : ∀ usage ∈ db.quota.usages, usage.leaseId ∈ db.parents.map ParentRow.leaseId

variable {now : Time} {callId parentId : String} {call : CallAllocation} {after db : Database}
  {change : CallAllocation → CallAllocation}

namespace Keyed

theorem eq_of_leaseId (keyed : Keyed db)
    (leftMem : left ∈ db.parents) (rightMem : right ∈ db.parents)
    (same : left.leaseId = right.leaseId) :
    left = right := by
  have unique : (db.parents.map ParentRow.leaseId).Nodup := keyed.leased ▸ keyed.leasesUnique
  exact eq_of_key_eq unique leftMem rightMem same

theorem parentRow_of_mem (keyed : Keyed db) (mem : parent ∈ db.parents) :
    db.parentRow parent.parentId = some parent :=
  findKey_of_mem keyed.parentsUnique mem

end Keyed

section Changes

variable {before : Database}

theorem callsOf_append : Database.callsOf { before with calls := before.calls ++ [call] } parentId =
    before.callsOf parentId ++ if call.parentId = parentId then [call] else [] := by
  unfold Database.callsOf
  rw [filter_append]
  by_cases own : call.parentId = parentId <;> simp [own]

theorem callsOf_updateKey {after : Database} (parentId : String)
    (calls : after.calls = updateKey CallAllocation.callId callId change before.calls)
    (kept : ∀ row, (change row).parentId = row.parentId) :
    after.callsOf parentId =
      updateKey CallAllocation.callId callId change (before.callsOf parentId) := by
  unfold Database.callsOf
  rw [calls]
  exact filter_updateKey fun row => by rw [kept]

theorem callsOf_updateKey_of_other {after : Database} (keyed : Keyed before)
    (calls : after.calls = updateKey CallAllocation.callId call.callId change before.calls)
    (kept : ∀ row, (change row).parentId = row.parentId)
    (found : before.callRow call.callId = some call) (other : call.parentId ≠ parentId) :
    after.callsOf parentId = before.callsOf parentId := by
  rw [callsOf_updateKey parentId calls kept]
  refine updateKey_of_not_mem fun listed => ?_
  obtain ⟨row, mem, sameId⟩ := mem_map.mp listed
  have stored := mem_filter.mp mem
  have same : row = call := eq_of_key_eq keyed.callsUnique stored.1 (mem_of_findKey found).1 sameId
  subst same
  exact other (of_decide_eq_true stored.2)

theorem callRow_updateKey_of_other {after : Database}
    (calls : after.calls = updateKey CallAllocation.callId call.callId change before.calls)
    (kept : ∀ row, (change row).callId = row.callId)
    (found : before.callRow call.callId = some call) (rowFound : before.callRow callId = some row)
    (other : call.parentId ≠ row.parentId) :
    after.callRow callId = some row := by
  have otherId : callId ≠ call.callId := by
    rintro rfl
    rw [found] at rowFound
    cases rowFound
    exact other rfl
  unfold Database.callRow at rowFound ⊢
  rw [calls, findKey_updateKey_of_ne kept otherId, rowFound]

end Changes

/-- An operation stores no second row under a key, and none without its owner. -/
theorem Keyed.step (keyed : Keyed before) (move : AuthorityMove before now parentId after) :
    Keyed after := by
  cases move with
  | reserved window lease parent freshParent freshLease stored drawn fresh room named units =>
    exact
      { keyed with
        parentsUnique := nodup_concat keyed.parentsUnique freshParent
        leasesUnique := nodup_concat keyed.leasesUnique fresh
        leased := by
          simp only [map_append, map_singleton, keyed.leased, named]
        callsOwned := fun call mem => by
          simp only [map_append, mem_append]
          exact .inl (keyed.callsOwned call mem)
        usagesOwned := fun usage mem => by
          simp only [map_append, mem_append]
          exact .inl (keyed.usagesOwned usage mem) }
  | intended parent call found isOpen fresh own =>
    refine { keyed with
      callsUnique := nodup_concat keyed.callsUnique fresh, callsOwned := ?_ }
    refine forall_mem_concat.mpr ⟨keyed.callsOwned, ?_⟩
    rw [own]
    exact mem_map_of_mem (mem_of_findKey found).1
  | authorized parent lease call usageId found isOpen leaseFound callFound own
      intent unreleased unexpired within fresh =>
      exact
        { keyed with
          leasesUnique := nodup_updateKey keyed.leasesUnique fun _ => rfl
          leased := by
            dsimp only
            rw [map_updateKey]
            · exact keyed.leased
            · exact fun _ _ _ => rfl
          callsUnique := nodup_updateKey keyed.callsUnique fun _ => rfl
          callsOwned :=
            forall_mem_updateKey keyed.callsOwned fun call mem _ => keyed.callsOwned call mem
          usagesUnique := nodup_concat keyed.usagesUnique fresh
          usagesOwned := by
            refine forall_mem_concat.mpr ⟨keyed.usagesOwned, ?_⟩
            exact mem_map_of_mem (mem_of_findKey found).1 }
  | ended parent call state outcome found isOpen callFound own =>
    exact
      { keyed with
        callsUnique := nodup_updateKey keyed.callsUnique fun _ => rfl
        callsOwned :=
          forall_mem_updateKey keyed.callsOwned fun call mem _ => keyed.callsOwned call mem }
  | released parent lease found isOpen settled leaseFound =>
    exact
      { keyed with
        parentsUnique := nodup_updateKey keyed.parentsUnique fun _ => rfl
        leasesUnique := nodup_updateKey keyed.leasesUnique fun _ => rfl
        leased := by
          dsimp only
          rw [map_updateKey, map_updateKey]
          · exact keyed.leased
          all_goals exact fun _ _ _ => rfl
        callsOwned := by
          dsimp only
          rw [map_updateKey]
          · exact keyed.callsOwned
          · exact fun _ _ _ => rfl
        usagesOwned := by
          dsimp only
          rw [map_updateKey]
          · exact keyed.usagesOwned
          · exact fun _ _ _ => rfl }

/-- What is stored about a parent is the same in two databases; windows and
usage rows may have been added. -/
structure Untouched (parentId : String) (before after : Database) : Prop where
  parentRow : after.parentRow parentId = before.parentRow parentId
  callsOf : after.callsOf parentId = before.callsOf parentId
  leaseRow : ∀ {parent}, before.parentRow parentId = some parent →
    after.leaseRow parent.leaseId = before.leaseRow parent.leaseId
  usagesOf : ∀ {parent}, before.parentRow parentId = some parent →
    after.quota.usagesOf parent.leaseId = before.quota.usagesOf parent.leaseId
  windowRow : ∀ {source windowId window},
    before.windowRow source windowId = some window → after.windowRow source windowId = some window
  callRow : ∀ {callId call}, before.callRow callId = some call →
    call.parentId = parentId → after.callRow callId = some call
  usageRow : ∀ {usageId usage}, findKey UsageRow.usageId usageId before.quota.usages = some usage →
    findKey UsageRow.usageId usageId after.quota.usages = some usage

namespace Untouched

theorem refl (db : Database) (parentId : String) : Untouched parentId db db where
  parentRow := rfl
  callsOf := rfl
  leaseRow _ := rfl
  usagesOf _ := rfl
  windowRow := id
  callRow found _ := found
  usageRow := id

theorem declared (before : Database) (window : WindowRow) (parentId : String) :
    Untouched parentId before
      { before with
        quota := { before.quota with
          windows := before.quota.windows ++ [window] } } where
  parentRow := rfl
  callsOf := rfl
  leaseRow _ := rfl
  usagesOf _ := rfl
  windowRow := findKey_append_of_some
  callRow found _ := found
  usageRow := id

end Untouched

/-- An operation on one parent changes no row of another. -/
theorem AuthorityMove.untouched
    (move : AuthorityMove before now touched after) (keyed : Keyed before)
    (different : touched ≠ other) :
    Untouched other before after := by
  cases move with
  | reserved window lease parent freshParent freshLease stored drawn fresh room named =>
    refine { Untouched.refl before other with
      parentRow := findKey_append_singleton_of_ne different, leaseRow := ?_ }
    intro row found
    refine findKey_append_singleton_of_ne ?_
    rintro same
    have taken : lease.leaseId ∈ before.parents.map ParentRow.leaseId :=
      same ▸ mem_map_of_mem (mem_of_findKey found).1
    exact freshLease (named ▸ taken)
  | intended parent call found isOpen fresh own =>
    refine { Untouched.refl before other with
      callsOf := ?_
      callRow := fun found _ => findKey_append_of_some found }
    rw [callsOf_append, if_neg (own ▸ different), append_nil]
  | authorized parent lease call usageId found isOpen leaseFound callFound own =>
    have otherLease :
        ∀ {row}, before.parentRow other = some row → row.leaseId ≠ parent.leaseId := by
      intro row rowFound same
      have isParent : row = parent :=
        keyed.eq_of_leaseId (mem_of_findKey rowFound).1 (mem_of_findKey found).1 same
      exact different (isParent ▸ (mem_of_findKey rowFound).2)
    exact
      { parentRow := rfl
        callsOf := callsOf_updateKey_of_other keyed rfl (fun _ => rfl) callFound (own ▸ different)
        leaseRow := fun rowFound => findKey_updateKey_of_ne (fun _ => rfl) (otherLease rowFound)
        usagesOf := fun rowFound => by
          simp [QuotaLedger.usagesOf, filter_append, (otherLease rowFound).symm]
        windowRow := id
        callRow := by
          rintro callId row rowFound rfl
          exact callRow_updateKey_of_other rfl (fun _ => rfl) callFound rowFound (own ▸ different)
        usageRow := findKey_append_of_some }
  | ended parent call state outcome found isOpen callFound own =>
    refine { Untouched.refl before other with
      callsOf := callsOf_updateKey_of_other keyed rfl (fun _ => rfl) callFound (own ▸ different)
      callRow := ?_ }
    rintro callId row rowFound rfl
    exact callRow_updateKey_of_other rfl (fun _ => rfl) callFound rowFound (own ▸ different)
  | released parent lease found isOpen settled leaseFound =>
    refine { Untouched.refl before other with
      parentRow := findKey_updateKey_of_ne (fun _ => rfl) different.symm
      leaseRow := ?_ }
    intro row rowFound
    refine findKey_updateKey_of_ne (fun _ => rfl) ?_
    intro same
    have isParent : row = parent :=
      keyed.eq_of_leaseId (mem_of_findKey rowFound).1 (mem_of_findKey found).1 same
    exact different (isParent ▸ (mem_of_findKey rowFound).2)

end RQuant.Authority
