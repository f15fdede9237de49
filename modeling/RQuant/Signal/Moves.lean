import RQuant.Signal.Calls

/-!
# What a call does to the outbox

Rows of the outbox are never removed, and a row changes by one of six moves.
Each call is inverted once into the moves it makes, the rows it adds and the
attempts it records; the laws of the outbox are then proved move by move.
-/

namespace RQuant.Signal

open Foundation
open List hiding after next count minimum

/-- The conditions under which a row is read back as an `OutboxRecord`. -/
structure ReadableRow (digests : SignalDigests) (row : OutboxRow) : Prop where
  created_lt : row.createdAt < row.expiresAt
  created_le : row.createdAt ≤ row.updatedAt
  active : row.status.Terminal ∨ row.updatedAt < row.expiresAt
  next_ge : ∀ next ∈ row.nextAttemptAt, row.updatedAt ≤ next
  next_lt : ∀ next ∈ row.nextAttemptAt, next < row.expiresAt
  paired : row.leaseOwner.isSome = row.leaseUntil.isSome
  leased : row.status = .leased → row.leaseOwner.isSome = true
  deadline_gt : row.status = .leased → ∀ deadline ∈ row.leaseUntil, row.updatedAt < deadline
  deadline_le : row.status = .leased → ∀ deadline ∈ row.leaseUntil, deadline ≤ row.expiresAt
  unleased : row.status = .leased ∨ row.leaseOwner = none
  terminal : row.status.Terminal → row.nextAttemptAt = none ∧ row.leaseOwner = none
  ended : row.status = .expired ∨ row.status = .deadLetter → row.lastError.isSome = true
  retry_next : row.status = .retry → row.nextAttemptAt.isSome = true
  retry_error : row.status = .retry → row.lastError.isSome = true
  identity : row.outboxId = digests.deliveryKey row.signalId row.target
  owner_visible : ∀ owner ∈ row.leaseOwner, ¬ Blank owner
  error_visible : ∀ error ∈ row.lastError, ¬ Blank error

namespace SignalBusStore

variable {store : SignalBusStore}
  {row : OutboxRow} {rows : List OutboxRow} {records : List OutboxRecord}

theorem outboxFromRow_eq_ok :
    store.outboxFromRow row = .ok record ↔ ReadableRow store.digests row ∧ record = row.record := by
  simp only [run_eq_ok, outboxFromRow, OutboxRecord.validateRecord]
  constructor
  · rintro ⟨owner, error, ⟨h1, h2, h3, h4, h5, h6, h7, h8, h9, h10, h11, h12, h13, h14, h15⟩, rfl⟩
    simp only [OutboxRow.record, Option.isSome_map, Option.map_eq_none_iff] at h6 h7 h10 h11 h12 h14
    exact ⟨⟨h1, h2, h3, h4, h5, h6, h7, h8, h9, h10, h11, h12, h13, h14, h15, owner, error⟩, rfl⟩
  · rintro ⟨readable, rfl⟩
    have h := readable
    refine ⟨h.owner_visible, h.error_visible, ⟨h.created_lt, h.created_le,
      h.active, h.next_ge, h.next_lt, ?_, ?_, h.deadline_gt, h.deadline_le,
      ?_, ?_, ?_, h.retry_next, ?_, h.identity⟩, rfl⟩
    · simpa [OutboxRow.record] using h.paired
    · simpa [OutboxRow.record] using h.leased
    · simpa [OutboxRow.record] using h.unleased
    · simpa [OutboxRow.record] using h.terminal
    · simpa [OutboxRow.record] using h.ended
    · simpa [OutboxRow.record] using h.retry_error

theorem readable_of_mapM (read : rows.mapM store.outboxFromRow = .ok records) (mem : row ∈ rows) :
    ReadableRow store.digests row := by
  obtain ⟨_, _, readRow⟩ := exists_of_mapM_eq_ok read mem
  exact (outboxFromRow_eq_ok.mp readRow).1

theorem records_of_mapM (read : rows.mapM store.outboxFromRow = .ok records) :
    records = rows.map OutboxRow.record := by
  have each : rows.map store.outboxFromRow = (rows.map OutboxRow.record).map .ok := by
    rw [map_map]
    apply map_congr_left
    intro _ mem
    exact outboxFromRow_eq_ok.mpr ⟨readable_of_mapM read mem, rfl⟩
  rw [map_of_mapM_eq_ok read] at each
  exact map_injective_iff.mpr (fun _ _ same => Except.ok.inj same) each

end SignalBusStore

inductive MoveKind where
  | expire
  | lease
  | finish
  | giveBack
  | note
  | recover
  deriving DecidableEq

structure OutboxRow.HeldBy (row : OutboxRow) (workerId : String) (attemptNo : ℕ) : Prop where
  leased : row.status = .leased
  owner : row.leaseOwner = some workerId
  counted : row.attemptCount = attemptNo

inductive RowMove (store : SignalBusStore) (row : OutboxRow) :
    MoveKind → OutboxRow → List AttemptRow → Prop where
  | expire {reason : String} {at_ : Time} (waiting : row.status.Waiting) :
      RowMove store row .expire (row.expire reason at_) []
  | lease {worker : String} {at_ deadline : Time} (waiting : row.status.Waiting)
      (readable : ReadableRow store.digests (row.lease worker at_ deadline)) :
      RowMove store row .lease (row.lease worker at_ deadline) []
  | finish {workerId : String} {attemptNo : ℕ}
      {startedAt completedAt : Time} {outcome : CompletionOutcome}
      (held : row.HeldBy workerId attemptNo)
      (readable :
        ReadableRow store.digests (row.finish store.policy attemptNo completedAt outcome row)) :
      RowMove store row .finish (row.finish store.policy attemptNo completedAt outcome row)
        [outcome.attempt row.outboxId attemptNo startedAt completedAt]
  | giveBack {workerId reason : String} {attemptNo : ℕ} {releasedAt : Time}
      (held : row.HeldBy workerId attemptNo)
      (readable : ReadableRow store.digests (row.release reason releasedAt row)) :
      RowMove store row .giveBack (row.release reason releasedAt row) []
  | note {workerId reason : String} {attemptNo : ℕ} {observedAt : Time}
      (held : row.HeldBy workerId attemptNo) :
      RowMove store row .note (row.noteUnknown reason observedAt) []
  | recover {now : Time} (overdue : row.Overdue now)
      (readable : ReadableRow store.digests (row.recover now row)) :
      RowMove store row .recover (row.recover now row) []

/-- The columns no move touches. -/
structure OutboxRow.SameDelivery (row moved : OutboxRow) : Prop where
  outboxId : moved.outboxId = row.outboxId
  signalId : moved.signalId = row.signalId
  target : moved.target = row.target
  expiresAt : moved.expiresAt = row.expiresAt
  createdAt : moved.createdAt = row.createdAt

theorem OutboxRow.SameDelivery.refl (row : OutboxRow) : row.SameDelivery row :=
  ⟨rfl, rfl, rfl, rfl, rfl⟩

variable {store : SignalBusStore} {row moved : OutboxRow} {kind : MoveKind}
  {finished : List AttemptRow}

section

variable (move : RowMove store row kind moved finished)

include move

theorem RowMove.sameDelivery : row.SameDelivery moved := by
  cases move <;> exact ⟨rfl, rfl, rfl, rfl, rfl⟩

omit move in
theorem OutboxRow.recover_status (now : Time) (read row : OutboxRow) :
    (read.recover now row).status = .expired ∨ (read.recover now row).status = .deadLetter := by
  simp only [OutboxRow.recover, OutboxRow.settle]
  split <;> simp

theorem RowMove.terminal_of_ending (ending : kind = .expire ∨ kind = .recover) :
    moved.status.Terminal := by
  cases move with
  | expire => exact .inr (.inl rfl)
  | recover => exact .inr (OutboxRow.recover_status _ row row)
  | lease | finish | giveBack | note => rcases ending with same | same <;> cases same

theorem RowMove.not_terminal : ¬ row.status.Terminal := by
  cases move with
  | expire waiting | lease waiting => exact waiting.not_terminal
  | finish held => rw [held.leased]; decide
  | giveBack held => rw [held.leased]; decide
  | note held => rw [held.leased]; decide
  | recover overdue => rw [overdue.1]; decide

end

/-- What routing does to the outbox: rows of the routed targets expire with
their signal, and targets without a row get one. -/
structure RoutedOutbox (store : SignalBusStore)
    (envelope : EnvelopeRow) (signal : SignalEnvelope) (routedAt : Time)
    (targets : List DeliveryTarget) (before after : List OutboxRow)
    (change : OutboxRow → OutboxRow) (added : List OutboxRow) : Prop where
  outbox : after = before.map change ++ added
  kept : ∀ row ∈ before, change row = row ∨
    (row.status.Waiting ∧ signal.expiresAt ≤ routedAt ∧
      (∃ target ∈ targets, row.outboxId = store.digests.deliveryKey envelope.signalId target) ∧
      change row = row.expire "signal expired before routing" routedAt)
  inserted : ∀ row ∈ added, row.outboxId ∉ before.map OutboxRow.outboxId ∧
    ∃ target ∈ targets, row = store.routedRow envelope signal routedAt target
  uniqueIds : (after.map OutboxRow.outboxId).Nodup
  uniqueTargets : (before.map fun row => (row.signalId, row.target)).Nodup →
    (after.map fun row => (row.signalId, row.target)).Nodup
  covered : ∀ target ∈ targets,
    store.digests.deliveryKey envelope.signalId target ∈ after.map OutboxRow.outboxId

variable {routedAt : Time} {bus : SignalBus} {reason workerId : String} {attemptNo limit : ℕ}
  {kinds : MoveKind → Prop} {change : OutboxRow → OutboxRow} {envelope : EnvelopeRow}
  {signal : SignalEnvelope} {added : List OutboxRow} {targets : List DeliveryTarget}
  {outboxId : Digest} {done : Unit}

namespace RoutedOutbox

section

variable (routed : RoutedOutbox store envelope signal routedAt targets before after change added)

include routed

theorem sameDelivery (mem : row ∈ before) : row.SameDelivery (change row) := by
  rcases routed.kept row mem with same | ⟨_, _, _, expired⟩
  · rw [same]
    exact OutboxRow.SameDelivery.refl row
  · rw [expired]
    exact ⟨rfl, rfl, rfl, rfl, rfl⟩

omit routed in
/-- Routing to one target adds its row or keeps the one that is there. -/
theorem of_routeTarget (unique : (before.map OutboxRow.outboxId).Nodup)
    (routed : store.routeTarget envelope signal routedAt before target = .ok after) :
    ∃ change added, RoutedOutbox store envelope signal routedAt [target] before after change
      added := by
  unfold SignalBusStore.routeTarget at routed
  simp only at routed
  split at routed
  · rename_i existing found
    have known := mem_of_findKey found
    have named : ∀ wanted ∈ [target],
        store.digests.deliveryKey envelope.signalId wanted ∈ before.map OutboxRow.outboxId := by
      intro wanted mem
      rw [mem_singleton] at mem
      subst mem
      exact known.2 ▸ mem_map_of_mem known.1
    split at routed
    · rename_i lapsed
      cases routed
      set expired := updateKey OutboxRow.outboxId
        (store.digests.deliveryKey envelope.signalId target)
        (OutboxRow.expire "signal expired before routing" routedAt) before
        with expiredDef
      have sameIds : expired.map OutboxRow.outboxId = before.map OutboxRow.outboxId :=
        map_updateKey fun _ _ _ => rfl
      have sameTargets : (expired.map fun row => (row.signalId, row.target)) =
          before.map fun row => (row.signalId, row.target) :=
        map_updateKey fun _ _ _ => rfl
      refine ⟨_, [], (append_nil _).symm, ?_, by simp, ?_, ?_, ?_⟩
      · intro row mem
        by_cases same : row.outboxId = store.digests.deliveryKey envelope.signalId target
        · have rowFound : row = existing :=
            eq_of_key_eq unique mem known.1 (same.trans known.2.symm)
          subst rowFound
          exact .inr ⟨lapsed.2, lapsed.1, ⟨target, by simp, same⟩, if_pos same⟩
        · exact .inl (if_neg same)
      · rw [sameIds]
        exact unique
      · intro uniqueTargets
        rw [sameTargets]
        exact uniqueTargets
      · rw [sameIds]
        exact named
    · cases routed
      exact ⟨id, [], by simp, fun row _ => Or.inl rfl, by simp, unique, id, named⟩
  · rename_i missing
    obtain ⟨fresh, rfl⟩ := insertUnique_eq_ok.mp routed
    have freshId := findKey_eq_none.mp missing
    refine ⟨id, [store.routedRow envelope signal routedAt target], by simp,
      fun row _ => Or.inl rfl, ?_, nodup_concat unique freshId,
      fun uniqueTargets => nodup_concat uniqueTargets fresh, ?_⟩
    · intro row mem
      rw [mem_singleton] at mem
      subst mem
      exact ⟨freshId, target, by simp, rfl⟩
    · intro named mem
      rw [mem_singleton] at mem
      subst mem
      simp [SignalBusStore.routedRow]

end

/-- Routing to a list of targets composes the changes of its head and its rest. -/
theorem cons
    (head : RoutedOutbox store envelope signal routedAt [target] before middle first firstAdded)
    (rest : RoutedOutbox store envelope signal routedAt targets middle after second secondAdded) :
    RoutedOutbox store envelope signal routedAt (target :: targets) before
      after (second ∘ first) (firstAdded ++ secondAdded) := by
  have insertedKept : firstAdded.map second = firstAdded := by
    refine (map_congr_left fun row mem => ?_).trans (map_id _)
    obtain ⟨_, inserted, _, rfl⟩ := head.inserted row mem
    -- the targets after it do not expire a row that routing has inserted
    rcases rest.kept _ (head.outbox ▸ mem_append_right _ mem) with same | ⟨waiting, lapsed, _⟩
    · exact same
    · rw [show OutboxRow.status _ = .expired by simp [SignalBusStore.routedRow, lapsed]] at waiting
      exact absurd waiting (by decide)
  have firstMem : ∀ row ∈ before, first row ∈ middle := by
    intro row mem
    rw [head.outbox]
    exact mem_append_left _ (mem_map_of_mem mem)
  constructor
  case outbox => rw [rest.outbox, head.outbox, map_append, map_map, insertedKept, append_assoc]
  case kept =>
    intro row mem
    have sameId := (head.sameDelivery mem).outboxId
    rcases rest.kept (first row) (firstMem row mem) with
      restSame | ⟨waiting, lapsed, ⟨named, namedMem, namedId⟩, expired⟩
    · rw [Function.comp_apply, restSame]
      rcases head.kept row mem with
        same | ⟨waiting, lapsed, ⟨named, namedMem, namedId⟩, expired⟩
      · exact .inl same
      · rw [mem_singleton] at namedMem
        exact .inr ⟨waiting, lapsed, ⟨named, by simp [namedMem], namedId⟩, expired⟩
    · rcases head.kept row mem with same | ⟨_, _, _, ended⟩
      · rw [same] at waiting namedId
        refine .inr ⟨waiting, lapsed, ⟨named, mem_cons_of_mem _ namedMem, namedId⟩, ?_⟩
        rw [Function.comp_apply, expired, same]
      · rw [ended] at waiting
        exact absurd waiting (by simp [OutboxRow.expire, OutboxStatus.Waiting])
  case inserted =>
    intro row mem
    rcases mem_append.mp mem with earlier | later
    · obtain ⟨fresh, named, namedMem, same⟩ := head.inserted row earlier
      rw [mem_singleton] at namedMem
      exact ⟨fresh, named, by simp [namedMem], same⟩
    · obtain ⟨fresh, named, namedMem, same⟩ := rest.inserted row later
      refine ⟨?_, named, mem_cons_of_mem _ namedMem, same⟩
      intro known
      obtain ⟨old, oldMem, sameId⟩ := mem_map.mp known
      apply fresh
      rw [← sameId, ← (head.sameDelivery oldMem).outboxId]
      exact mem_map_of_mem (firstMem old oldMem)
  case uniqueIds => exact rest.uniqueIds
  case uniqueTargets => exact fun unique => rest.uniqueTargets (head.uniqueTargets unique)
  case covered =>
    intro wanted mem
    rcases mem_cons.mp mem with rfl | later
    · obtain ⟨row, rowMem, sameId⟩ := mem_map.mp (head.covered wanted (by simp))
      rw [← sameId, ← (rest.sameDelivery rowMem).outboxId, rest.outbox]
      exact mem_map_of_mem (mem_append_left _ (mem_map_of_mem rowMem))
    · exact rest.covered wanted later

theorem of_foldlM (unique : (before.map OutboxRow.outboxId).Nodup)
    (routed : targets.foldlM (store.routeTarget envelope signal routedAt) before = .ok after) :
    ∃ change added, RoutedOutbox store envelope signal routedAt targets before after change
      added := by
  induction targets generalizing before with
  | nil =>
    cases routed
    exact ⟨id, [], by simp, fun row _ => Or.inl rfl, by simp, unique, id, by simp⟩
  | cons target rest ih =>
    rw [foldlM_cons, bind_eq_ok] at routed
    obtain ⟨_, headRouted, restRouted⟩ := routed
    obtain ⟨_, _, head⟩ := of_routeTarget unique headRouted
    obtain ⟨_, _, tail⟩ := ih head.uniqueIds restRouted
    exact ⟨_, _, head.cons tail⟩

end RoutedOutbox

/-! ## Changes -/

/-- What a call does to the outbox: rows that change by a move, rows it adds,
attempts it records. -/
structure OutboxChange (store : SignalBusStore) (kinds : MoveKind → Prop) (before after : SignalBus)
    (change : OutboxRow → OutboxRow) (added : List OutboxRow)
    (finished : List AttemptRow) : Prop where
  outbox : after.outbox = before.outbox.map change ++ added
  attempts : after.attempts = before.attempts ++ finished
  moved : ∀ row ∈ before.outbox,
    (change row = row ∧ (finished.filter fun attempt => attempt.outboxId = row.outboxId) = []) ∨
    ∃ kind, kinds kind ∧
      RowMove store row kind (change row)
        (finished.filter fun attempt => attempt.outboxId = row.outboxId)
  known : ∀ attempt ∈ finished, attempt.outboxId ∈ before.outbox.map OutboxRow.outboxId
  fresh : ∀ row ∈ added, row.attemptCount = 0 ∧ (row.status = .pending ∨ row.status = .expired) ∧
    row.outboxId ∉ before.outbox.map OutboxRow.outboxId
  uniqueIds : (after.outbox.map OutboxRow.outboxId).Nodup
  uniqueTargets : (before.outbox.map fun row => (row.signalId, row.target)).Nodup →
    (after.outbox.map fun row => (row.signalId, row.target)).Nodup

namespace OutboxChange

theorem sameDelivery (changed : OutboxChange store kinds before after change added finished)
    (mem : row ∈ before.outbox) :
    row.SameDelivery (change row) := by
  rcases changed.moved row mem with ⟨same, _⟩ | ⟨_, _, move⟩
  · rw [same]
    exact OutboxRow.SameDelivery.refl row
  · exact move.sameDelivery

theorem idKept (changed : OutboxChange store kinds before after change added finished)
    (known : outboxId ∈ before.outbox.map OutboxRow.outboxId) :
    outboxId ∈ after.outbox.map OutboxRow.outboxId := by
  obtain ⟨row, mem, rfl⟩ := mem_map.mp known
  rw [changed.outbox, ← (changed.sameDelivery mem).outboxId]
  exact mem_map_of_mem (mem_append_left _ (mem_map_of_mem mem))

theorem of_same (unique : (before.outbox.map OutboxRow.outboxId).Nodup)
    (sameOutbox : after.outbox = before.outbox) (sameAttempts : after.attempts = before.attempts) :
    OutboxChange store kinds before after id [] [] where
  outbox := by simp [sameOutbox]
  attempts := by simp [sameAttempts]
  moved := fun row _ => Or.inl ⟨rfl, rfl⟩
  known := nofun
  fresh := fun _ mem => by cases mem
  uniqueIds := by rw [sameOutbox]; exact unique
  uniqueTargets := by rw [sameOutbox]; exact id

theorem of_map (unique : (before.outbox.map OutboxRow.outboxId).Nodup)
    (sameOutbox : after.outbox = before.outbox.map change)
    (sameAttempts : after.attempts = before.attempts)
    (moved : ∀ row ∈ before.outbox, change row = row ∨
      ∃ kind, kinds kind ∧ RowMove store row kind (change row) []) :
    OutboxChange store kinds before after change [] [] := by
  have same : ∀ row ∈ before.outbox, row.SameDelivery (change row) := by
    intro row mem
    rcases moved row mem with kept | ⟨_, _, move⟩
    · rw [kept]
      exact OutboxRow.SameDelivery.refl row
    · exact move.sameDelivery
  refine ⟨by simp [sameOutbox], by simp [sameAttempts], ?_, by simp, by simp, ?_, ?_⟩
  · intro row mem
    rcases moved row mem with kept | ⟨kind, allowed, move⟩
    · exact .inl ⟨kept, rfl⟩
    · exact .inr ⟨kind, allowed, by simpa using move⟩
  · have sameIds : after.outbox.map OutboxRow.outboxId = before.outbox.map OutboxRow.outboxId := by
      rw [sameOutbox, map_map]
      exact map_congr_left fun row mem => (same row mem).outboxId
    rw [sameIds]
    exact unique
  · intro uniqueTargets
    have sameTargets : (after.outbox.map fun row => (row.signalId, row.target)) =
        before.outbox.map fun row => (row.signalId, row.target) := by
      rw [sameOutbox, map_map]
      apply map_congr_left
      intro row mem
      rw [Function.comp_apply, (same row mem).signalId, (same row mem).target]
    rw [sameTargets]
    exact uniqueTargets

theorem of_updateKey (unique : (before.outbox.map OutboxRow.outboxId).Nodup)
    (found : findKey OutboxRow.outboxId outboxId before.outbox = some row)
    (sameOutbox : after.outbox = updateKey OutboxRow.outboxId outboxId change before.outbox)
    (sameAttempts : after.attempts = before.attempts ++ finished)
    (named : ∀ attempt ∈ finished, attempt.outboxId = outboxId) (allowed : kinds kind)
    (move : RowMove store row kind (change row) finished)
    (keptId : ∀ row, (change row).outboxId = row.outboxId)
    (keptTarget :
      ∀ row, ((change row).signalId, (change row).target) = (row.signalId, row.target)) :
    OutboxChange store kinds before after
      (fun row => if row.outboxId = outboxId then change row else row) []
      finished := by
  have known := mem_of_findKey found
  constructor
  case outbox =>
    rw [append_nil]
    exact sameOutbox
  case attempts => exact sameAttempts
  case moved =>
    intro other mem
    by_cases same : other.outboxId = outboxId
    · have otherRow : other = row := eq_of_key_eq unique mem known.1 (same.trans known.2.symm)
      subst otherRow
      have all : (finished.filter fun attempt => attempt.outboxId = other.outboxId) = finished := by
        rw [filter_eq_self]
        intro attempt attemptMem
        simp [named attempt attemptMem, same]
      rw [if_pos same, all]
      exact .inr ⟨kind, allowed, move⟩
    · exact .inl ⟨if_neg same, filter_of_none fun attempt attemptMem equal =>
        same (equal.symm.trans (named attempt attemptMem))⟩
  case known =>
    intro attempt mem
    rw [named attempt mem, ← known.2]
    exact mem_map_of_mem known.1
  case fresh => simp
  case uniqueIds =>
    rw [sameOutbox, map_updateKey fun row _ _ => keptId row]
    exact unique
  case uniqueTargets =>
    intro uniqueTargets
    rw [sameOutbox, map_updateKey fun row _ _ => keptTarget row]
    exact uniqueTargets

theorem of_routed (allowed : kinds .expire) (sameAttempts : after.attempts = before.attempts)
    (routed :
      RoutedOutbox store envelope signal routedAt targets before.outbox after.outbox change added) :
    OutboxChange store kinds before after change added [] where
  outbox := routed.outbox
  attempts := by simp [sameAttempts]
  moved := by
    intro row mem
    rcases routed.kept row mem with same | ⟨waiting, _, _, expired⟩
    · exact .inl ⟨same, rfl⟩
    · refine .inr ⟨.expire, allowed, ?_⟩
      rw [expired]
      exact RowMove.expire waiting
  known := nofun
  fresh := by
    intro row mem
    obtain ⟨fresh, _, _, rfl⟩ := routed.inserted row mem
    refine ⟨rfl, ?_, fresh⟩
    unfold SignalBusStore.routedRow
    by_cases lapsed : signal.expiresAt ≤ routedAt <;> simp [lapsed]
  uniqueIds := routed.uniqueIds
  uniqueTargets := routed.uniqueTargets

end OutboxChange

namespace SignalBusStore

variable {store : SignalBusStore}
  {outboxId : Digest} {outbox : List OutboxRow} {row : OutboxRow} {record : OutboxRecord}
  {now leaseFor : Time}

theorem outboxRow_eq_ok : outboxRow outboxId outbox = .ok row ↔
    findKey OutboxRow.outboxId outboxId outbox = some row := by
  unfold outboxRow
  exact orRaise_eq_ok

theorem verifyLeaseHolder_eq_ok :
    verifyLeaseHolder workerId attemptNo row = .ok done ↔ row.HeldBy workerId attemptNo := by
  simp only [run_eq_ok, verifyLeaseHolder]
  constructor
  · rintro ⟨leased, owner, counted⟩
    exact ⟨leased, owner, counted⟩
  · intro held
    exact ⟨held.leased, held.owner, held.counted⟩

theorem readable_of_updated (found : findKey OutboxRow.outboxId outboxId outbox = some row)
    (kept : ∀ row, (change row).outboxId = row.outboxId)
    (reread : findKey OutboxRow.outboxId outboxId
      (updateKey OutboxRow.outboxId outboxId change outbox) = some updated)
    (read : store.outboxFromRow updated = .ok record) :
    ReadableRow store.digests (change row) := by
  rw [findKey_updateKey kept found] at reread
  cases reread
  exact (outboxFromRow_eq_ok.mp read).1

/-- A finished attempt was the running one, its row is settled and the attempt
recorded. -/
theorem complete_eq_ok
    (completed :
      store.complete outboxId workerId attemptNo completedAt outcome bus = .ok (record, after)) :
    ∃ row startedAt, findKey OutboxRow.outboxId outboxId bus.outbox = some row ∧
      row.HeldBy workerId attemptNo ∧ 1 ≤ attemptNo ∧
      ReadableRow store.digests (row.finish store.policy attemptNo completedAt outcome row) ∧
      after = { bus with
        outbox := updateKey OutboxRow.outboxId outboxId
          (row.finish store.policy attemptNo completedAt outcome) bus.outbox
        attempts := bus.attempts ++
          [outcome.attempt outboxId attemptNo startedAt completedAt] } := by
  simp only [run_eq_ok, complete, verifyLease, outboxRow_eq_ok, verifyLeaseHolder_eq_ok,
    insertUnique_eq_ok, Prod.mk.injEq] at completed
  obtain ⟨row, found, startedAt, ⟨held, _, _, _, _, _, _, rfl⟩, positive, _,
    ⟨_, rfl⟩, _, reread, _, readUpdated, rfl, rfl⟩ := completed
  exact ⟨row, _, found, held, positive,
    readable_of_updated found (fun _ => rfl) reread readUpdated, rfl⟩

theorem releaseUnattempted_eq_ok
    (released : store.releaseUnattempted outboxId workerId attemptNo releasedAt reason
      bus = (.ok record, after)) :
    ∃ row, findKey OutboxRow.outboxId outboxId bus.outbox = some row ∧
      row.HeldBy workerId attemptNo ∧ 1 ≤ attemptNo ∧
      ReadableRow store.digests (row.release reason releasedAt row) ∧
      after = { bus with
        outbox := updateKey OutboxRow.outboxId outboxId
          (row.release reason releasedAt) bus.outbox } := by
  have body := body_of_writeTransaction released
  simp only [run_eq_ok, outboxRow_eq_ok, verifyLeaseHolder_eq_ok, Prod.mk.injEq] at body
  obtain ⟨_, row, found, held, _, _, _, positive, _, reread, _, readUpdated, _, rfl⟩ := body
  exact ⟨row, found, held, held.counted ▸ positive,
    readable_of_updated found (fun _ => rfl) reread readUpdated, rfl⟩

/-- Evidence of an unknown outcome is about the running attempt; known
evidence changes nothing. -/
theorem recordUnknownDelivery_eq_ok
    (recorded : recordUnknownDelivery outboxId workerId attemptNo observedAt reason
      providerReceipt bus = (.ok evidence, after)) :
    ∃ row startedAt, findKey OutboxRow.outboxId outboxId bus.outbox = some row ∧
      row.HeldBy workerId attemptNo ∧
      row.leaseStartedAt = some startedAt ∧ startedAt ≤ observedAt ∧
      (after = bus ∨ ∃ unknown, after = { bus with
        unknowns := bus.unknowns ++ [unknown]
        outbox := updateKey OutboxRow.outboxId outboxId
          (OutboxRow.noteUnknown (strip reason) observedAt) bus.outbox }) := by
  have body := body_of_writeTransaction recorded
  simp only [run_eq_ok, outboxRow_eq_ok, verifyLeaseHolder_eq_ok, requireTime,
    orRaise_eq_ok] at body
  obtain ⟨_, _, _, _, row, found, held, startedAt, started, le, rest⟩ := body
  refine ⟨row, startedAt, found, held, started, le, ?_⟩
  split at rest
  · simp only [pair_eq_ok] at rest
    exact .inl rest.2.2.symm
  · simp only [pure_eq_ok, Prod.mk.injEq] at rest
    exact .inr ⟨_, rest.2.symm⟩

theorem mem_rowsForOutboxIds :
    row ∈ rowsForOutboxIds outbox outboxIds ↔ row ∈ outbox ∧ row.outboxId ∈ outboxIds := by
  simp [rowsForOutboxIds]

/-- What a claim does to a row: take it, expire it or leave it. -/
def claimChange (worker : String) (now leaseFor : Time) (claimedIds : List Digest)
    (row : OutboxRow) : OutboxRow :=
  if row.outboxId ∈ claimedIds then
    row.lease worker now (min (now + leaseFor) row.expiresAt)
  else if row.Lapsed now then
    row.expire "signal expired before delivery claim" now
  else row

theorem claimChange_outboxId (row : OutboxRow) :
    (claimChange worker now leaseFor claimedIds row).outboxId = row.outboxId := by
  unfold claimChange
  split
  · rfl
  · split <;> rfl

private theorem mem_of_mem_claimCandidates
    (mem : row ∈ claimCandidates now limit (expireLapsed now outbox)) :
    row ∈ outbox ∧ row.Due now := by
  have listed := mem_of_mem_take mem
  rw [mem_sortOn, mem_filter] at listed
  have due : row.Due now := of_decide_eq_true listed.2
  unfold expireLapsed at listed
  obtain ⟨old, oldMem, changed⟩ := mem_map.mp listed.1
  by_cases lapsed : old.Lapsed now
  · rw [if_pos lapsed] at changed
    subst changed
    exact absurd due.1 (by simp [OutboxRow.expire, OutboxStatus.Waiting])
  · rw [if_neg lapsed] at changed
    subst changed
    exact ⟨oldMem, due⟩

private theorem claimCandidates_nodup (unique : (outbox.map OutboxRow.outboxId).Nodup) :
    ((claimCandidates now limit outbox).map OutboxRow.outboxId).Nodup := by
  unfold claimCandidates
  have sorted : ((sortOn OutboxRow.claimKey
      (outbox.filter fun row => row.Due now)).map OutboxRow.outboxId).Nodup :=
    ((perm_sortOn _).map _).nodup_iff.mpr (unique.sublist (filter_sublist.map _))
  exact sorted.sublist ((take_sublist _ _).map _)

/-- A claim leases due rows, ends lapsed ones and hands the leased rows
back. -/
theorem claimDue_eq_ok (unique : (bus.outbox.map OutboxRow.outboxId).Nodup)
    (claimed : store.claimDue workerId now leaseFor limit bus = (.ok records, after)) :
    ∃ claimedIds, ¬ Blank workerId ∧ 0 < leaseFor ∧ claimedIds.Nodup ∧
      (∀ row ∈ bus.outbox, row.outboxId ∈ claimedIds → row.Due now) ∧
      (∀ outboxId ∈ claimedIds, outboxId ∈ bus.outbox.map OutboxRow.outboxId) ∧
      after = { bus with
        outbox := bus.outbox.map (claimChange (strip workerId) now leaseFor claimedIds) } ∧
      (rowsForOutboxIds after.outbox claimedIds).mapM store.outboxFromRow = .ok records := by
  have body := body_of_writeTransaction claimed
  simp only [pair_eq_ok] at body
  obtain ⟨visible, positive, _, _, read, rfl, rfl⟩ := body
  set candidates := claimCandidates now limit (expireLapsed now bus.outbox) with candidatesDef
  have openUnique : ((expireLapsed now bus.outbox).map OutboxRow.outboxId).Nodup := by
    convert unique using 1
    rw [expireLapsed, map_map]
    refine map_congr_left fun _ _ => ?_
    rw [Function.comp_apply]
    split <;> rfl
  have distinct : (candidates.map OutboxRow.outboxId).Nodup := claimCandidates_nodup openUnique
  have due :
      ∀ row ∈ bus.outbox, row.outboxId ∈ candidates.map OutboxRow.outboxId → row.Due now := by
    intro row mem listed
    obtain ⟨candidate, candidateMem, sameId⟩ := mem_map.mp listed
    have known := mem_of_mem_claimCandidates candidateMem
    rw [← eq_of_key_eq unique known.1 mem sameId]
    exact known.2
  have subset : candidates ⊆ expireLapsed now bus.outbox := by
    intro candidate mem
    have listed := mem_of_mem_take mem
    rw [mem_sortOn] at listed
    exact mem_of_mem_filter listed
  have outboxAfter : updateEach OutboxRow.outboxId
        (fun row => OutboxRow.lease (strip workerId) now (min (now + leaseFor) row.expiresAt))
        candidates (expireLapsed now bus.outbox) =
      bus.outbox.map (claimChange (strip workerId) now leaseFor
        (candidates.map OutboxRow.outboxId)) := by
    rw [updateEach_of_subset
      (fun row => OutboxRow.lease (strip workerId) now (min (now + leaseFor) row.expiresAt))
      openUnique subset distinct (fun _ _ => rfl)]
    conv_lhs => rw [expireLapsed, map_map]
    apply map_congr_left
    intro row mem
    rw [Function.comp_apply, claimChange]
    by_cases lapsed : row.Lapsed now
    · have unclaimed : row.outboxId ∉ candidates.map OutboxRow.outboxId := by
        intro listed
        exact absurd (due row mem listed).2.1 (not_lt.mpr lapsed.2)
      rw [if_pos lapsed, if_neg unclaimed]
      exact if_neg unclaimed
    · rw [if_neg lapsed]
  rw [outboxAfter] at read ⊢
  refine ⟨_, visible, positive, distinct, due, ?_, rfl, read⟩
  intro outboxId listed
  obtain ⟨candidate, candidateMem, rfl⟩ := mem_map.mp listed
  exact mem_map_of_mem (mem_of_mem_claimCandidates candidateMem).1

theorem recoverExpiredLeases_eq_ok (unique : (bus.outbox.map OutboxRow.outboxId).Nodup)
    (recovered : store.recoverExpiredLeases now bus = (.ok records, after)) :
    after = { bus with
      outbox := bus.outbox.map fun row => if row.Overdue now then row.recover now row else row } ∧
    ∃ recoveredIds, (∀ row ∈ bus.outbox, row.outboxId ∈ recoveredIds ↔ row.Overdue now) ∧
      (rowsForOutboxIds after.outbox recoveredIds).mapM store.outboxFromRow = .ok records := by
  have body := body_of_writeTransaction recovered
  simp only [pair_eq_ok] at body
  obtain ⟨_, read, rfl, rfl⟩ := body
  set overdue := sortOn OutboxRow.recoveryKey
    (bus.outbox.filter fun row => row.Overdue now) with overdueDef
  have memOverdue : ∀ {row}, row ∈ overdue ↔ row ∈ bus.outbox ∧ row.Overdue now := by
    intro row
    rw [overdueDef, mem_sortOn, mem_filter, decide_eq_true_iff]
  have distinct : (overdue.map OutboxRow.outboxId).Nodup :=
    ((perm_sortOn _).map _).nodup_iff.mpr (unique.sublist (filter_sublist.map _))
  have listed :
      ∀ row ∈ bus.outbox, row.outboxId ∈ overdue.map OutboxRow.outboxId ↔ row.Overdue now := by
    intro row mem
    constructor
    · intro named
      obtain ⟨_, otherMem, sameId⟩ := mem_map.mp named
      have known := memOverdue.mp otherMem
      rw [← eq_of_key_eq unique known.1 mem sameId]
      exact known.2
    · intro holds
      exact mem_map_of_mem (memOverdue.mpr ⟨mem, holds⟩)
  have outboxAfter : updateEach OutboxRow.outboxId (OutboxRow.recover now) overdue bus.outbox =
      bus.outbox.map fun row =>
        if row.Overdue now then row.recover now row else row := by
    rw [updateEach_of_subset (OutboxRow.recover now) unique
      (fun _ mem => (memOverdue.mp mem).1) distinct (fun _ _ => rfl)]
    apply map_congr_left
    intro row mem
    by_cases holds : row.Overdue now
    · rw [if_pos holds, if_pos ((listed row mem).mpr holds)]
    · rw [if_neg holds, if_neg (mt (listed row mem).mp holds)]
  rw [outboxAfter] at read ⊢
  exact ⟨rfl, _, listed, read⟩

end SignalBusStore

end RQuant.Signal
