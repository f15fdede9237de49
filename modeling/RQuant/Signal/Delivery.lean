import RQuant.Signal.Lifecycle
import RQuant.Signal.Worker

/-!
# No duplicate notification

A delivery is held by at most one running batch, and by none while it waits to
be claimed.  A batch gives it back only before the provider was called or after
a confirmed failure, so all calls made for a delivery that can be claimed again
are confirmed failures.
-/

namespace RQuant.Signal

open Foundation List SignalBusStore

/-- The provider proved that it did not accept the delivery. -/
def Invocation.Confirmed (invocation : Invocation) : Prop :=
  ∃ error, invocation.outcome = some (.confirmedFailure error)

section

variable (log : List Invocation) (outboxId : Digest)

def logOf : List Invocation :=
  log.filter fun invocation => invocation.outboxId = outboxId

/-- Every call for a delivery is a confirmed failure. -/
def Settled : Prop :=
  ∀ invocation ∈ logOf log outboxId, invocation.Confirmed

/-- Every call for a delivery but the last is a confirmed failure. -/
def SettledBefore : Prop :=
  ∀ invocation ∈ (logOf log outboxId).dropLast, invocation.Confirmed

end

def AgreeExcept (log changed : List Invocation) (outboxId : Digest) : Prop :=
  ∀ other, other ≠ outboxId → logOf changed other = logOf log other

variable {log : List Invocation} {outboxId : Digest}

variable {moved : Batch} {rest : List OutboxRecord} {changed : List Invocation} {number : ℕ}

theorem AgreeExcept.settled
    (agree : AgreeExcept log changed outboxId) (different : other ≠ outboxId)
    (settled : Settled log other) : Settled changed other := by
  unfold Settled
  rw [agree other different]
  exact settled

def BatchPhase.Sound (log : List Invocation) : BatchPhase → Prop
  | .delivering record number =>
    ∃ earlier last, logOf log record.outboxId = earlier ++ [last] ∧
      last.number = number ∧ ∀ invocation ∈ earlier, invocation.Confirmed
  | .failing record _ _ => Settled log record.outboxId
  | .releasing record _ _ => Settled log record.outboxId
  | _ => True

def BatchPhase.record? : BatchPhase → Option OutboxRecord
  | .ready => none
  | .delivering record _ => some record
  | .completing record _ _ => some record
  | .failing record _ _ => some record
  | .releasing record _ _ => some record
  | .recording record _ _ _ => some record

theorem BatchPhase.Sound.of_agree {phase : BatchPhase} (sound : phase.Sound log)
    (agree : AgreeExcept log changed outboxId)
    (different : ∀ record ∈ phase.record?, record.outboxId ≠ outboxId) :
    phase.Sound changed := by
  cases phase with
  | delivering record number =>
    obtain ⟨earlier, last, split, rest⟩ := sound
    exact ⟨earlier, last, (agree _ (different record rfl)).trans split, rest⟩
  | failing record | releasing record => exact agree.settled (different record rfl) sound
  | ready => trivial
  | completing => trivial
  | recording => trivial

/-- The deliveries a batch has claimed and not finished. -/
def Batch.held (batch : Batch) : List Digest :=
  (batch.phase.record?.toList ++ batch.pending).map OutboxRecord.outboxId

def NotificationSystem.held (system : NotificationSystem) : List Digest :=
  system.batches.flatMap Batch.held

/-- A batch that takes a delivery in hand releases or fails it, or calls the
provider. -/
theorem Batch.take_cases (store : SignalBusStore) (input : BatchInput) (invocation : ℕ)
    (record : OutboxRecord) (deadline : Time) (rest : List OutboxRecord)
    (bus : SignalBus) (batch : Batch) :
    let taken := batch.take store input invocation record deadline rest bus
    (taken.2 = .quiet ∧ taken.1.pending = rest ∧ taken.1.phase.record? = some record ∧
      ∀ {log}, Settled log record.outboxId → taken.1.phase.Sound log) ∨
    (taken.2 = .invoke record.outboxId ∧ taken.1.pending = rest ∧
      taken.1.phase = .delivering record invocation) := by
  simp only [Batch.take]
  by_cases elapsed : deadline ≤ max batch.cursorTime input.clock ∨
      record.expiresAt ≤ max batch.cursorTime input.clock
  · rw [if_pos elapsed]
    exact .inl ⟨rfl, rfl, rfl, fun settled => settled⟩
  · rw [if_neg elapsed]
    cases prepare store input.fault record bus with
    | error reason => exact .inl ⟨rfl, rfl, rfl, fun settled => settled⟩
    | ok signal =>
      by_cases configured : record.target.channel ∈ batch.channels
      · refine .inr ?_
        simp [configured]
      · refine .inl ?_
        simp [configured, BatchPhase.record?, BatchPhase.Sound]

theorem Batch.receive_record (input : BatchInput) (record : OutboxRecord) (invocation : ℕ)
    (batch : Batch) :
    (batch.receive input record invocation).1.phase.record? = some record := by
  simp only [Batch.receive]
  cases input.provider with
  | confirmedFailure error => rfl
  | raised error => rfl
  | returned receipt =>
    cases receipt with
    | none => rfl
    | some text => by_cases blank : Blank text <;> simp [blank, BatchPhase.record?]

/-- A delivery is failed only when the provider has confirmed the failure. -/
theorem Batch.receive_sound {batch : Batch}
    (settled : ∀ error, input.provider = .confirmedFailure error → Settled log record.outboxId) :
    (batch.receive input record invocation).1.phase.Sound log := by
  simp only [Batch.receive]
  cases answer : input.provider with
  | confirmedFailure error => exact settled error answer
  | raised error => trivial
  | returned receipt =>
    cases receipt with
    | none => trivial
    | some text => by_cases blank : Blank text <;> simp [blank, BatchPhase.Sound]

structure NotificationSystem.Exclusive (system : NotificationSystem) : Prop where
  uniqueIds : (system.bus.outbox.map OutboxRow.outboxId).Nodup
  heldOnce : system.held.Nodup
  heldKnown : ∀ outboxId ∈ system.held, outboxId ∈ system.bus.outbox.map OutboxRow.outboxId
  invokedKnown : ∀ invocation ∈ system.invocations,
    invocation.outboxId ∈ system.bus.outbox.map OutboxRow.outboxId
  numbered : system.invocations.map Invocation.number = range system.invocations.length
  waiting : ∀ row ∈ system.bus.outbox, row.status.Waiting →
    row.outboxId ∉ system.held ∧ Settled system.invocations row.outboxId
  pending :
    ∀ batch ∈ system.batches, ∀ record ∈ batch.pending, Settled system.invocations record.outboxId
  phases : ∀ batch ∈ system.batches, batch.phase.Sound system.invocations
  earlier : ∀ outboxId, SettledBefore system.invocations outboxId

namespace NotificationSystem

theorem initial_exclusive : initial.Exclusive where
  uniqueIds := nodup_nil
  heldOnce := nodup_nil
  heldKnown := nofun
  invokedKnown := nofun
  numbered := rfl
  waiting := fun _ mem => by cases mem
  pending := fun _ mem => by cases mem
  phases := fun _ mem => by cases mem
  earlier := nofun

namespace Exclusive

variable {store : SignalBusStore} {system : NotificationSystem}

variable {after : SignalBus}

section

variable (exclusive : system.Exclusive)

include exclusive

/-- A store call from outside, which makes no delivery wait that was held or
ended before. -/
theorem of_bus (uniqueIds : (after.outbox.map OutboxRow.outboxId).Nodup)
    (known : ∀ outboxId ∈ system.bus.outbox.map OutboxRow.outboxId,
      outboxId ∈ after.outbox.map OutboxRow.outboxId)
    (waiting : ∀ row ∈ after.outbox, row.status.Waiting →
      (∃ old ∈ system.bus.outbox, old.outboxId = row.outboxId ∧ old.status.Waiting) ∨
      row.outboxId ∉ system.bus.outbox.map OutboxRow.outboxId) :
    Exclusive { system with bus := after } :=
  { exclusive with
    uniqueIds
    heldKnown := fun outboxId mem => known outboxId (exclusive.heldKnown outboxId mem)
    invokedKnown := fun invocation mem => known _ (exclusive.invokedKnown invocation mem)
    waiting := by
      intro row mem rowWaiting
      rcases waiting row mem rowWaiting with
        ⟨old, oldMem, sameId, oldWaiting⟩ | unknown
      · rw [← sameId]
        exact exclusive.waiting old oldMem oldWaiting
      · refine ⟨fun held => unknown (exclusive.heldKnown _ held), ?_⟩
        intro invocation logged
        have entry := mem_filter.mp logged
        have same : invocation.outboxId = row.outboxId := by simpa using entry.2
        exact absurd (same ▸ exclusive.invokedKnown invocation entry.1) unknown }

theorem crash (index : ℕ) : Exclusive { system with batches := system.batches.eraseIdx index } := by
  have fewer := eraseIdx_sublist system.batches index
  have heldLess := fewer.flatMap Batch.held
  exact
    { exclusive with
      heldOnce := exclusive.heldOnce.sublist heldLess
      heldKnown := fun outboxId mem => exclusive.heldKnown outboxId (heldLess.subset mem)
      waiting := by
        intro row mem rowWaiting
        have before := exclusive.waiting row mem rowWaiting
        exact ⟨fun held => before.1 (heldLess.subset held), before.2⟩
      pending := fun batch mem => exclusive.pending batch (fewer.subset mem)
      phases := fun batch mem => exclusive.phases batch (fewer.subset mem) }

/-- One batch moves on with the delivery in its hands: nothing changes for
other deliveries, and this one waits again only when it is given back and all
its calls are confirmed failures. -/
theorem of_focus {record : OutboxRecord} (split : system.batches = left ++ batch :: right)
    (focused : record.outboxId ∈ batch.held) (heldLess : moved.held.Sublist batch.held)
    (agree : AgreeExcept system.invocations log record.outboxId)
    (numbered : log.map Invocation.number = range log.length)
    (invoked : ∀ invocation ∈ log, invocation.outboxId ∈ system.bus.outbox.map OutboxRow.outboxId)
    (sameIds : after.outbox.map OutboxRow.outboxId = system.bus.outbox.map OutboxRow.outboxId)
    (otherRows : ∀ row ∈ after.outbox, row.outboxId ≠ record.outboxId → row ∈ system.bus.outbox)
    (thisRow : ∀ row ∈ after.outbox, row.outboxId = record.outboxId →
      row.status.Waiting → record.outboxId ∉ moved.held ∧ Settled log record.outboxId)
    (stillPending :
      ∀ other ∈ moved.pending, other ∈ batch.pending ∧ other.outboxId ≠ record.outboxId)
    (sound : moved.phase.Sound log) (before : SettledBefore log record.outboxId) :
    Exclusive { bus := after, batches := left ++ moved :: right, invocations := log } := by
  have perm : system.batches.Perm (batch :: (left ++ right)) := split ▸ perm_middle
  -- the other batches do not hold the delivery in focus
  have otherHeld : ∀ other ∈ left ++ right, record.outboxId ∉ other.held := by
    intro other mem held
    have once := (perm.flatMap_right Batch.held).nodup_iff.mp exclusive.heldOnce
    rw [flatMap_cons, nodup_append] at once
    exact once.2.2 _ focused _ (mem_flatMap.mpr ⟨other, mem, held⟩) rfl
  have otherMem : ∀ other ∈ left ++ right, other ∈ system.batches :=
    fun _ mem => perm.mem_iff.mpr (mem_cons_of_mem _ mem)
  have memberCases : ∀ other ∈ left ++ moved :: right, other = moved ∨ other ∈ left ++ right :=
    fun _ mem => mem_cons.mp (perm_middle.mem_iff.mp mem)
  have heldSublist : ((left ++ moved :: right).flatMap Batch.held).Sublist system.held := by
    rw [NotificationSystem.held, split, flatMap_append, flatMap_append, flatMap_cons, flatMap_cons]
    exact (List.Sublist.refl _).append (heldLess.append (List.Sublist.refl _))
  have batchMem : batch ∈ system.batches := perm.mem_iff.mpr mem_cons_self
  constructor
  case uniqueIds =>
    rw [sameIds]
    exact exclusive.uniqueIds
  case heldOnce => exact exclusive.heldOnce.sublist heldSublist
  case heldKnown =>
    intro outboxId mem
    rw [sameIds]
    exact exclusive.heldKnown outboxId (heldSublist.subset mem)
  case invokedKnown =>
    rw [sameIds]
    exact invoked
  case numbered => exact numbered
  case waiting =>
    intro row mem rowWaiting
    by_cases same : row.outboxId = record.outboxId
    · obtain ⟨released, settled⟩ := thisRow row mem same rowWaiting
      rw [same]
      refine ⟨?_, settled⟩
      intro held
      obtain ⟨other, otherIn, heldByOther⟩ := mem_flatMap.mp held
      rcases memberCases other otherIn with rfl | elsewhere
      · exact released heldByOther
      · exact otherHeld other elsewhere heldByOther
    · have old := exclusive.waiting row (otherRows row mem same) rowWaiting
      exact ⟨fun held => old.1 (heldSublist.subset held), agree.settled same old.2⟩
  case pending =>
    intro other mem queued queuedMem
    rcases memberCases other mem with rfl | elsewhere
    · obtain ⟨wasPending, different⟩ := stillPending queued queuedMem
      exact agree.settled different (exclusive.pending batch batchMem queued wasPending)
    · refine agree.settled ?_ (exclusive.pending other (otherMem other elsewhere) queued queuedMem)
      intro same
      apply otherHeld other elsewhere
      rw [← same]
      exact mem_map_of_mem (mem_append_right _ queuedMem)
  case phases =>
    intro other mem
    rcases memberCases other mem with rfl | elsewhere
    · exact sound
    · refine (exclusive.phases other (otherMem other elsewhere)).of_agree agree ?_
      intro _ isCurrent same
      apply otherHeld other elsewhere
      rw [← same]
      exact mem_map_of_mem (mem_append_left _ (Option.mem_toList.mpr isCurrent))
  case earlier =>
    intro outboxId
    by_cases same : outboxId = record.outboxId
    · rw [same]
      exact before
    · unfold SettledBefore
      rw [agree outboxId same]
      exact exclusive.earlier outboxId

theorem not_waiting_of_held (mem : row ∈ system.bus.outbox) (held : row.outboxId ∈ system.held) :
    ¬ row.status.Waiting :=
  fun waiting => (exclusive.waiting row mem waiting).1 held

end

/-! ## Calls from outside -/

/-- Calls that only expire and recover deliveries make none of them wait. -/
theorem of_call (exclusive : system.Exclusive) {call : BusCall}
    (ending : ∀ kind, call.Kinds kind → kind = .expire ∨ kind = .recover) :
    Exclusive { system with bus := call.apply store system.bus } := by
  obtain ⟨_, _, _, changed⟩ :=
    outboxChange_of_step exclusive.uniqueIds (rfl : BusStep store system.bus call _)
  refine exclusive.of_bus changed.uniqueIds (fun _ known => changed.idKept known) ?_
  intro row mem waiting
  rw [changed.outbox, mem_append] at mem
  rcases mem with old | new
  · obtain ⟨before, beforeMem, rfl⟩ := mem_map.mp old
    rcases changed.moved before beforeMem with
      ⟨same, _⟩ | ⟨kind, allowed, move⟩
    · rw [same] at waiting ⊢
      exact .inl ⟨before, beforeMem, rfl, waiting⟩
    · exact absurd (move.terminal_of_ending (ending kind allowed)) waiting.not_terminal
  · exact .inr (changed.fresh row new).2.2

/-- A batch starts with rows that it claimed, which no other batch holds. -/
theorem start (exclusive : system.Exclusive) (workerId : String)
    (channels : List DeliveryChannel) (now leaseFor : Time) (limit : ℕ) :
    (system.startBatch store workerId channels now leaseFor limit).Exclusive := by
  unfold startBatch
  rcases claimed : store.claimDue workerId now leaseFor limit system.bus with
    ⟨_, after⟩
  rcases writeTransaction_cases claimed with ⟨rfl, _, rfl⟩ | ⟨records, rfl, _⟩
  · exact exclusive
  obtain ⟨claimedIds, _, _, _, due, claimedKnown, frame, read⟩ :=
    claimDue_eq_ok exclusive.uniqueIds claimed
  have sameOutbox := congrArg SignalBus.outbox frame
  simp only at sameOutbox
  have sameIds :
      after.outbox.map OutboxRow.outboxId = system.bus.outbox.map OutboxRow.outboxId := by
    rw [sameOutbox, map_map]
    exact map_congr_left fun row _ => claimChange_outboxId row
  have recordIds : records.map OutboxRecord.outboxId =
      (SignalBusStore.rowsForOutboxIds after.outbox claimedIds).map OutboxRow.outboxId := by
    rw [records_of_mapM read, map_map]
    rfl
  have recordsOnce : (records.map OutboxRecord.outboxId).Nodup := by
    rw [recordIds]
    refine ((perm_sortOn _).map _).nodup_iff.mpr ?_
    refine List.Nodup.sublist (filter_sublist.map _) ?_
    rw [sameIds]
    exact exclusive.uniqueIds
  have recordClaimed : ∀ outboxId ∈ records.map OutboxRecord.outboxId, outboxId ∈ claimedIds := by
    intro outboxId mem
    rw [recordIds] at mem
    obtain ⟨row, rowMem, rfl⟩ := mem_map.mp mem
    exact (mem_rowsForOutboxIds.mp rowMem).2
  have claimedFree :
      ∀ outboxId ∈ claimedIds, outboxId ∉ system.held ∧ Settled system.invocations outboxId := by
    intro outboxId mem
    obtain ⟨row, rowMem, rfl⟩ := mem_map.mp (claimedKnown outboxId mem)
    exact exclusive.waiting row rowMem (due row rowMem mem).1
  have heldAfter : (system.batches ++ [Batch.start workerId channels now leaseFor limit
        records]).flatMap Batch.held =
      system.held ++ records.map OutboxRecord.outboxId := by
    rw [flatMap_append]
    simp [NotificationSystem.held, Batch.held, Batch.start, BatchPhase.record?]
  constructor
  case uniqueIds =>
    rw [sameIds]
    exact exclusive.uniqueIds
  case heldOnce =>
    rw [NotificationSystem.held, heldAfter]
    refine nodup_append.mpr ⟨exclusive.heldOnce, recordsOnce, ?_⟩
    intro outboxId held _ mem same
    subst same
    exact (claimedFree outboxId (recordClaimed outboxId mem)).1 held
  case heldKnown =>
    intro outboxId mem
    rw [NotificationSystem.held, heldAfter, mem_append] at mem
    rw [sameIds]
    rcases mem with old | new
    · exact exclusive.heldKnown outboxId old
    · exact claimedKnown outboxId (recordClaimed outboxId new)
  case invokedKnown =>
    rw [sameIds]
    exact exclusive.invokedKnown
  case numbered => exact exclusive.numbered
  case waiting =>
    intro row mem rowWaiting
    rw [sameOutbox] at mem
    obtain ⟨before, beforeMem, rfl⟩ := mem_map.mp mem
    rw [claimChange_outboxId]
    unfold SignalBusStore.claimChange at rowWaiting
    by_cases taken : before.outboxId ∈ claimedIds
    · rw [if_pos taken] at rowWaiting
      exact absurd rowWaiting (by simp [OutboxRow.lease, OutboxStatus.Waiting])
    · rw [if_neg taken] at rowWaiting
      by_cases lapsed : before.Lapsed now
      · rw [if_pos lapsed] at rowWaiting
        exact absurd rowWaiting (by simp [OutboxRow.expire, OutboxStatus.Waiting])
      · rw [if_neg lapsed] at rowWaiting
        have old := exclusive.waiting before beforeMem rowWaiting
        refine ⟨?_, old.2⟩
        rw [NotificationSystem.held, heldAfter, mem_append]
        rintro (held | claimedNow)
        · exact old.1 held
        · exact taken (recordClaimed _ claimedNow)
  case pending =>
    intro batch mem record recordMem
    rcases mem_concat.mp mem with old | rfl
    · exact exclusive.pending batch old record recordMem
    · exact (claimedFree record.outboxId (recordClaimed _ (mem_map_of_mem recordMem))).2
  case phases =>
    intro batch mem
    rcases mem_concat.mp mem with old | rfl
    · exact exclusive.phases batch old
    · trivial
  case earlier => exact exclusive.earlier

section Work

variable {left right : List Batch} {batch : Batch} {record : OutboxRecord}

private theorem held_of_current (current : batch.phase.record? = some record) :
    batch.held = record.outboxId :: batch.pending.map OutboxRecord.outboxId := by
  simp [Batch.held, current]

private theorem batch_held_nodup (exclusive : system.Exclusive)
    (split : system.batches = left ++ batch :: right) :
    batch.held.Nodup := by
  have once := exclusive.heldOnce
  rw [NotificationSystem.held, split, flatMap_append, flatMap_cons] at once
  exact (nodup_append.mp (nodup_append.mp once).2.1).1

variable {outboxId : Digest} {after : SignalBus} {completedAt observedAt : Time} {error : String}

private theorem mem_held_of_split (split : system.batches = left ++ batch :: right)
    (held : outboxId ∈ batch.held) :
    outboxId ∈ system.held := by
  rw [NotificationSystem.held, split]
  exact mem_flatMap.mpr ⟨batch, mem_append_right _ mem_cons_self, held⟩

/-- A store call that touches no row but the one in focus. -/
structure TouchesOnly (before after : SignalBus) (outboxId : Digest) : Prop where
  sameIds : after.outbox.map OutboxRow.outboxId = before.outbox.map OutboxRow.outboxId
  otherRows : ∀ row ∈ after.outbox, row.outboxId ≠ outboxId → row ∈ before.outbox

theorem TouchesOnly.refl (bus : SignalBus) (outboxId : Digest) : TouchesOnly bus bus outboxId :=
  ⟨rfl, fun _ mem _ => mem⟩

theorem TouchesOnly.of_updateKey
    (updated : after.outbox = updateKey OutboxRow.outboxId outboxId change before.outbox)
    (kept : ∀ row, (change row).outboxId = row.outboxId) :
    TouchesOnly before after outboxId where
  sameIds := by rw [updated, map_updateKey fun row _ _ => kept row]
  otherRows := by
    intro row mem different
    rw [updated, mem_updateKey] at mem
    obtain ⟨_, oldMem, ⟨same, rfl⟩ | ⟨_, rfl⟩⟩ := mem
    · rw [kept] at different
      exact absurd same different
    · exact oldMem

section

variable {α : Type} {fault : Option BusError} {bus after : SignalBus}
  {body : SignalBus → Except BusError (α × SignalBus)}

theorem transaction_of_attemptCall
    (called : attemptCall fault (writeTransaction body) bus = (.ok answer, after)) :
    writeTransaction body bus = (.ok answer, after) := by
  cases fault with
  | some raised => cases called
  | none => exact called

theorem bus_of_attemptCall
    (called : attemptCall fault (writeTransaction body) bus = (.error raised, after)) :
    after = bus := by
  cases fault with
  | some error =>
    cases called
    rfl
  | none =>
    rcases writeTransaction_cases called with ⟨same, _⟩ | ⟨_, answered, _⟩
    · exact same
    · cases answered

end

private theorem logOf_answer (log : List Invocation) (number : ℕ) (outcome : ProviderOutcome)
    (outboxId : Digest) :
    logOf (logEffect log (.answer number outcome)) outboxId =
      updateKey Invocation.number number
        (fun invocation => { invocation with outcome := some outcome })
        (logOf log outboxId) := by
  unfold logOf logEffect updateKey
  rw [filter_map]
  congr 1
  apply filter_congr
  intro invocation _
  rw [Function.comp_apply]
  split <;> rfl

section

variable (exclusive : system.Exclusive) (split : system.batches = left ++ batch :: right)

include exclusive split

theorem of_done (current : batch.phase.record? = some record) (item : NotificationItemResult)
    (touched : TouchesOnly system.bus after record.outboxId)
    (settled : ∀ row ∈ after.outbox, row.outboxId = record.outboxId →
      row.status.Waiting → Settled system.invocations record.outboxId) :
    Exclusive { system with bus := after, batches := left ++ batch.done item :: right } := by
  have held := held_of_current current
  have once := batch_held_nodup exclusive split
  rw [held, nodup_cons] at once
  have doneHeld : (batch.done item).held = batch.pending.map OutboxRecord.outboxId := by
    simp [Batch.held, Batch.done, BatchPhase.record?]
  have focused : record.outboxId ∈ batch.held := by simp [held]
  refine exclusive.of_focus split focused ?_ (fun _ _ => rfl)
    exclusive.numbered exclusive.invokedKnown touched.sameIds touched.otherRows
    ?_ ?_ trivial (exclusive.earlier _)
  · rw [doneHeld, held]
    exact sublist_cons_self _ _
  · intro row mem same waiting
    rw [doneHeld]
    exact ⟨once.1, settled row mem same waiting⟩
  · intro _ mem
    refine ⟨mem, fun same => once.1 ?_⟩
    rw [← same]
    exact mem_map_of_mem mem

theorem of_written (current : batch.phase.record? = some record) (item : NotificationItemResult)
    (updated : after.outbox = updateKey OutboxRow.outboxId record.outboxId change system.bus.outbox)
    (kept : ∀ row, (change row).outboxId = row.outboxId)
    (settled : ∀ row ∈ system.bus.outbox, row.outboxId = record.outboxId →
      (change row).status.Waiting → Settled system.invocations record.outboxId) :
    Exclusive { system with bus := after, batches := left ++ batch.done item :: right } := by
  refine exclusive.of_done split current _ (TouchesOnly.of_updateKey updated kept) ?_
  intro _ mem same waiting
  rw [updated, mem_updateKey] at mem
  obtain ⟨row, rowMem, ⟨found, rfl⟩ | ⟨different, rfl⟩⟩ := mem
  · exact settled row rowMem found waiting
  · exact absurd same different

theorem of_inHand (held : batch.held = record.outboxId :: rest.map OutboxRecord.outboxId)
    (pending : rest ⊆ batch.pending) (current : moved.phase.record? = some record)
    (movedPending : moved.pending = rest)
    (agree : AgreeExcept system.invocations log record.outboxId)
    (numbered : log.map Invocation.number = range log.length)
    (invoked : ∀ invocation ∈ log, invocation.outboxId ∈ system.bus.outbox.map OutboxRow.outboxId)
    (sound : moved.phase.Sound log) (before : SettledBefore log record.outboxId) :
    Exclusive { system with batches := left ++ moved :: right, invocations := log } := by
  have once := batch_held_nodup exclusive split
  rw [held, nodup_cons] at once
  have focused : record.outboxId ∈ batch.held := by simp [held]
  refine exclusive.of_focus split focused ?_ agree numbered invoked rfl
    (fun _ mem _ => mem) ?_ ?_ sound before
  · rw [held_of_current current, movedPending, held]
  · intro _ mem same waiting
    refine absurd waiting (exclusive.not_waiting_of_held mem ?_)
    rw [same]
    exact mem_held_of_split split focused
  · intro _ mem
    rw [movedPending] at mem
    refine ⟨pending mem, fun same => once.1 ?_⟩
    rw [← same]
    exact mem_map_of_mem mem

/-- A write-back that was refused: the tables are as before and the worker
goes on to record the unknown outcome. -/
theorem of_recording (current : batch.phase.record? = some record) (observedAt : Time)
    (error : String) (receipt : Option String) :
    Exclusive { system with
      batches := left ++
        { batch with phase := .recording record observedAt error receipt } ::
          right } :=
  exclusive.of_inHand split (held_of_current current) (Subset.refl _) rfl rfl (fun _ _ => rfl)
    exclusive.numbered exclusive.invokedKnown trivial (exclusive.earlier _)

theorem phaseSound (phase : batch.phase = current) : current.Sound system.invocations := by
  rw [← phase]
  exact exclusive.phases batch (by rw [split]; simp)

theorem writeSuccess (phase : batch.phase = .completing record completedAt receipt)
    (fault : Option BusError) :
    let written := batch.writeSuccess store fault record completedAt receipt system.bus
    Exclusive { system with bus := written.2, batches := left ++ written.1 :: right } := by
  have current : batch.phase.record? = some record := by rw [phase]; rfl
  simp only [Batch.writeSuccess]
  split <;> rename_i called
  · have body := body_of_writeTransaction (transaction_of_attemptCall called)
    simp only [run_eq_ok] at body
    obtain ⟨_, _, _, _, _, _, frame⟩ := complete_eq_ok body.2
    refine exclusive.of_written split current _ (congrArg SignalBus.outbox frame) (fun _ => rfl) ?_
    intro _ _ _ waiting
    rcases waiting with pending | retry
    · cases pending
    · cases retry
  · cases bus_of_attemptCall called
    exact exclusive.of_recording split current _ _ _

/-- Writing back a confirmed failure, or giving the delivery back, may let it
wait again: its calls are settled then. -/
theorem writeFailure (phase : batch.phase = .failing record completedAt error)
    (fault : Option BusError) :
    let written := batch.writeFailure store fault record completedAt error system.bus
    Exclusive { system with bus := written.2, batches := left ++ written.1 :: right } := by
  have current : batch.phase.record? = some record := by rw [phase]; rfl
  have settled : Settled system.invocations record.outboxId := exclusive.phaseSound split phase
  simp only [Batch.writeFailure]
  split <;> rename_i called
  · have body := body_of_writeTransaction (transaction_of_attemptCall called)
    simp only [run_eq_ok] at body
    obtain ⟨_, _, _, _, _, _, frame⟩ := complete_eq_ok body.2
    exact exclusive.of_written split current _ (congrArg SignalBus.outbox frame) (fun _ => rfl)
      fun _ _ _ _ => settled
  · cases bus_of_attemptCall called
    exact exclusive.of_done split current _ (TouchesOnly.refl _ _) fun _ _ _ _ => settled

theorem writeRelease (phase : batch.phase = .releasing record observedAt reason)
    (fault : Option BusError) :
    let written := batch.writeRelease store fault record observedAt reason system.bus
    Exclusive { system with bus := written.2, batches := left ++ written.1 :: right } := by
  have current : batch.phase.record? = some record := by rw [phase]; rfl
  have settled : Settled system.invocations record.outboxId := exclusive.phaseSound split phase
  simp only [Batch.writeRelease]
  split <;> rename_i called
  · obtain ⟨_, _, _, _, _, frame⟩ := releaseUnattempted_eq_ok (transaction_of_attemptCall called)
    exact exclusive.of_written split current _ (congrArg SignalBus.outbox frame) (fun _ => rfl)
      fun _ _ _ _ => settled
  · cases bus_of_attemptCall called
    exact exclusive.of_recording split current _ _ _

theorem writeUnknown (phase : batch.phase = .recording record observedAt error receipt)
    (fault : Option BusError) :
    let written := batch.writeUnknown fault record observedAt error receipt system.bus
    Exclusive { system with bus := written.2, batches := left ++ written.1 :: right } := by
  have current : batch.phase.record? = some record := by rw [phase]; rfl
  have held : record.outboxId ∈ system.held :=
    mem_held_of_split split (by simp [held_of_current current])
  have unclaimable :
      ∀ row ∈ system.bus.outbox, row.outboxId = record.outboxId → ¬ row.status.Waiting := by
    intro row mem same
    exact exclusive.not_waiting_of_held mem (same ▸ held)
  simp only [Batch.writeUnknown]
  split <;> rename_i called
  · obtain ⟨row, _, _, _, _, _, rfl | ⟨_, frame⟩⟩ :=
      recordUnknownDelivery_eq_ok (transaction_of_attemptCall called)
    · exact exclusive.of_done split current _ (TouchesOnly.refl _ _)
        fun row mem same waiting => absurd waiting (unclaimable row mem same)
    · exact exclusive.of_written split current _ (congrArg SignalBus.outbox frame) (fun _ => rfl)
        fun row mem same waiting => absurd waiting (unclaimable row mem same)
  · cases bus_of_attemptCall called
    exact exclusive.of_done split current _ (TouchesOnly.refl _ _)
      fun row mem same waiting => absurd waiting (unclaimable row mem same)

theorem take (input : BatchInput) (phase : batch.phase = .ready)
    (pending : batch.pending = record :: rest) :
    let taken := batch.take store input system.invocations.length record deadline rest system.bus
    Exclusive {
      bus := system.bus
      batches := left ++ taken.1 :: right
      invocations := logEffect system.invocations taken.2 } := by
  have batchMem : batch ∈ system.batches := by rw [split]; simp
  have settled : Settled system.invocations record.outboxId :=
    exclusive.pending batch batchMem record (by rw [pending]; simp)
  have held : batch.held = record.outboxId :: rest.map OutboxRecord.outboxId := by
    simp [Batch.held, phase, pending, BatchPhase.record?]
  have kept : rest ⊆ batch.pending := by rw [pending]; exact subset_cons_self _ _
  simp only
  rcases batch.take_cases store input system.invocations.length record deadline rest system.bus with
    ⟨effect, movedPending, current, sound⟩ | ⟨effect, movedPending, movedPhase⟩
  · -- the log is left alone
    rw [effect]
    exact exclusive.of_inHand split held kept current movedPending (fun _ _ => rfl)
      exclusive.numbered exclusive.invokedKnown (sound settled) (exclusive.earlier _)
  · -- the provider is called
    rw [effect]
    refine exclusive.of_inHand split held kept (by rw [movedPhase]; rfl) movedPending ?_ ?_ ?_ ?_ ?_
    · intro _ different
      simp [logEffect, logOf, different.symm]
    · rw [logEffect, map_append, exclusive.numbered, length_append, length_singleton, range_succ]
      rfl
    · intro invocation mem
      rcases mem_concat.mp mem with old | rfl
      · exact exclusive.invokedKnown invocation old
      · exact exclusive.heldKnown _ (mem_held_of_split split (by
          simp [Batch.held, pending]))
    · rw [movedPhase]
      exact ⟨logOf system.invocations record.outboxId, ⟨_, record.outboxId, none⟩,
        by simp [logEffect, logOf], rfl, settled⟩
    · intro invocation mem
      refine settled invocation ?_
      simpa [logEffect, logOf] using mem

/-- An answer of the provider moves its batch on, which holds no more rows than before. -/
theorem receive (input : BatchInput) (phase : batch.phase = .delivering record number) :
    let received := batch.receive input record number
    Exclusive {
      bus := system.bus
      batches := left ++ received.1 :: right
      invocations := logEffect system.invocations received.2 } := by
  have current : batch.phase.record? = some record := by rw [phase]; rfl
  obtain ⟨earlier, last, entries, lastNumber, confirmed⟩ := exclusive.phaseSound split phase
  -- numbers are unique, so the answer reaches the last entry only
  have unique : (system.invocations.map Invocation.number).Nodup := by
    rw [exclusive.numbered]
    exact nodup_range
  have lastEntry : last ∈ logOf system.invocations record.outboxId := by
    rw [entries]
    simp
  have lastMem := mem_filter.mp lastEntry
  have lastId : last.outboxId = record.outboxId := by simpa using lastMem.2
  have answered :
      ∀ invocation ∈ system.invocations, invocation.number = number → invocation = last := by
    intro invocation mem same
    exact eq_of_key_eq unique mem lastMem.1 (same.trans lastNumber.symm)
  have entriesUnique : ((earlier ++ [last]).map Invocation.number).Nodup := by
    rw [← entries]
    exact unique.sublist (filter_sublist.map _)
  have earlierKept : updateKey Invocation.number number
        (fun invocation => { invocation with outcome := some input.provider })
        earlier = earlier := by
    refine (map_congr_left fun invocation mem => ?_).trans (map_id _)
    refine if_neg fun same => ?_
    rw [map_append, nodup_append] at entriesUnique
    exact entriesUnique.2.2 _ (mem_map_of_mem mem) _ (by simp) (same.trans lastNumber.symm)
  have entriesAfter :
      logOf (logEffect system.invocations (.answer number input.provider)) record.outboxId =
        earlier ++ [{ last with outcome := some input.provider }] := by
    rw [logOf_answer, entries, updateKey, map_append]
    rw [updateKey] at earlierKept
    rw [earlierKept, map_singleton, if_pos lastNumber]
  refine exclusive.of_inHand split (held_of_current current) (Subset.refl _)
    (batch.receive_record input record number) rfl ?_ ?_ ?_ ?_ ?_
  · intro other different
    refine (logOf_answer _ _ _ _).trans ?_
    refine (map_congr_left fun invocation mem => ?_).trans (map_id _)
    have entry := mem_filter.mp mem
    refine if_neg fun same => different ?_
    rw [← of_decide_eq_true entry.2, answered invocation entry.1 same, lastId]
  · have sameNumbers :
        (logEffect system.invocations (.answer number input.provider)).map Invocation.number =
          system.invocations.map Invocation.number :=
      map_updateKey fun _ _ _ => rfl
    have sameLength : (logEffect system.invocations (.answer number input.provider)).length =
        system.invocations.length :=
      length_map _
    exact sameNumbers.trans (exclusive.numbered.trans (by rw [← sameLength]; rfl))
  · intro invocation mem
    simp only [Batch.receive, logEffect, mem_updateKey] at mem
    obtain ⟨old, oldMem, ⟨_, rfl⟩ | ⟨_, rfl⟩⟩ := mem
    · exact exclusive.invokedKnown old oldMem
    · exact exclusive.invokedKnown _ oldMem
  · apply Batch.receive_sound
    intro error answer invocation mem
    simp only [Batch.receive] at mem
    rw [entriesAfter] at mem
    rcases mem_append.mp mem with old | new
    · exact confirmed invocation old
    · rw [mem_singleton] at new
      exact ⟨error, by rw [new, answer]⟩
  · intro invocation mem
    simp only [Batch.receive] at mem
    rw [entriesAfter, dropLast_concat] at mem
    exact confirmed invocation mem

end

end Work

/-! ## Events -/

theorem work (exclusive : system.Exclusive) (index : ℕ) (input : BatchInput) :
    (system.workBatch store index input).Exclusive := by
  unfold workBatch
  cases found : system.batches[index]? with
  | none => exact exclusive
  | some batch =>
    obtain ⟨_, _, split, replaced⟩ := exists_split_of_getElem? found
    simp only [Batch.step]
    cases phase : batch.phase with
    | ready =>
      cases pending : batch.pending with
      | nil => exact exclusive
      | cons record rest =>
        cases lease : record.leaseUntil with
        | none =>
          simp only [lease]
          exact exclusive
        | some deadline =>
          simp only [lease, replaced]
          exact exclusive.take split input phase pending
    | delivering record number =>
      simp only [replaced]
      exact exclusive.receive split input phase
    | completing record completedAt receipt =>
      simp only [replaced]
      exact exclusive.writeSuccess split phase input.fault
    | failing record completedAt error =>
      simp only [replaced]
      exact exclusive.writeFailure split phase input.fault
    | releasing record observedAt reason =>
      simp only [replaced]
      exact exclusive.writeRelease split phase input.fault
    | recording record observedAt error receipt =>
      simp only [replaced]
      exact exclusive.writeUnknown split phase input.fault

theorem step (exclusive : system.Exclusive) (event : SystemEvent) :
    (system.step store event).Exclusive := by
  cases event with
  | ingest signal receivedAt | bindRouteSource previous request =>
    exact exclusive.of_call fun _ impossible => impossible.elim
  | route signalId targets now | commitSourceRoute previous commit =>
    exact exclusive.of_call fun _ expires => Or.inl expires
  | recoverExpiredLeases now => exact exclusive.of_call fun _ recovers => Or.inr recovers
  | start workerId channels now leaseFor limit =>
    exact exclusive.start workerId channels now leaseFor limit
  | work index input => exact exclusive.work index input
  | crash index => exact exclusive.crash index

end Exclusive

theorem Reaches.exclusive (run : Reaches store .initial system) : system.Exclusive := by
  refine Foundation.Reaches.invariant run initial_exclusive ?_
  rintro _ event _ sourceExclusive _ rfl
  exact sourceExclusive.step event

end NotificationSystem

/-- The provider returned; the delivery may have been made. -/
def Invocation.returned (invocation : Invocation) : Bool :=
  match invocation.outcome with
  | some (.returned _) => true
  | _ => false

/-- Any number of workers, with any clocks and crashes, interleaved with
recovery and routing: all provider calls for a delivery but the last ended in a
confirmed failure.  So a call that did not is never followed by another, and at
most one call returns. -/
theorem no_duplicate_notification {store : SignalBusStore} {system : NotificationSystem}
    (run : NotificationSystem.Reaches store .initial system) (outboxId : Digest) :
    (∀ invocation ∈ (system.invocationsOf outboxId).dropLast,
      ∃ error, invocation.outcome = some (.confirmedFailure error)) ∧
    (∀ earlier invocation later, system.invocationsOf outboxId = earlier ++ invocation :: later →
      (¬ ∃ error, invocation.outcome = some (.confirmedFailure error)) → later = []) ∧
    (system.invocationsOf outboxId).countP Invocation.returned ≤ 1 := by
  have confirmed := run.exclusive.earlier outboxId
  refine ⟨confirmed, ?_, ?_⟩
  · intro earlier invocation later entries unconfirmed
    by_contra followed
    refine unconfirmed (confirmed invocation ?_)
    have same : logOf system.invocations outboxId = earlier ++ invocation :: later := entries
    rw [same, dropLast_append_of_ne_nil (by simp), dropLast_cons_of_ne_nil followed]
    simp
  · rcases eq_nil_or_concat (logOf system.invocations outboxId) with
      empty | ⟨earlier, last, entries⟩
    · have same : system.invocationsOf outboxId = [] := empty
      simp [same]
    · rw [concat_eq_append] at entries
      have same : system.invocationsOf outboxId = earlier ++ [last] := entries
      have none : earlier.countP Invocation.returned = 0 := by
        rw [countP_eq_zero]
        intro invocation member
        obtain ⟨error, outcome⟩ :=
          confirmed invocation (by rw [entries, dropLast_concat]; exact member)
        simp [Invocation.returned, outcome]
      rw [same, countP_append, none, Nat.zero_add]
      exact countP_le_length

def sampleInput (clock : Time) (provider : ProviderOutcome) : BatchInput where
  clock := clock
  secondClock := clock
  provider := provider
  fault := none

/-- A confirmed failure is retried; the worker of the retry crashes after the
provider has returned, and its lease is recovered. -/
def sampleEvents : List SystemEvent :=
  [.ingest (.legacy (sampleSignal 7)) 0, .route 7 [sampleFirst] 1, .start "w" [.pushdeer] 10 1000 5,
    .work 0 (sampleInput 20 (.returned none)),
    .work 0 (sampleInput 30 (.confirmedFailure "rejected")),
    .work 0 (sampleInput 40 (.returned none)), .start "w" [.pushdeer] 6000000 1000 5,
    .work 1 (sampleInput 6000010 (.returned none)),
    .work 1 (sampleInput 6000020 (.returned (some "receipt"))), .crash 1,
    .recoverExpiredLeases 7000000, .start "v" [.pushdeer] 8000000 1000 5]

def sampleSystem : NotificationSystem :=
  sampleEvents.foldl (NotificationSystem.step sampleStore) .initial

/-- A delivery that failed once is sent once; the worker dies before it notes
the receipt. -/
theorem no_duplicate_notification_sample : (sampleSystem.invocationsOf 702).map Invocation.outcome =
      [some (.confirmedFailure "rejected"), some (.returned (some "receipt"))] ∧
    (sampleSystem.invocationsOf 702).countP Invocation.returned ≤ 1 :=
  ⟨by decide +kernel,
    (no_duplicate_notification
      (reaches_foldl (fun _ _ => trivial) NotificationSystem.initial sampleEvents) 702).2.2⟩

/-- A delivery is in the hands of one batch at most, and of none while it waits
to be claimed. -/
theorem delivery_held_once (run : NotificationSystem.Reaches store .initial system) :
    system.held.Nodup ∧ ∀ row ∈ system.bus.outbox, row.status.Waiting →
      row.outboxId ∉ system.held :=
  ⟨run.exclusive.heldOnce, fun row mem waiting => (run.exclusive.waiting row mem waiting).1⟩

/-- The first worker has just claimed the delivery. -/
theorem delivery_held_once_sample :
    let system := (sampleEvents.take 3).foldl (NotificationSystem.step sampleStore) .initial
    system.held = [702] ∧ system.held.Nodup :=
  ⟨by decide +kernel, (delivery_held_once (reaches_foldl (fun _ _ => trivial) _ _)).1⟩

end RQuant.Signal
