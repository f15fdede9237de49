import RQuant.Signal.Steps

/-!
# The life of a delivery

A row of the outbox counts the attempts that were started, and the attempt
table lists those that were finished.  The two stay in step along every run.
Which leases were recovered is not kept in the row, so the law is stated over
the history of a run.
-/

namespace RQuant.Signal

open Foundation List SignalBusStore OutboxRow

def BusCall.recovers (store : SignalBusStore) (call : BusCall) (bus : SignalBus) : List Digest :=
  match call with
  | .recoverExpiredLeases now =>
    match (store.recoverExpiredLeases now bus).1 with
    | .ok records => records.map OutboxRecord.outboxId
    | .error _ => []
  | _ => []

/-- The tables with the deliveries whose lease was recovered so far. -/
structure DeliveryHistory where
  bus : SignalBus
  recovered : List Digest

namespace DeliveryHistory

def initial : DeliveryHistory where
  bus := SignalBus.initial
  recovered := []

def step (store : SignalBusStore) (history : DeliveryHistory)
    (call : BusCall) : DeliveryHistory where
  bus := call.apply store history.bus
  recovered := history.recovered ++ call.recovers store history.bus

def Reaches (store : SignalBusStore) : DeliveryHistory → DeliveryHistory → Prop :=
  Foundation.Reaches (fun history call after => history.step store call = after) fun _ _ => True

def Recovered (history : DeliveryHistory) (row : OutboxRow) : Prop :=
  row.outboxId ∈ history.recovered
deriving Decidable

end DeliveryHistory

def SignalBus.attemptsOf (bus : SignalBus) (outboxId : Digest) : List AttemptRow :=
  bus.attempts.filter fun attempt => attempt.outboxId = outboxId

def OutboxRow.recordedCount (row : OutboxRow) (recovered : Prop) [Decidable recovered] : ℕ :=
  if row.status = .leased ∨ recovered then row.attemptCount - 1
  else row.attemptCount

structure RowLaw (policy : RetryPolicy) (row : OutboxRow)
    (attempts : List AttemptRow) (recovered : Prop) [Decidable recovered] :
    Prop where
  count_le : row.attemptCount ≤ policy.maxAttempts
  waiting_lt : row.status.Waiting → row.attemptCount < policy.maxAttempts
  leased_pos : row.status = .leased → 1 ≤ row.attemptCount
  recovered_ended : recovered → row.status = .expired ∨ row.status = .deadLetter
  numbers : attempts.map AttemptRow.attemptNo = range' 1 (row.recordedCount recovered)
  succeeded : row.status = .succeeded →
    ∃ earlier last, attempts = earlier ++ [last] ∧ last.success = true ∧
      ∀ attempt ∈ earlier, attempt.success = false
  unsuccessful : row.status ≠ .succeeded → ∀ attempt ∈ attempts, attempt.success = false

theorem RetryPolicy.settlement_status_failed
    (policy : RetryPolicy) (expiresAt : Time) (attemptNo : ℕ)
    (completedAt : Time) (error : String) :
    let status := (policy.settlement expiresAt attemptNo completedAt (.failed error)).1
    status = .expired ∨ status = .deadLetter ∨
      (status = .retry ∧ attemptNo < policy.maxAttempts) := by
  simp only [settlement]
  split
  · exact .inl rfl
  · split
    · exact .inr (.inl rfl)
    · rename_i below
      exact .inr (.inr ⟨rfl, not_le.mp below⟩)

variable {other : Prop}

namespace RowLaw

variable {store : SignalBusStore} {row moved : OutboxRow}
  {attempts finished : List AttemptRow} {recovered : Prop}
  [Decidable recovered] {kind : MoveKind}

section

variable (law : RowLaw store.policy row attempts recovered)

include law

theorem not_recovered (move : RowMove store row kind moved finished) : ¬ recovered := by
  intro holds
  apply move.not_terminal
  rcases law.recovered_ended holds with ended | ended <;> rw [ended] <;> decide

theorem numbers_waiting (fresh : ¬ recovered) (waiting : row.status.Waiting) :
    attempts.map AttemptRow.attemptNo = range' 1 row.attemptCount := by
  have numbers := law.numbers
  rw [recordedCount, if_neg] at numbers
  · exact numbers
  · rintro (leased | holds)
    · exact waiting.ne_leased leased
    · exact fresh holds

theorem numbers_leased (leased : row.status = .leased) :
    attempts.map AttemptRow.attemptNo = range' 1 (row.attemptCount - 1) := by
  have numbers := law.numbers
  rw [recordedCount, if_pos (.inl leased)] at numbers
  exact numbers

theorem failed_of_waiting (waiting : row.status.Waiting) :
    ∀ attempt ∈ attempts, attempt.success = false :=
  law.unsuccessful fun succeeded => waiting.not_terminal (.inl succeeded)

theorem failed_of_leased (leased : row.status = .leased) :
    ∀ attempt ∈ attempts, attempt.success = false :=
  law.unsuccessful fun succeeded => by
    rw [leased] at succeeded
    cases succeeded

theorem congr_recovered [Decidable other] (same : recovered ↔ other) :
    RowLaw store.policy row attempts other := by
  have numbers := law.numbers
  refine ⟨law.count_le, law.waiting_lt, law.leased_pos,
    fun holds => law.recovered_ended (same.mpr holds), ?_, law.succeeded, law.unsuccessful⟩
  rw [numbers]
  simp only [recordedCount, same]

end

private theorem of_unattempted (bound : moved.attemptCount ≤ store.policy.maxAttempts)
    (waiting : moved.status.Waiting → moved.attemptCount < store.policy.maxAttempts)
    (unleased : moved.status ≠ .leased) (unsucceeded : moved.status ≠ .succeeded)
    (numbers : attempts.map AttemptRow.attemptNo = range' 1 moved.attemptCount)
    (failed : ∀ attempt ∈ attempts, attempt.success = false) :
    RowLaw store.policy moved (attempts ++ []) False where
  count_le := bound
  waiting_lt := waiting
  leased_pos := fun leased => absurd leased unleased
  recovered_ended := False.elim
  numbers := by
    rw [append_nil, OutboxRow.recordedCount, if_neg (by simp [unleased])]
    exact numbers
  succeeded := fun succeeded => absurd succeeded unsucceeded
  unsuccessful := by
    rw [append_nil]
    exact fun _ => failed

section

variable (law : RowLaw store.policy row attempts recovered)

include law

private theorem expire (fresh : ¬ recovered)
    (waiting : row.status.Waiting) (reason : String) (at_ : Time) :
    RowLaw store.policy (row.expire reason at_) (attempts ++ []) False := by
  apply of_unattempted
  · exact law.count_le
  · exact fun _ => law.waiting_lt waiting
  · simp [OutboxRow.expire]
  · simp [OutboxRow.expire]
  · exact law.numbers_waiting fresh waiting
  · exact law.failed_of_waiting waiting

private theorem lease (fresh : ¬ recovered)
    (waiting : row.status.Waiting) (worker : String) (at_ deadline : Time) :
    RowLaw store.policy (row.lease worker at_ deadline) (attempts ++ []) False where
  count_le := law.waiting_lt waiting
  waiting_lt := fun still => absurd still (by
    simp [OutboxRow.lease, OutboxStatus.Waiting])
  leased_pos := fun _ => Nat.le_add_left 1 row.attemptCount
  recovered_ended := False.elim
  numbers := by
    have leased : (row.lease worker at_ deadline).status = .leased := rfl
    rw [append_nil, OutboxRow.recordedCount, if_pos (.inl leased)]
    exact law.numbers_waiting fresh waiting
  succeeded := nofun
  unsuccessful := by
    rw [append_nil]
    exact fun _ => law.failed_of_waiting waiting

private theorem giveBack (leased : row.status = .leased) (reason : String) (releasedAt : Time) :
    RowLaw store.policy (row.release reason releasedAt row) (attempts ++ [])
      False := by
  have positive := law.leased_pos leased
  have bound := law.count_le
  have count : (row.release reason releasedAt row).attemptCount = row.attemptCount - 1 := rfl
  have status : (row.release reason releasedAt row).status = .expired ∨
      (row.release reason releasedAt row).status = .retry := by
    simp only [OutboxRow.release, OutboxRow.giveBack, OutboxRow.settle]
    split <;> simp
  apply of_unattempted
  · omega
  · intro _
    omega
  · rcases status with ended | waiting
    · rw [ended]; decide
    · rw [waiting]; decide
  · rcases status with ended | waiting
    · rw [ended]; decide
    · rw [waiting]; decide
  · rw [count]
    exact law.numbers_leased leased
  · exact law.failed_of_leased leased

private theorem note (fresh : ¬ recovered) (reason : String) (observedAt : Time) :
    RowLaw store.policy (row.noteUnknown reason observedAt) (attempts ++ [])
      False := by
  rw [append_nil]
  exact ⟨law.count_le, law.waiting_lt, law.leased_pos, False.elim,
    (law.congr_recovered (iff_false_intro fresh)).numbers, law.succeeded, law.unsuccessful⟩

private theorem recover (leased : row.status = .leased) (now : Time) :
    RowLaw store.policy (row.recover now row) (attempts ++ []) True := by
  have status := OutboxRow.recover_status now row row
  have ended : (row.recover now row).status ≠ .succeeded ∧ ¬ (row.recover now row).status.Waiting ∧
      (row.recover now row).status ≠ .leased := by
    rcases status with same | same <;> rw [same] <;> decide
  rw [append_nil]
  constructor
  case count_le => exact law.count_le
  case waiting_lt => exact fun waiting => absurd waiting ended.2.1
  case leased_pos => exact fun still => absurd still ended.2.2
  case recovered_ended => exact fun _ => status
  case numbers =>
    rw [OutboxRow.recordedCount, if_pos (.inr trivial)]
    exact law.numbers_leased leased
  case succeeded => exact fun succeeded => absurd succeeded ended.1
  case unsuccessful => exact fun _ => law.failed_of_leased leased

private theorem finish (held : row.HeldBy workerId attemptNo)
    (startedAt completedAt : Time) (outcome : CompletionOutcome) :
    RowLaw store.policy (row.finish store.policy attemptNo completedAt outcome row)
      (attempts ++ [outcome.attempt row.outboxId attemptNo startedAt completedAt])
      False := by
  have failed := law.failed_of_leased held.leased
  have numbers : (attempts ++ [outcome.attempt row.outboxId attemptNo startedAt completedAt]).map
      AttemptRow.attemptNo = range' 1 row.attemptCount := by
    obtain ⟨_, count⟩ := Nat.exists_eq_add_of_le' (law.leased_pos held.leased)
    rw [map_append, law.numbers_leased held.leased, map_singleton,
      show (outcome.attempt row.outboxId attemptNo startedAt completedAt).attemptNo = _ by
        cases outcome <;> rfl, ← held.counted, count, Nat.add_sub_cancel, range'_concat]
    simp [Nat.add_comm]
  cases outcome with
  | succeeded providerReceipt =>
    constructor
    case count_le => exact law.count_le
    case waiting_lt =>
      intro waiting
      rcases waiting with pending | retry
      · cases pending
      · cases retry
    case leased_pos => exact nofun
    case recovered_ended => exact False.elim
    case numbers =>
      rw [OutboxRow.recordedCount, if_neg (by
        simp [OutboxRow.finish, OutboxRow.settle, RetryPolicy.settlement])]
      exact numbers
    case succeeded => exact fun _ => ⟨attempts, _, rfl, rfl, failed⟩
    case unsuccessful => exact fun unsucceeded => absurd rfl unsucceeded
  | failed error =>
    have status := store.policy.settlement_status_failed row.expiresAt attemptNo completedAt error
    set settled := row.finish store.policy attemptNo completedAt (.failed error) row with settledDef
    have sameStatus : (store.policy.settlement row.expiresAt attemptNo completedAt
        (.failed error)).1 = settled.status := rfl
    have sameCount : settled.attemptCount = row.attemptCount := rfl
    simp only [sameStatus] at status
    have unleased : settled.status ≠ .leased ∧ settled.status ≠ .succeeded := by
      rcases status with same | same | ⟨same, _⟩ <;> rw [same] <;> decide
    constructor
    case count_le => exact law.count_le
    case waiting_lt =>
      intro waiting
      rcases status with same | same | ⟨_, below⟩
      · rw [same] at waiting
        exact absurd waiting (by decide)
      · rw [same] at waiting
        exact absurd waiting (by decide)
      · rw [sameCount, held.counted]
        exact below
    case leased_pos => exact fun leased => absurd leased unleased.1
    case recovered_ended => exact False.elim
    case numbers =>
      rw [OutboxRow.recordedCount, if_neg (by simp [unleased.1])]
      exact numbers
    case succeeded => exact fun succeeded => absurd succeeded unleased.2
    case unsuccessful =>
      intro _ attempt mem
      rcases mem_append.mp mem with earlier | last
      · exact failed attempt earlier
      · rw [mem_singleton] at last
        rw [last]
        rfl

theorem move (moving : RowMove store row kind moved finished) :
    RowLaw store.policy moved (attempts ++ finished) (kind = .recover) := by
  have fresh := law.not_recovered moving
  cases moving with
  | expire waiting => exact (law.expire fresh waiting _ _).congr_recovered (by simp)
  | lease waiting => exact (law.lease fresh waiting _ _ _).congr_recovered (by simp)
  | finish held => exact (law.finish held _ _ _).congr_recovered (by simp)
  | giveBack held => exact (law.giveBack held.leased _ _).congr_recovered (by simp)
  | note held => exact (law.note fresh _ _).congr_recovered (by simp)
  | recover overdue => exact (law.recover overdue.1 _).congr_recovered (by simp)

end

end RowLaw

variable {policy : RetryPolicy} {row : OutboxRow} {recovered : Prop}

theorem RowLaw.fresh [Decidable recovered] (unattempted : row.attemptCount = 0)
    (status : row.status = .pending ∨ row.status = .expired) (unrecovered : ¬ recovered) :
    RowLaw policy row [] recovered := by
  have ended : row.status ≠ .leased ∧ row.status ≠ .succeeded := by
    rcases status with same | same <;> rw [same] <;> decide
  constructor
  case count_le => simp [unattempted]
  case waiting_lt =>
    intro _
    rw [unattempted]
    exact policy.maxAttempts_pos
  case leased_pos => exact fun leased => absurd leased ended.1
  case recovered_ended => exact fun holds => absurd holds unrecovered
  case numbers => simp [recordedCount, unattempted]
  case succeeded => exact fun succeeded => absurd succeeded ended.2
  case unsuccessful => simp

/-! ## The law of a history -/

structure DeliveryHistory.Lawful (store : SignalBusStore) (history : DeliveryHistory) : Prop where
  uniqueIds : (history.bus.outbox.map OutboxRow.outboxId).Nodup
  uniqueTargets : (history.bus.outbox.map fun row => (row.signalId, row.target)).Nodup
  attempted :
    ∀ attempt ∈ history.bus.attempts, attempt.outboxId ∈ history.bus.outbox.map OutboxRow.outboxId
  recovered : ∀ outboxId ∈ history.recovered, outboxId ∈ history.bus.outbox.map OutboxRow.outboxId
  rows : ∀ row ∈ history.bus.outbox,
    RowLaw store.policy row (history.bus.attemptsOf row.outboxId) (history.Recovered row)

namespace DeliveryHistory

variable {store : SignalBusStore} {history : DeliveryHistory}

theorem initial_lawful (store : SignalBusStore) : initial.Lawful store where
  uniqueIds := nodup_nil
  uniqueTargets := nodup_nil
  attempted := nofun
  recovered := nofun
  rows := fun _ mem => by cases mem

variable {after : SignalBus} {finished : List AttemptRow} {row : OutboxRow}
  {start final : DeliveryHistory}

/-- A change of the outbox keeps the law, when the deliveries it recovers are
those that move by recovery. -/
theorem Lawful.of_change (law : history.Lawful store) {kinds : MoveKind → Prop}
    {change : OutboxRow → OutboxRow} {added : List OutboxRow} {recovered : List Digest}
    (changed : OutboxChange store kinds history.bus after change added finished)
    (known : ∀ outboxId ∈ recovered, outboxId ∈ history.bus.outbox.map OutboxRow.outboxId)
    (kept : ∀ row ∈ history.bus.outbox, change row = row → row.outboxId ∉ recovered)
    (marked : ∀ row ∈ history.bus.outbox, ∀ kind finished, kinds kind →
      RowMove store row kind (change row) finished →
      (row.outboxId ∈ recovered ↔ kind = .recover)) :
    Lawful store { bus := after, recovered := history.recovered ++ recovered } := by
  constructor
  case uniqueIds => exact changed.uniqueIds
  case uniqueTargets => exact changed.uniqueTargets law.uniqueTargets
  case attempted =>
    intro attempt mem
    simp only [changed.attempts, mem_append] at mem
    rcases mem with old | new
    · exact changed.idKept (law.attempted attempt old)
    · exact changed.idKept (changed.known attempt new)
  case recovered =>
    intro outboxId mem
    rcases mem_append.mp mem with old | new
    · exact changed.idKept (law.recovered outboxId old)
    · exact changed.idKept (known outboxId new)
  case rows =>
    intro row mem
    simp only [changed.outbox, mem_append] at mem
    rcases mem with old | new
    · -- a row of the table before: it stays or moves
      obtain ⟨before, beforeMem, rfl⟩ := mem_map.mp old
      have beforeLaw := law.rows before beforeMem
      have sameId := (changed.sameDelivery beforeMem).outboxId
      have attempts : after.attemptsOf before.outboxId =
          history.bus.attemptsOf before.outboxId ++
            finished.filter fun attempt => attempt.outboxId = before.outboxId := by
        rw [SignalBus.attemptsOf, changed.attempts, filter_append]
        rfl
      simp only [Recovered, sameId, mem_append]
      rw [attempts]
      rcases changed.moved before beforeMem with
        ⟨same, none⟩ | ⟨kind, allowed, move⟩
      · rw [none, append_nil, same]
        have unmarked := kept before beforeMem same
        exact beforeLaw.congr_recovered (by simp [Recovered, unmarked])
      · have earlier := beforeLaw.not_recovered move
        refine (beforeLaw.move move).congr_recovered ?_
        rw [← marked before beforeMem kind _ allowed move]
        exact ⟨Or.inr, fun holds => holds.resolve_left earlier⟩
    · -- a row that was added: it has no past
      obtain ⟨unattempted, status, unknown⟩ := changed.fresh row new
      have attempts : after.attemptsOf row.outboxId = [] := by
        refine filter_of_none fun attempt attemptMem sameId => ?_
        rw [changed.attempts, mem_append] at attemptMem
        rcases attemptMem with old | later
        · exact unknown (sameId ▸ law.attempted attempt old)
        · exact unknown (sameId ▸ changed.known attempt later)
      rw [attempts]
      refine RowLaw.fresh unattempted status ?_
      intro marked
      rcases mem_append.mp marked with old | later
      · exact unknown (law.recovered _ old)
      · exact unknown (known _ later)

theorem mem_recovers_iff {now : Time} {bus : SignalBus} {records : List OutboxRecord}
    (unique : (bus.outbox.map outboxId).Nodup)
    (recovered : store.recoverExpiredLeases now bus = (.ok records, after)) :
    ∀ {outboxId}, outboxId ∈ records.map OutboxRecord.outboxId ↔
      ∃ row ∈ bus.outbox, row.outboxId = outboxId ∧ row.Overdue now := by
  obtain ⟨frame, recoveredIds, listed, read⟩ := recoverExpiredLeases_eq_ok unique recovered
  have sameOutbox := congrArg SignalBus.outbox frame
  have ids : records.map OutboxRecord.outboxId =
      (SignalBusStore.rowsForOutboxIds after.outbox recoveredIds).map outboxId := by
    rw [records_of_mapM read, map_map]
    rfl
  have overdueId : ∀ row : OutboxRow,
      (if row.Overdue now then row.recover now row else row).outboxId = row.outboxId := by
    intro row
    split <;> rfl
  intro outboxId
  rw [ids, mem_map]
  constructor
  · rintro ⟨row, mem, rfl⟩
    obtain ⟨rowMem, named⟩ := mem_rowsForOutboxIds.mp mem
    rw [sameOutbox] at rowMem
    obtain ⟨before, beforeMem, rfl⟩ := mem_map.mp rowMem
    rw [overdueId] at named ⊢
    exact ⟨before, beforeMem, rfl, (listed before beforeMem).mp named⟩
  · rintro ⟨before, beforeMem, rfl, overdue⟩
    refine ⟨_, mem_rowsForOutboxIds.mpr ⟨?_, ?_⟩, overdueId before⟩
    · rw [sameOutbox]
      exact mem_map_of_mem beforeMem
    · rw [overdueId]
      exact (listed before beforeMem).mpr overdue

theorem recover_unleased (now : Time) (row : OutboxRow) :
    (row.recover now row).status ≠ .leased := by
  rcases recover_status now row row with same | same <;>
    rw [same] <;> decide

theorem ne_of_recover (move : RowMove store row .recover moved finished) : moved ≠ row := by
  intro same
  cases move with
  | recover overdue => exact recover_unleased _ row (same ▸ overdue.1)

theorem Lawful.step (law : history.Lawful store) (call : BusCall) :
    (history.step store call).Lawful store := by
  by_cases recovery : ∃ now, call = .recoverExpiredLeases now
  · obtain ⟨now, rfl⟩ := recovery
    rcases recovered : store.recoverExpiredLeases now history.bus with
      ⟨_, after⟩
    simp only [DeliveryHistory.step, BusCall.apply, BusCall.recovers, recovered]
    rcases writeTransaction_cases recovered with
      ⟨rfl, _, rfl⟩ | ⟨records, rfl, _⟩
    · simpa using law
    · have marks : ∀ {outboxId}, outboxId ∈ records.map OutboxRecord.outboxId ↔
          ∃ row ∈ history.bus.outbox, row.outboxId = outboxId ∧ row.Overdue now :=
        mem_recovers_iff law.uniqueIds recovered
      have marksRow : ∀ row ∈ history.bus.outbox,
          (row.outboxId ∈ records.map OutboxRecord.outboxId ↔ row.Overdue now) := by
        intro row mem
        rw [marks]
        constructor
        · rintro ⟨_, otherMem, sameId, overdue⟩
          rwa [← eq_of_key_eq law.uniqueIds otherMem mem sameId]
        · exact fun overdue => ⟨row, mem, rfl, overdue⟩
      have changed : OutboxChange store (· = .recover) history.bus after
          (fun row => if row.Overdue now then row.recover now row else row)
          [] [] :=
        OutboxChange.of_recovered law.uniqueIds rfl recovered
      refine law.of_change changed ?_ ?_ ?_
      · intro outboxId mem
        obtain ⟨row, rowMem, rfl, _⟩ := marks.mp mem
        exact mem_map_of_mem rowMem
      · intro row mem same marked
        have overdue := (marksRow row mem).mp marked
        rw [if_pos overdue] at same
        exact recover_unleased now row (same ▸ overdue.1)
      · rintro row mem kind finished rfl move
        rw [marksRow row mem]
        refine iff_of_true ?_ rfl
        by_contra early
        rw [if_neg early] at move
        exact ne_of_recover move rfl
  · have silent : call.recovers store history.bus = [] := by
      cases call with
      | recoverExpiredLeases now => exact absurd ⟨now, rfl⟩ recovery
      | _ => rfl
    obtain ⟨_, _, finished, changed⟩ :=
      outboxChange_of_step law.uniqueIds (rfl : BusStep store history.bus call _)
    simp only [DeliveryHistory.step, silent]
    refine law.of_change changed (by simp) (by simp) ?_
    intro row _ kind _ allowed _
    have different : kind ≠ .recover := by
      rintro rfl
      cases call with
      | recoverExpiredLeases now => exact recovery ⟨now, rfl⟩
      | claimDue => rcases allowed with same | same <;> cases same
      | _ => cases allowed
    simp [different]

theorem Reaches.lawful (run : Reaches store start final) (law : start.Lawful store) :
    final.Lawful store := by
  refine Foundation.Reaches.invariant run law ?_
  rintro _ call _ sourceLaw _ rfl
  exact sourceLaw.step call

theorem Reaches.ended_row (run : Reaches store start final) (law : start.Lawful store)
    (mem : row ∈ start.bus.outbox) (ended : row.status.Terminal) :
    row ∈ final.bus.outbox := by
  have both : final.Lawful store ∧ row ∈ final.bus.outbox := by
    refine Foundation.Reaches.invariant
      (motive := fun history => history.Lawful store ∧ row ∈ history.bus.outbox)
      run ⟨law, mem⟩ ?_
    rintro source call _ ⟨sourceLaw, sourceMem⟩ _ rfl
    refine ⟨sourceLaw.step call, ?_⟩
    obtain ⟨change, _, _, changed⟩ :=
      outboxChange_of_step sourceLaw.uniqueIds (rfl : BusStep store source.bus call _)
    have same : change row = row := by
      rcases changed.moved row sourceMem with ⟨same, _⟩ | ⟨_, _, move⟩
      · exact same
      · exact absurd ended move.not_terminal
    rw [DeliveryHistory.step, changed.outbox]
    exact mem_append_left _ (mem_map.mpr ⟨row, sourceMem, same⟩)
  exact both.2

end DeliveryHistory

theorem RowLaw.succeeded_iff [Decidable recovered] (law : RowLaw policy row attempts recovered) :
    row.status = .succeeded ↔
      ∃ last, attempts.getLast? = some last ∧ attempts.filter AttemptRow.success = [last] := by
  constructor
  · intro succeeded
    obtain ⟨earlier, last, rfl, lastSucceeded, failed⟩ := law.succeeded succeeded
    refine ⟨last, by simp, ?_⟩
    have none : earlier.filter AttemptRow.success = [] := by
      rw [filter_eq_nil_iff]
      intro attempt mem
      simp [failed attempt mem]
    rw [filter_append, none, filter_singleton, lastSucceeded]
    rfl
  · rintro ⟨last, _, only⟩
    by_contra unsucceeded
    have lastMem : last ∈ attempts.filter AttemptRow.success := by
      rw [only]
      exact mem_singleton_self last
    have lastAttempt := mem_filter.mp lastMem
    rw [law.unsuccessful unsucceeded last lastAttempt.1] at lastAttempt
    cases lastAttempt.2

/-- Along every run there is one row for each signal, recipient and channel;
a row that has ended never changes; its counter stays within the policy and in
step with its attempts; and it has succeeded exactly when its last recorded
attempt is its single successful one. -/
theorem outbox_lifecycle {store : SignalBusStore} {history : DeliveryHistory}
    (run : DeliveryHistory.Reaches store .initial history) :
    (history.bus.outbox.map fun row =>
      (row.signalId, row.target.recipientId, row.target.channel)).Nodup ∧
    ∀ row ∈ history.bus.outbox,
      (row.status = .succeeded ∨ row.status = .expired ∨ row.status = .deadLetter →
        ∀ later, DeliveryHistory.Reaches store history later → row ∈ later.bus.outbox) ∧
      (0 ≤ row.attemptCount ∧ row.attemptCount ≤ store.policy.maxAttempts) ∧
      (history.bus.attemptsOf row.outboxId).map AttemptRow.attemptNo =
        range' 1
          (if row.status = .leased ∨ history.Recovered row then
            row.attemptCount - 1
          else row.attemptCount) ∧
      (row.status = .succeeded ↔
        ∃ last, (history.bus.attemptsOf row.outboxId).getLast? = some last ∧
          (history.bus.attemptsOf row.outboxId).filter AttemptRow.success = [last]) := by
  have law := run.lawful (DeliveryHistory.initial_lawful store)
  constructor
  · have injective : Function.Injective fun pair : Digest × DeliveryTarget =>
          (pair.1, pair.2.recipientId, pair.2.channel) := by
      rintro ⟨_, ⟨_, _, _⟩⟩ ⟨_, ⟨_, _, _⟩⟩ same
      simp only [Prod.mk.injEq] at same
      obtain ⟨rfl, rfl, rfl⟩ := same
      rfl
    have mapped := law.uniqueTargets.map injective
    rwa [map_map] at mapped
  · intro row member
    have rowLaw := law.rows row member
    exact ⟨fun ended later onward => onward.ended_row law member ended,
      ⟨Nat.zero_le _, rowLaw.count_le⟩, rowLaw.numbers, rowLaw.succeeded_iff⟩

/-- Digests that tell a few short signals and recipients apart. -/
def sampleDigests : SignalDigests where
  deliveryKey signalId target :=
    Fin.ofNat _ (100 * signalId.val + 2 * target.recipientId.length +
      (match target.channel with | .pushdeer => 0 | .pushplus => 1))
  payloadHash signal := signal.signalId
  manifestHash targets := Fin.ofNat _ targets.length
  routingDecision policy kind targets _ :=
    Fin.ofNat _ (100 * policy.val + 2 * targets.length +
      (match kind with | .route => 0 | .noTarget => 1))

def sampleStore : SignalBusStore where
  digests := sampleDigests
  policy := RetryPolicy.default

def sampleSignal (signalId : Digest) : SignalEnvelope where
  signalId := signalId
  availableAt := 0
  expiresAt := 60000000
  body := "sample"
  available_before_expiry := by decide

def sampleTarget (recipientId : String) (stripped : Stripped recipientId) : DeliveryTarget where
  recipientId := recipientId
  channel := .pushdeer
  recipientId_stripped := stripped

def sampleFirst : DeliveryTarget := sampleTarget "a" (by decide)

def sampleSecond : DeliveryTarget := sampleTarget "bb" (by decide)

def sampleThird : DeliveryTarget := sampleTarget "ccc" (by decide)

/-- Three deliveries of one signal: the first fails and is retried with
success, the second is given back, the third is lost with its worker. -/
def sampleDeliveries : List BusCall :=
  [.ingest (.legacy (sampleSignal 7)) 0, .route 7 [sampleFirst, sampleSecond, sampleThird] 1,
    .claimDue "w" 10 1000 5, .completeFailure 702 "w" 1 20 "timeout",
    .releaseUnattempted 704 "w" 1 30 "batch lease elapsed", .recoverExpiredLeases 2000,
    .claimDue "v" 6000000 1000 1, .releaseUnattempted 704 "v" 1 6000001 "batch lease elapsed",
    .claimDue "v" 6000002 1000 1, .completeSuccess 702 "v" 2 6000003 "receipt"]

def sampleHistory : DeliveryHistory :=
  sampleDeliveries.foldl (DeliveryHistory.step sampleStore) DeliveryHistory.initial

theorem sampleHistory_reached : DeliveryHistory.Reaches sampleStore .initial sampleHistory :=
  reaches_foldl (fun _ _ => trivial) _ _

/-- One delivery succeeds in its second attempt, one waits and one lost its
lease. -/
theorem outbox_lifecycle_sample :
    sampleHistory.bus.outbox.map (fun row => (row.status, row.attemptCount)) =
        [(.succeeded, 2), (.retry, 0), (.deadLetter, 1)] ∧
      sampleHistory.recovered = [706] ∧
      ∀ row ∈ sampleHistory.bus.outbox,
        (sampleHistory.bus.attemptsOf row.outboxId).map AttemptRow.attemptNo =
          range' 1
            (if row.status = .leased ∨ sampleHistory.Recovered row then
              row.attemptCount - 1
            else row.attemptCount) :=
  ⟨by decide +kernel, by decide +kernel, fun row member =>
    ((outbox_lifecycle sampleHistory_reached).2 row member).2.2.1⟩

end RQuant.Signal
