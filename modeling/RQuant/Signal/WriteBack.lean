import RQuant.Signal.Lifecycle

/-!
# Writing a failure back

`claim_due` stores the worker without surrounding white space and
`complete_failure` compares the worker it is given.  The delay of a retry is
computed before it is capped, in durations of bounded range.
-/

namespace RQuant.Signal

open Foundation List SignalBusStore

/-- `timedelta.max`, in microseconds. -/
def maxTimedelta : Time := 86399999999999999999

/-- `datetime.max`, in microseconds since 1970. -/
def maxDatetime : Time := 253402300799999999

def RetryPolicy.Representable (policy : RetryPolicy) (attemptNo : ℕ) (completedAt : Time) : Prop :=
  policy.retryBaseDelay * 2 ^ (attemptNo - 1) ≤ maxTimedelta ∧
    completedAt + policy.retryDelay attemptNo ≤ maxDatetime
deriving Decidable

/-- A Python text, by its code points: a surrogate may stand alone in it. -/
abbrev CodePoints := List ℕ

/-- UTF-8 has the text; it has no surrogate. -/
def CodePoints.Encodable (text : CodePoints) : Prop := ∀ code ∈ text, code.isValidChar
deriving Decidable

/-- The text, with a null character for each surrogate. -/
def CodePoints.toText (text : CodePoints) : String := String.ofList (text.map Char.ofNat)

/-- `complete_failure` where instants and durations are bounded and a stored
text is encoded: what raises inside the transaction rolls it back. -/
def SignalBusStore.completeFailureWithin (store : SignalBusStore) (outboxId : Digest)
    (workerId : String) (attemptNo : ℕ) (completedAt : Time) (error : CodePoints)
    (bus : SignalBus) : Except BusError OutboxRecord × SignalBus :=
  match store.completeFailure outboxId workerId attemptNo completedAt error.toText bus with
  | (.error raised, kept) => (.error raised, kept)
  | (.ok record, after) =>
    -- the attempt is inserted before the delay is computed
    if error.Encodable then
      if store.policy.Representable attemptNo completedAt then (.ok record, after)
      else (.error (.overflow "date value out of range"), bus)
    else (.error (.encoding "surrogates not allowed"), bus)

variable {store : SignalBusStore} {history : DeliveryHistory} {row : OutboxRow}

structure LeasedRow (digests : SignalDigests) (row : OutboxRow) : Prop where
  started : ∃ startedAt, row.leaseStartedAt = some startedAt ∧ row.createdAt ≤ startedAt
  ends : ∃ deadline, row.leaseUntil = some deadline ∧ deadline ≤ row.expiresAt
  created_lt : row.createdAt < row.expiresAt
  identity : row.outboxId = digests.deliveryKey row.signalId row.target

theorem RowMove.leasedRow (move : RowMove store row kind moved finished)
    (before : row.status = .leased → LeasedRow store.digests row)
    (leased : moved.status = .leased) : LeasedRow store.digests moved := by
  cases move with
  | expire => cases leased
  | lease waiting readable =>
    exact ⟨⟨_, rfl, readable.created_le⟩, ⟨_, rfl, readable.deadline_le rfl _ rfl⟩,
      readable.created_lt, readable.identity⟩
  | note held =>
    obtain ⟨started, ends, created, identity⟩ := before held.leased
    exact ⟨started, ends, created, identity⟩
  | finish _ readable | giveBack _ readable | recover _ readable => cases readable.leased leased

structure LeasedRows (store : SignalBusStore) (history : DeliveryHistory) : Prop where
  law : history.Lawful store
  rows : ∀ row ∈ history.bus.outbox, row.status = .leased → LeasedRow store.digests row

/-- A claim reads back the rows it leases, so they are sound in every run. -/
theorem leasedRows_of_run (run : DeliveryHistory.Reaches store .initial history) :
    LeasedRows store history := by
  refine Foundation.Reaches.invariant run
    ⟨DeliveryHistory.initial_lawful store, fun _ mem => by cases mem⟩ ?_
  rintro source call _ ⟨law, rows⟩ _ rfl
  refine ⟨law.step call, ?_⟩
  obtain ⟨change, added, _, changed⟩ :=
    outboxChange_of_step law.uniqueIds (rfl : BusStep store source.bus call _)
  intro row mem leased
  rcases mem_append.mp (changed.outbox ▸ mem) with old | new
  · obtain ⟨before, beforeMem, rfl⟩ := mem_map.mp old
    rcases changed.moved before beforeMem with ⟨same, _⟩ | ⟨_, _, move⟩
    · rw [same] at leased ⊢
      exact rows before beforeMem leased
    · exact move.leasedRow (rows before beforeMem) leased
  · rcases (changed.fresh row new).2.1 with status | status <;> cases status.symm.trans leased

theorem RetryPolicy.retryDelay_pos (policy : RetryPolicy) (attemptNo : ℕ) :
    0 < policy.retryDelay attemptNo :=
  lt_min (mul_pos policy.retryBaseDelay_pos (by positivity))
    (policy.retryBaseDelay_pos.trans_le policy.retryMaxDelay_le)

variable {completedAt : Time} {error workerId : String}

theorem LeasedRow.finish_readable (sound : LeasedRow store.digests row) (attemptNo : ℕ)
    (started : row.createdAt ≤ completedAt) (running : completedAt < row.expiresAt)
    (visible : ¬ Blank error) :
    ReadableRow store.digests
      (row.finish store.policy attemptNo completedAt (.failed error) row) := by
  have created := sound.created_lt
  have identity := sound.identity
  have later := store.policy.retryDelay_pos attemptNo
  have shown : ¬ Blank ("delivery window expired after failure: " ++ error) :=
    not_blank_append_left (by decide)
  unfold OutboxRow.finish OutboxRow.settle RetryPolicy.settlement
  dsimp only
  split
  · constructor <;> simp_all [OutboxStatus.Terminal]
  · split
    · constructor <;> simp_all [OutboxStatus.Terminal]
    · constructor <;> simp_all [OutboxStatus.Terminal]
      exact later.le

section

variable (run : DeliveryHistory.Reaches store .initial history) (mem : row ∈ history.bus.outbox)
  (leased : row.status = .leased)

include run mem leased

theorem unrecorded_of_leased : (row.outboxId, row.attemptCount) ∉
    history.bus.attempts.map fun attempt => (attempt.outboxId, attempt.attemptNo) := by
  have law := (leasedRows_of_run run).law.rows row mem
  have positive := law.leased_pos leased
  intro recorded
  obtain ⟨attempt, attemptMem, same⟩ := mem_map.mp recorded
  obtain ⟨sameId, number⟩ := Prod.mk.inj same
  have listed : attempt.attemptNo ∈
      (history.bus.attemptsOf row.outboxId).map AttemptRow.attemptNo :=
    mem_map_of_mem (mem_filter.mpr ⟨attemptMem, decide_eq_true sameId⟩)
  rw [law.numbers_leased leased, mem_range'_1] at listed
  omega

theorem complete_failed_eq_ok (owner : row.leaseOwner = some workerId)
    (started : ∀ startedAt ∈ row.leaseStartedAt, startedAt ≤ completedAt)
    (running : ∀ deadline ∈ row.leaseUntil, completedAt < deadline) (visible : ¬ Blank error) :
    ∃ record after,
      store.complete row.outboxId workerId row.attemptCount completedAt (.failed error)
        history.bus = .ok (record, after) ∧
      findKey OutboxRow.outboxId row.outboxId after.outbox =
        some (row.finish store.policy row.attemptCount completedAt (.failed error) row) := by
  obtain ⟨law, rows⟩ := leasedRows_of_run run
  have sound := rows row mem leased
  obtain ⟨startedAt, start, created⟩ := sound.started
  obtain ⟨deadline, ends, within⟩ := sound.ends
  have found := findKey_of_mem law.uniqueIds mem
  have kept : ∀ other : OutboxRow, (row.finish store.policy row.attemptCount completedAt
      (.failed error) other).outboxId = other.outboxId := fun _ => rfl
  have reread := findKey_updateKey kept found
  have readable := sound.finish_readable row.attemptCount
    (created.trans (started _ start)) ((running _ ends).trans_le within) visible
  simp only [run_eq_ok, complete, verifyLease, outboxRow_eq_ok, verifyLeaseHolder_eq_ok,
    insertUnique_eq_ok, requireTime, orRaise_eq_ok, Prod.mk.injEq]
  exact ⟨_, _, ⟨row, found, startedAt, ⟨⟨leased, owner, rfl⟩, _, start, _, ends, started _ start,
    running _ ends, rfl⟩, (law.rows row mem).leased_pos leased, _,
    ⟨unrecorded_of_leased run mem leased, rfl⟩, _, reread, _,
    outboxFromRow_eq_ok.mpr ⟨readable, rfl⟩, rfl, rfl⟩, reread⟩

end

/-- The delivery is retried when an attempt and the window are left, and has
ended otherwise. -/
def WrittenBack (store : SignalBusStore) (row : OutboxRow) (completedAt : Time)
    (after : SignalBus) : Prop :=
  let retryAt := completedAt +
    min (store.policy.retryBaseDelay * 2 ^ (row.attemptCount - 1)) store.policy.retryMaxDelay
  ∃ moved, findKey OutboxRow.outboxId row.outboxId after.outbox = some moved ∧
    if row.attemptCount < store.policy.maxAttempts ∧ retryAt < row.expiresAt then
      moved.status = .retry ∧ moved.nextAttemptAt = some retryAt
    else moved.status = .expired ∨ moved.status = .deadLetter

/-- The worker that claimed a row writes its failure back when it was given
without surrounding white space, the error can be stored and the retry is
within the range of instants and durations, and only then. -/
theorem failure_written_back_iff (run : DeliveryHistory.Reaches store .initial history)
    (mem : row ∈ history.bus.outbox) (leased : row.status = .leased)
    (claimed : row.leaseOwner = some (strip workerId))
    (started : ∀ startedAt ∈ row.leaseStartedAt, startedAt ≤ completedAt)
    (running : ∀ deadline ∈ row.leaseUntil, completedAt < deadline) {error : CodePoints} :
    (∃ record after,
      store.completeFailureWithin row.outboxId workerId row.attemptCount completedAt error
        history.bus = (.ok record, after) ∧ WrittenBack store row completedAt after) ↔
      ¬ Blank error.toText ∧ error.Encodable ∧ strip workerId = workerId ∧
        store.policy.Representable row.attemptCount completedAt := by
  constructor
  · rintro ⟨record, after, written, -⟩
    unfold completeFailureWithin at written
    split at written
    · cases written
    · rename_i completed
      split_ifs at written with encodable representable
      · have body := body_of_writeTransaction completed
        simp only [run_eq_ok] at body
        obtain ⟨visible, body⟩ := body
        obtain ⟨found, _, isFound, held, -⟩ := complete_eq_ok body
        cases (findKey_of_mem (leasedRows_of_run run).law.uniqueIds mem).symm.trans isFound
        exact ⟨visible, encodable, Option.some.inj (claimed.symm.trans held.owner),
          representable⟩
      · cases written
      · cases written
  · rintro ⟨visible, encodable, stripped, representable⟩
    obtain ⟨record, after, completed, found⟩ := complete_failed_eq_ok run mem leased
      (claimed.trans (congrArg some stripped)) started running visible
    obtain ⟨deadline, ends, within⟩ := ((leasedRows_of_run run).rows row mem leased).ends
    have unexpired := (running _ ends).trans_le within
    refine ⟨record, after, ?_, _, found, ?_⟩
    · simp only [completeFailureWithin, completeFailure, writeTransaction, require_of visible,
        ok_bind, completed, if_pos encodable, if_pos representable]
    · unfold OutboxRow.finish OutboxRow.settle RetryPolicy.settlement RetryPolicy.retryDelay
      grind

def sampleFailure : CodePoints := "timeout".toList.map Char.toNat

def claimedHistory (workerId : String) : DeliveryHistory :=
  [.ingest (.legacy (sampleSignal 7)) 0, .route 7 [sampleFirst] 1,
    .claimDue workerId 10 1000 5].foldl (DeliveryHistory.step sampleStore) .initial

/-- A worker without white space around its name. -/
theorem failure_written_back_sample :
    (claimedHistory "w").bus.outbox.map OutboxRow.status = [.leased] ∧
      ∀ row ∈ (claimedHistory "w").bus.outbox, ∃ record after,
        sampleStore.completeFailureWithin row.outboxId "w" row.attemptCount 20 sampleFailure
          (claimedHistory "w").bus = (.ok record, after) ∧
        WrittenBack sampleStore row 20 after := by
  refine ⟨by decide +kernel, fun row mem => ?_⟩
  have facts : ∀ row ∈ (claimedHistory "w").bus.outbox, row.status = .leased ∧
      row.leaseOwner = some (strip "w") ∧ (∀ startedAt ∈ row.leaseStartedAt, startedAt ≤ 20) ∧
      (∀ deadline ∈ row.leaseUntil, 20 < deadline) ∧
      sampleStore.policy.Representable row.attemptCount 20 := by decide +kernel
  obtain ⟨leased, claimed, started, running, representable⟩ := facts row mem
  exact (failure_written_back_iff (reaches_foldl (fun _ _ => trivial) _ _) mem leased claimed
    started running).mpr ⟨by decide, by decide, by decide, representable⟩

/-- With a blank in front, the worker that holds the lease is refused. -/
theorem failure_refused_by_own_worker : (claimedHistory " w").bus.outbox.length = 1 ∧
    ∀ row ∈ (claimedHistory " w").bus.outbox, row.status = .leased ∧
      row.leaseOwner = some (strip " w") ∧ row.leaseStartedAt = some 10 ∧
      row.leaseUntil = some 1010 ∧
      (sampleStore.completeFailureWithin row.outboxId " w" row.attemptCount 20
        sampleFailure (claimedHistory " w").bus).1.toOption.isNone = true :=
  ⟨by decide +kernel, by decide +kernel⟩

end RQuant.Signal
