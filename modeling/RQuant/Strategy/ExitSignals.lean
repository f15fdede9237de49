import RQuant.Foundation.Table
import RQuant.Runtime

/-!
# The exits a strategy sees

A runner stores its signals with their times as text and selects the exits of
an entry by comparing that text.  A whole second is written without a fraction,
so its text stands behind the text of every later instant of that second.
-/

namespace RQuant.Strategy

open Foundation List

/-- An instant in UTC by its fields, as `datetime` keeps and compares it. -/
structure UtcTime where
  (year month day hour minute second microsecond : ℕ)
  bounds : year < 10000 ∧ month < 13 ∧ day < 32 ∧ hour < 24 ∧ minute < 60 ∧ second < 60 ∧
    microsecond < 1000000
  deriving DecidableEq

namespace UtcTime

def seconds (time : UtcTime) : List ℕ :=
  [time.year, time.month, time.day, time.hour, time.minute, time.second]

def fields (time : UtcTime) : List ℕ := time.seconds ++ [time.microsecond]

instance : LE UtcTime := ⟨fun time other => ¬ other.fields < time.fields⟩

instance (time other : UtcTime) : Decidable (time ≤ other) :=
  inferInstanceAs (Decidable (¬ _))

end UtcTime

/-- A number in `width` decimal digits. -/
def digits : ℕ → ℕ → List Char
  | 0, _ => []
  | width + 1, number => digits width (number / 10) ++ [Nat.digitChar (number % 10)]

/-- `_utc_iso`: `isoformat` leaves the fraction of a whole second out. -/
def utcIso (time : UtcTime) : List Char :=
  digits 4 time.year ++ '-' :: (digits 2 time.month ++ '-' :: (digits 2 time.day ++ 'T' ::
    (digits 2 time.hour ++ ':' :: (digits 2 time.minute ++ ':' :: (digits 2 time.second ++
      if time.microsecond = 0 then ['Z'] else '.' :: (digits 6 time.microsecond ++ ['Z']))))))

theorem digitChar_order :
    ∀ left < 10, ∀ right < 10, (Nat.digitChar left < Nat.digitChar right ↔ left < right) ∧
      (Nat.digitChar left = Nat.digitChar right ↔ left = right) := by
  decide

variable {rows : List SignalRow} {left right width : ℕ}

theorem digits_append_lt (leftSmall : left < 10 ^ width) (rightSmall : right < 10 ^ width) :
    digits width left ++ front < digits width right ++ back ↔
      left < right ∨ left = right ∧ front < back := by
  induction width generalizing left right front back with
  | zero =>
    obtain rfl : left = 0 := by simpa using leftSmall
    obtain rfl : right = 0 := by simpa using rightSmall
    simp [digits]
  | succ width ih =>
    obtain ⟨less, same⟩ := digitChar_order _ (left.mod_lt (by decide)) _ (right.mod_lt (by decide))
    rw [digits, digits, append_assoc, append_assoc, ih (by omega) (by omega)]
    simp only [cons_append, nil_append, cons_lt_cons_iff, less, same]
    by_cases later : front < back <;> simp only [later, and_true, and_false, or_false] <;> omega

theorem utcIso_lt_iff {time other : UtcTime}
    (alike : time.seconds = other.seconds → (time.microsecond = 0 ↔ other.microsecond = 0)) :
    utcIso time < utcIso other ↔ time.fields < other.fields := by
  have := time.bounds
  have := other.bounds
  simp (disch := omega) only [utcIso, UtcTime.fields, UtcTime.seconds, digits_append_lt,
    cons_append, nil_append, cons_lt_cons_iff, lt_irrefl, and_false, or_false, false_or, true_and,
    cons.injEq, and_true] at alike ⊢
  iterate 6 refine or_congr_right (and_congr_right fun _ => ?_)
  have fractions := alike ⟨‹_›, ‹_›, ‹_›, ‹_›, ‹_›, ‹_›⟩
  by_cases whole : time.microsecond = 0
  · simp [whole, fractions.mp whole]
  · simp (disch := omega) [whole, mt fractions.mpr whole, digits_append_lt]

/-- In one second the text of the whole second is the last, its instant the
first. -/
theorem utcIso_lt_whole {whole other : UtcTime} (same : whole.seconds = other.seconds)
    (zero : whole.microsecond = 0) (fraction : other.microsecond ≠ 0) :
    utcIso other < utcIso whole ∧ whole.fields < other.fields := by
  have := whole.bounds
  have := other.bounds
  constructor
  · simp only [UtcTime.seconds, cons.injEq, and_true] at same
    obtain ⟨year, month, day, hour, minute, second⟩ := same
    simp (disch := omega) [utcIso, digits_append_lt, zero, fraction, year, month, day, hour,
      minute, second]
    exact cons_lt_cons_iff.mpr (.inl (by decide))
  · rw [UtcTime.fields, UtcTime.fields, same, zero]
    exact append_left_lt (cons_lt_cons_iff.mpr (.inl (Nat.pos_of_ne_zero fraction)))

inductive SignalAction
  | watch | bIntent | reduce | sIntent | cancel
  deriving DecidableEq

def SignalAction.IsExit (action : SignalAction) : Prop := action = .reduce ∨ action = .sIntent
  deriving Decidable

structure RunnerSignal where
  signalId : Digest
  candidateId : String
  action : SignalAction
  (entrySignalId occurrenceId : Option Digest)
  (eventTime availableAt expiresAt : UtcTime)
  deriving DecidableEq

/-- The columns of `runner_signal` that are copied from the signal. -/
structure SignalIndex where
  candidateId : String
  action : SignalAction
  (entrySignalId occurrenceId : Option Digest)
  (eventTime availableAt expiresAt : List Char)
  deriving DecidableEq

/-- `_signal_index_values` -/
def signalIndexValues (signal : RunnerSignal) : Except String SignalIndex := do
  require (signal.action.IsExit → signal.entrySignalId ≠ none)
    "runner_signal exit requires entry_signal_id"
  require (signal.entrySignalId ≠ none → signal.action.IsExit)
    "runner_signal non-exit cannot carry entry_signal_id"
  pure
    { signal with
      eventTime := utcIso signal.eventTime
      availableAt := utcIso signal.availableAt
      expiresAt := utcIso signal.expiresAt }

structure SignalRow where
  signalId : Digest
  index : SignalIndex
  payload : RunnerSignal

/-- `_runner_signal_from_row` -/
def runnerSignalFromRow (row : SignalRow) : Except String RunnerSignal := do
  let indexed ← signalIndexValues row.payload
  require (row.signalId = row.payload.signalId ∧ row.index = indexed)
    "runner_signal indexed identity does not match canonical payload"
  pure row.payload

/-- `_exit_signals_for_entry`, over the rows in sequence order. -/
def exitSignalsForEntry (rows : List SignalRow) (candidateId : String)
    (occurrenceId : Option Digest) (entrySignalId : Digest) (decisionCutoff : UtcTime) :
    Except String (List RunnerSignal) :=
  (rows.filter fun row =>
    row.index.candidateId = candidateId ∧ row.index.occurrenceId = occurrenceId ∧
      row.index.entrySignalId = some entrySignalId ∧ row.index.action.IsExit ∧
      ¬ utcIso decisionCutoff < row.index.availableAt).mapM runnerSignalFromRow

/-- The signals the evaluator decided on for a batch. -/
structure Batch where
  observedAt : UtcTime
  decided : List RunnerSignal

structure RunnerStore where
  rows : List SignalRow := []
  observedAt : Option UtcTime := none

/-- A signal is available from when its batch was observed. -/
def insertSignal (observedAt : UtcTime) (rows : List SignalRow) (decided : RunnerSignal) :
    Except String (List SignalRow) := do
  let signal := { decided with availableAt := observedAt }
  let index ← signalIndexValues signal
  require (∀ row ∈ rows, row.signalId ≠ signal.signalId)
    "UNIQUE constraint failed: runner_signal.signal_id"
  pure (rows ++ [⟨signal.signalId, index, signal⟩])

/-- `process_batch`, as far as it stores signals. -/
def processBatch (store : RunnerStore) (batch : Batch) : Except String RunnerStore := do
  require (∀ previous ∈ store.observedAt, previous ≤ batch.observedAt)
    "observed_at cannot move backwards across feature sequences"
  let rows ← batch.decided.foldlM (insertSignal batch.observedAt) store.rows
  pure { rows, observedAt := some batch.observedAt }

def SignalRow.Indexed (row : SignalRow) : Prop :=
  row.signalId = row.payload.signalId ∧ signalIndexValues row.payload = .ok row.index

theorem indexed_of_insertSignal (indexed : ∀ row ∈ rows, row.Indexed)
    (inserted : insertSignal observedAt rows decided = .ok stored) :
    ∀ row ∈ stored, row.Indexed := by
  simp only [insertSignal, run_eq_ok] at inserted
  obtain ⟨index, valid, _, rfl⟩ := inserted
  exact forall_mem_concat.mpr ⟨indexed, rfl, valid⟩

variable {store reached : RunnerStore} {history : List Batch} {cutoff : UtcTime}

theorem indexed_of_processBatch (indexed : ∀ row ∈ store.rows, row.Indexed)
    (processed : processBatch store batch = .ok reached) : ∀ row ∈ reached.rows, row.Indexed := by
  simp only [processBatch, run_eq_ok] at processed
  obtain ⟨_, rows, stored, rfl⟩ := processed
  exact foldlM_keeps indexed_of_insertSignal indexed stored

def RunnerSignal.IsExitOf (signal : RunnerSignal) (candidateId : String)
    (occurrenceId : Option Digest) (entrySignalId : Digest) : Prop :=
  signal.candidateId = candidateId ∧ signal.occurrenceId = occurrenceId ∧
    signal.entrySignalId = some entrySignalId ∧ signal.action.IsExit
  deriving Decidable

/-- The comparison of the query. -/
def RunnerSignal.Selected (signal : RunnerSignal) (cutoff : UtcTime) : Prop :=
  ¬ utcIso cutoff < utcIso signal.availableAt
  deriving Decidable

/-- The instants of a signal and of the cutoff are written alike: if they fall
into one second, both or neither is the whole second. -/
def RunnerSignal.Alike (signal : RunnerSignal) (cutoff : UtcTime) : Prop :=
  signal.availableAt.seconds = cutoff.seconds →
    (signal.availableAt.microsecond = 0 ↔ cutoff.microsecond = 0)
  deriving Decidable

/-- For instants that are written alike the text decides as the instants do. -/
theorem RunnerSignal.Alike.selected_iff {signal : RunnerSignal} (alike : signal.Alike cutoff) :
    signal.Selected cutoff ↔ signal.availableAt ≤ cutoff :=
  not_congr (utcIso_lt_iff fun same => (alike same.symm).symm)

/-- What is not written alike is selected when it is not available, and not
selected when it is. -/
theorem RunnerSignal.selected_iff_of_not_alike {signal : RunnerSignal}
    (unlike : ¬ signal.Alike cutoff) :
    (signal.Selected cutoff ↔ cutoff.microsecond = 0) ∧
      (signal.availableAt ≤ cutoff ↔ cutoff.microsecond ≠ 0) := by
  simp only [RunnerSignal.Alike, not_forall, exists_prop] at unlike
  obtain ⟨same, differ⟩ := unlike
  by_cases zero : cutoff.microsecond = 0
  · obtain ⟨behind, before⟩ := utcIso_lt_whole same.symm zero (by simpa [zero] using differ)
    exact ⟨iff_of_true behind.asymm zero, iff_of_false (not_not_intro before) (by simp [zero])⟩
  · obtain ⟨behind, before⟩ := utcIso_lt_whole same (by simpa [zero] using differ) zero
    exact ⟨iff_of_false (not_not_intro behind) zero, iff_of_true before.asymm zero⟩

theorem exitSignalsForEntry_eq_ok (indexed : ∀ row ∈ rows, row.Indexed) :
    exitSignalsForEntry rows candidateId occurrenceId entrySignalId cutoff =
      .ok ((rows.map SignalRow.payload).filter fun signal =>
        signal.IsExitOf candidateId occurrenceId entrySignalId ∧ signal.Selected cutoff) := by
  rw [filter_map]
  unfold exitSignalsForEntry
  rw [filter_congr (q := _ ∘ SignalRow.payload) fun row mem => ?_]
  · refine mapM_eq_ok fun row mem => ?_
    obtain ⟨sameId, valid⟩ := indexed row (mem_filter.mp mem).1
    rw [runnerSignalFromRow, valid, ok_bind, require_of ⟨sameId, rfl⟩]
    rfl
  · have valid := (indexed row mem).2
    simp only [signalIndexValues, run_eq_ok] at valid
    obtain ⟨_, _, columns⟩ := valid
    rw [← columns]
    simp only [Function.comp_apply, RunnerSignal.IsExitOf, RunnerSignal.Selected, and_assoc]

/-- The lifecycle source is handed exactly the exits available at the cutoff,
unless one of them falls into the second of the cutoff and only one of the two
instants is a whole second; then it is not. -/
theorem exitSignalsForEntry_eq (ran : history.foldlM processBatch {} = .ok store)
    (candidateId : String) (occurrenceId : Option Digest) (entrySignalId : Digest)
    (cutoff : UtcTime) :
    exitSignalsForEntry store.rows candidateId occurrenceId entrySignalId cutoff =
      .ok ((store.rows.map SignalRow.payload).filter fun signal =>
        signal.IsExitOf candidateId occurrenceId entrySignalId ∧ signal.availableAt ≤ cutoff) ↔
    ∀ signal ∈ store.rows.map SignalRow.payload,
      signal.IsExitOf candidateId occurrenceId entrySignalId → signal.Alike cutoff := by
  rw [exitSignalsForEntry_eq_ok (foldlM_keeps indexed_of_processBatch (by simp) ran),
    Except.ok.injEq]
  constructor
  · intro same signal mem isExit
    by_contra unlike
    obtain ⟨selected, available⟩ := RunnerSignal.selected_iff_of_not_alike unlike
    -- `signal` is in both selections or in neither, but exactly one of the two tests holds for it
    have both : (signal ∈ filter _ _) = (signal ∈ filter _ _) := congrArg (signal ∈ ·) same
    simp only [mem_filter, mem, isExit, true_and, decide_eq_true_eq, eq_iff_iff] at both
    rw [selected, available] at both
    exact iff_not_self both
  · intro alike
    refine filter_congr fun signal mem => ?_
    simp only [decide_eq_decide]
    exact and_congr_right fun isExit => (alike signal mem isExit).selected_iff

/-- An instant of five seconds past 10:05. -/
def sampleTime (microsecond : Fin 1000000) : UtcTime :=
  ⟨2026, 7, 1, 10, 5, 5, microsecond, by omega⟩

/-- An entry, and half of it reduced on a whole second. -/
def sampleHistory : List Batch :=
  let entry : RunnerSignal :=
    { signalId := 1, candidateId := "600000.SH", action := .bIntent, entrySignalId := none
      occurrenceId := none, eventTime := sampleTime 0, availableAt := sampleTime 0
      expiresAt := sampleTime 999999 }
  [⟨sampleTime 0, [entry]⟩,
    ⟨sampleTime 0, [{ entry with signalId := 2, action := .reduce, entrySignalId := some 1 }]⟩]

/-- At the whole second itself the exit is handed over. -/
theorem exitSignalsForEntry_sample : ∃ store, sampleHistory.foldlM processBatch {} = .ok store ∧
    (exitSignalsForEntry store.rows "600000.SH" none 1 (sampleTime 0)).map length = .ok 1 := by
  have ran : sampleHistory.foldlM processBatch {} = .ok _ := rfl
  refine ⟨_, ran, ?_⟩
  rw [(exitSignalsForEntry_eq ran _ _ _ _).mpr (by decide)]
  rfl

/-- Half a second later the exit is still available, but its text `…:05Z` stands
behind `…:05.500000Z`: it is not handed over. -/
theorem exit_unseen_in_its_second : ∃ store, sampleHistory.foldlM processBatch {} = .ok store ∧
    (∃ row ∈ store.rows, row.payload.IsExitOf "600000.SH" none 1 ∧
      row.payload.availableAt ≤ sampleTime 500000) ∧
    exitSignalsForEntry store.rows "600000.SH" none 1 (sampleTime 500000) = .ok [] :=
  ⟨_, rfl, by decide, rfl⟩

end RQuant.Strategy
