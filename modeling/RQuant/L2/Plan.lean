import RQuant.L2.Boundary
import RQuant.L2.ColdStore

/-!
# The retention plan

`plan_retention` reads the cache, the manifest and the last archive receipt and
decides what to compact, what to retire from the hot cache and which cold
segments to give up.
-/

namespace RQuant.L2

open Foundation

/-- What a plan and the actions on it raise. -/
inductive RetentionError where
  | cache (error : CacheError)
  | invalidCache
  | scanFailed
  | writerActive
  | headLinked
  | ioError
  | unknownSegment
  deriving DecidableEq

/-- `getattr(exc, "code", …)`: only cache errors carry a code. -/
def CacheError.codeOr (fallback : RetentionError) : CacheError → RetentionError
  | .value _ => fallback
  | .index => fallback
  | error => .cache error

/-- `RetentionPolicy`; the keep windows are in microseconds. -/
structure RetentionPolicy where
  (reserveFreeBytes hotKeep coldKeep coldMaxBytes : ℕ)
  (archiveRequired verifySegments : Bool)

/-- The statuses of the receipts that archive jobs leave in `last-run.json`. -/
inductive ReceiptStatus where
  | initialized
  | alreadyInitialized
  | unchanged
  | archived
  deriving DecidableEq

structure ArchiveReceipt where
  status : ReceiptStatus
  lastSequence : ℕ
  deriving DecidableEq

/-- `_ARCHIVED_STATUSES`. -/
def ArchiveReceipt.Successful (receipt : ArchiveReceipt) : Prop :=
  receipt.status = .archived ∨ receipt.status = .unchanged
deriving Decidable

def archiveCoverage (receipt : Option ArchiveReceipt) : Option ℕ :=
  match receipt with
  | none => none
  | some receipt => if receipt.Successful then some receipt.lastSequence else none

/-- What a plan finds besides the two directories.  `archive` is absent when
no archive state is configured. -/
structure Surroundings where
  now : Time
  freeBytes : ℕ
  archive : Option (Option ArchiveReceipt)
  writerActive : Bool

structure CompactRange where
  (afterSequence untilSequence : ℕ)
  deriving DecidableEq

/-- Why cold segments are given up. -/
inductive EvictionReason where
  | coldBudget
  | reserveFloor
  deriving DecidableEq

structure ColdEviction where
  files : List SegmentName
  freedBytes : ℕ
  reason : EvictionReason
  deriving DecidableEq

structure RetentionPlan where
  (hotFloor hotHead : ℕ)
  compactRange : Option CompactRange
  archivedThrough : Option ℕ
  coldEviction : Option ColdEviction
  pruneThrough : ℕ
  (pruneHot writerActive : Bool)
  blockers : List String
  deriving DecidableEq

/-- One tier of `_plan_cold_eviction`: the chosen files and the bytes they
free. -/
def chooseTier (satisfied : ℕ → Bool) :
    List SegmentEntry → List SegmentName × ℕ → List SegmentName × ℕ
  | [], chosen => chosen
  | entry :: rest, (chosen, freed) =>
    if entry.file ∈ chosen then chooseTier satisfied rest (chosen, freed)
    else if satisfied freed then (chosen, freed)
    else
      chooseTier satisfied rest (chosen ++ [entry.file], freed + entry.storedBytes)

def planColdEviction (policy : RetentionPolicy) (now : Time)
    (freeBytes incomingBytes hotFloor : ℕ) (segments : List SegmentEntry) :
    Option ColdEviction :=
  let verified :=
    sortOn
      (fun entry : SegmentEntry =>
        toLex (entry.file.first, toLex (entry.file.last, entry.file.digest)))
      (segments.filter fun entry => entry.verifiedAt.isSome && entry.file.last ≤ hotFloor)
  let aged := verified.filter fun entry => entry.createdAt ≤ now - policy.coldKeep
  let projected := (segments.map SegmentEntry.storedBytes).sum + incomingBytes
  let mustEvict := decide (policy.coldMaxBytes < projected)
  let need := policy.reserveFreeBytes + incomingBytes - freeBytes
  let satisfied := fun freed : ℕ =>
    decide (need ≤ freed) && (!mustEvict || decide (projected - freed ≤ policy.coldMaxBytes))
  if verified.isEmpty then none
  else if !mustEvict && need = 0 then none
  else
    let first := chooseTier satisfied aged ([], 0)
    let chosen :=
      if satisfied first.2 then first
      else chooseTier satisfied verified first
    if chosen.1.isEmpty then none
    else
      some
        { files := chosen.1
          freedBytes := chosen.2
          reason := if mustEvict then .coldBudget else .reserveFloor }

namespace HotFiles

variable {π : Type} (files : HotFiles π)

/-- The head that `hot_usage` measures. -/
def usageHead : ℕ :=
  if files.batches.isEmpty then files.floor else files.lastName

/-- The batch that `hot_usage` finds behind `.head`. -/
def usageHeadLink : Option ℕ :=
  files.headLink.filter fun sequence => (files.batchAt sequence).any HotBatch.intact

def plannedBoundary (cutoff : Time) (head : ℕ) : Except RetentionError ℕ :=
  if files.floor < head then
    (files.hotBoundary cutoff).mapError (CacheError.codeOr .scanFailed)
  else .ok files.floor

end HotFiles

/-- The bound of the verified segments, the hot window and the archive. -/
def retirableThrough (policy : RetentionPolicy) (floor verified boundary : ℕ)
    (archived : Option ℕ) : ℕ :=
  if policy.archiveRequired then
    match archived with
    | none => floor
    | some last => min (min verified boundary) last
  else min verified boundary

/-- The batch behind the published head is kept, and nothing is retired under
a live collector. -/
def keepPublished (floor guarded retirable : ℕ) (writerActive : Bool) : ℕ :=
  if writerActive then floor
  else if guarded ≤ retirable then max floor (guarded - 1)
  else retirable

def archiveBlockers (policy : RetentionPolicy)
    (archive : Option (Option ArchiveReceipt)) : List String :=
  match policy.archiveRequired, archive with
  | false, _ => []
  | true, none => ["archive_state_missing"]
  | true, some receipt => if (archiveCoverage receipt).isNone then ["archive_not_verified"] else []

def planRetention {π : Type} (policy : RetentionPolicy) (around : Surroundings)
    (files : HotFiles π) (cold : ColdFiles π) :
    Except RetentionError RetentionPlan := do
  let status ← files.lastSequence.mapError (CacheError.codeOr .invalidCache)
  let floor := files.floor
  let head := max status files.usageHead
  let present := cold.presentSegments
  let coveredAny := coveredThrough (verifiedIntervals present true) floor head
  let boundary ← files.plannedBoundary (around.now - policy.hotKeep) head
  let start := max floor coveredAny
  let compact :=
    if coveredAny < head ∧ start < boundary then
      some { afterSequence := start, untilSequence := boundary }
    else none
  let archived := around.archive.bind archiveCoverage
  let blockers := archiveBlockers policy around.archive
  let verified := coveredThrough (verifiedIntervals present false) floor head
  let pruneThrough :=
    keepPublished floor (files.usageHeadLink.getD head)
      (retirableThrough policy floor verified boundary archived)
      around.writerActive
  pure
    { hotFloor := floor
      hotHead := head
      compactRange := compact
      archivedThrough := archived
      coldEviction := planColdEviction policy around.now around.freeBytes
        (compact.elim 0 fun range => (range.untilSequence - range.afterSequence) * 64)
        floor present
      pruneThrough := pruneThrough
      pruneHot := decide (floor < pruneThrough) && blockers.isEmpty
      writerActive := around.writerActive
      blockers := blockers }

variable {policy : RetentionPolicy}

variable {floor guarded last : ℕ} {writerActive : Bool}

theorem keepPublished_le (retires : floor < keepPublished floor guarded retirable writerActive) :
    keepPublished floor guarded retirable writerActive ≤ retirable := by
  unfold keepPublished at retires ⊢
  split at retires <;> rename_i active
  · exact absurd retires (lt_irrefl _)
  · rw [if_neg active]
    split at retires <;> rename_i guards
    · rw [if_pos guards]
      omega
    · rw [if_neg guards]

theorem pruneThrough_le
    (retires : floor <
      keepPublished floor guarded (retirableThrough policy floor verified boundary archived)
        writerActive) :
    let through :=
      keepPublished floor guarded (retirableThrough policy floor verified boundary archived)
        writerActive
    through ≤ verified ∧ through ≤ boundary ∧
      (policy.archiveRequired = true → ∃ last, archived = some last ∧ through ≤ last) := by
  intro through
  have bound := keepPublished_le retires
  have above := lt_of_lt_of_le retires bound
  change through ≤ _ at bound
  unfold retirableThrough at bound above
  by_cases required : policy.archiveRequired = true
  · rw [if_pos required] at bound above
    cases archived with
    | none => exact absurd above (lt_irrefl _)
    | some last =>
      dsimp only at bound
      exact ⟨by omega, by omega, fun _ => ⟨last, rfl, by omega⟩⟩
  · rw [if_neg required] at bound
    exact ⟨by omega, by omega, fun isRequired => absurd isRequired required⟩

theorem exists_of_archiveCoverage (covered : archive.bind archiveCoverage = some last) :
    ∃ receipt, archive = some (some receipt) ∧ receipt.Successful ∧
      receipt.lastSequence = last := by
  cases archive with
  | none => cases covered
  | some found =>
    cases found with
    | none => cases covered
    | some receipt =>
      simp only [Option.bind_some, archiveCoverage] at covered
      split at covered
      · rename_i successful
        cases covered
        exact ⟨receipt, rfl, successful, rfl⟩
      · cases covered

/-- What a plan says about the sequences it retires. -/
structure Retires {π : Type} (policy : RetentionPolicy) (around : Surroundings)
    (files : HotFiles π) (cold : ColdFiles π) (plan : RetentionPlan) :
    Prop where
  hotFloor : plan.hotFloor = files.floor
  prunes : plan.pruneHot = true → files.floor < plan.pruneThrough
  within : files.floor < plan.pruneThrough →
    ∃ status, files.lastSequence = .ok status ∧ plan.pruneThrough ≤ max status files.usageHead
  covered : ∀ sequence, files.floor < sequence → sequence ≤ plan.pruneThrough →
    ∃ entry ∈ cold.presentSegments, entry.verifiedAt.isSome = true ∧ entry.file.Covers sequence
  bounded : files.floor < plan.pruneThrough →
    ∃ boundary,
      files.hotBoundary (around.now - policy.hotKeep) = .ok boundary ∧ plan.pruneThrough ≤ boundary
  archived : policy.archiveRequired = true → files.floor < plan.pruneThrough →
    ∃ receipt, around.archive = some (some receipt) ∧
      receipt.Successful ∧ plan.pruneThrough ≤ receipt.lastSequence

theorem retires_of_planRetention (planned : planRetention policy around files cold = .ok plan) :
    Retires policy around files cold plan := by
  unfold planRetention at planned
  simp only [run_eq_ok, mapError_eq_ok] at planned
  obtain ⟨status, read, boundary, bounded, rfl⟩ := planned
  refine ⟨rfl, ?_, ?_, ?_, ?_, ?_⟩
  · intro prunes
    simp only [Bool.and_eq_true, decide_eq_true_eq] at prunes
    exact prunes.1
  · intro retires
    have verified := (pruneThrough_le retires).1
    have bound := verified.trans coveredThrough_le
    refine ⟨status, read, ?_⟩
    dsimp only at retires ⊢
    omega
  · intro _ above below
    have retires := pruneThrough_le (lt_of_lt_of_le above below)
    obtain ⟨_, mem, bounds⟩ := exists_of_le_coveredThrough above (below.trans retires.1)
    simp only [verifiedIntervals, mem_sortOn, List.mem_map, List.mem_filter, Bool.false_or] at mem
    obtain ⟨entry, ⟨listed, verified⟩, rfl⟩ := mem
    exact ⟨entry, listed, verified, bounds⟩
  · intro retires
    have within := (pruneThrough_le retires).2.1
    unfold HotFiles.plannedBoundary at bounded
    split at bounded
    · exact ⟨boundary, mapError_eq_ok.mp bounded, within⟩
    · cases bounded
      exact absurd (lt_of_lt_of_le retires within) (lt_irrefl _)
  · intro required retires
    obtain ⟨_, isArchived, within⟩ := (pruneThrough_le retires).2.2 required
    obtain ⟨receipt, found, successful, rfl⟩ := exists_of_archiveCoverage isArchived
    exact ⟨receipt, found, successful, within⟩

end RQuant.L2
