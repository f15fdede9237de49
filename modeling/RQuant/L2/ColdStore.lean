import RQuant.L2.Cache

/-!
# The cold store

Segments of consecutive batches, the manifest that lists them, and what a
compaction and an eviction do to both.  A segment file is named after its range
and its content, and the payloads in it are the texts its batches decode to.
-/

namespace RQuant.L2

open Foundation

inductive ColdStoreError where
  | cache (error : CacheError)
  | invalidRange
  | sequenceOverlap
  | diskBudget
  | segmentExists
  | invalidBatch
  | payloadMismatch
  deriving DecidableEq

/-- `segments/l2cold-<first>-<last>-<digest>.l2c`. -/
structure SegmentName where
  (first last digest : ℕ)
  deriving DecidableEq

namespace SegmentName

def Covers (name : SegmentName) (sequence : ℕ) : Prop :=
  name.first ≤ sequence ∧ sequence ≤ name.last
deriving Decidable

def Overlaps (left right : SegmentName) : Prop := left.first ≤ right.last ∧ right.first ≤ left.last
deriving Decidable

end SegmentName

/-- A line of the manifest. -/
structure SegmentEntry where
  file : SegmentName
  storedBytes : ℕ
  createdAt : Time
  verifiedAt : Option Time
  deriving DecidableEq

structure SegmentFile (π : Type) where
  name : SegmentName
  storedBytes : ℕ
  payloads : List π

def SegmentFile.payloadAt {π : Type} (file : SegmentFile π) (sequence : ℕ) : Option π :=
  if file.name.first ≤ sequence then
    file.payloads[sequence - file.name.first]?
  else none

structure ColdFiles (π : Type) where
  manifest : List SegmentEntry
  segments : List (SegmentFile π)

namespace ColdFiles

variable {π : Type} (cold : ColdFiles π)

def segment? (name : SegmentName) : Option (SegmentFile π) :=
  findKey SegmentFile.name name cold.segments

def presentSegments : List SegmentEntry :=
  cold.manifest.filter fun entry =>
    (cold.segment? entry.file).any fun file => file.storedBytes = entry.storedBytes

def dropMissingEntries : ColdFiles π :=
  { cold with
    manifest := cold.manifest.filter fun entry => (cold.segment? entry.file).isSome }

def cleanupOrphans : ColdFiles π :=
  { cold with
    segments :=
      cold.segments.filter fun file => cold.manifest.any fun entry => entry.file = file.name }

/-- What `_SegmentWriter.close` leaves behind. -/
def writeSegment (file : SegmentFile π) : Except ColdStoreError (ColdFiles π) := do
  require ((cold.segment? file.name).isNone = true) .segmentExists
  pure { cold with segments := cold.segments ++ [file] }

def appendManifest (entry : SegmentEntry) : Except ColdStoreError (ColdFiles π) := do
  cold.manifest.forM fun existing => do
    require (existing.file ≠ entry.file) .segmentExists
    require (¬ existing.file.Overlaps entry.file) .sequenceOverlap
  pure
    { cold with
      manifest := sortOn (fun item => item.file.first) (cold.manifest ++ [entry]) }

/-- `verify_segment` against the hot cache: every payload is read back. -/
def verifySegment (hot : HotFiles π) [DecidableEq π]
    (file : SegmentFile π) : Except ColdStoreError Unit :=
  (file.payloads.zipIdx file.name.first).forM fun (payload, sequence) =>
    match hot.batchAt sequence with
    | none => .error .invalidBatch
    | some batch => do
      require (batch.intact = true) .invalidBatch
      require (payload = batch.payload) .payloadMismatch

/-- The shorter manifest of `_evict_cold_segments_locked`; `none` for a
segment that is not listed. -/
def withoutSegments (files : List SegmentName) : Option (ColdFiles π) :=
  if ∀ name ∈ files, name ∈ cold.manifest.map SegmentEntry.file then
    some
      { cold with
        manifest := cold.manifest.filter fun entry => entry.file ∉ files }
  else none

/-- One `unlink` of `_evict_cold_segments_locked`. -/
def unlink (name : SegmentName) : ColdFiles π :=
  { cold with
    segments := cold.segments.filter fun file => file.name ≠ name }

def Holds (sequence : ℕ) (payload : π) : Prop :=
  ∃ entry ∈ cold.manifest, entry.verifiedAt.isSome = true ∧
    entry.file.Covers sequence ∧
      ∃ file ∈ cold.segments, file.name = entry.file ∧ file.payloadAt sequence = some payload

end ColdFiles

def verifiedIntervals (segments : List SegmentEntry) (includeUnverified : Bool) : List (ℕ × ℕ) :=
  sortOn toLex
    ((segments.filter fun entry => includeUnverified || entry.verifiedAt.isSome).map fun entry =>
      (entry.file.first, entry.file.last))

/-- `_covered_through`, from the cursor on. -/
def coveredThrough : List (ℕ × ℕ) → ℕ → ℕ → ℕ
  | [], cursor, _ => cursor
  | (first, last) :: rest, cursor, through =>
    if cursor + 1 < first then cursor
    else
      let moved := if cursor < last then min last through else cursor
      if through ≤ moved then moved else coveredThrough rest moved through

variable {intervals : List (ℕ × ℕ)} {cursor through sequence : ℕ}

theorem coveredThrough_le : coveredThrough intervals cursor through ≤ max cursor through := by
  induction intervals generalizing cursor with
  | nil => exact le_max_left _ _
  | cons interval rest ih =>
    obtain ⟨_, last⟩ := interval
    unfold coveredThrough
    split
    · exact le_max_left _ _
    · have moved : (if cursor < last then min last through else cursor) ≤ max cursor through := by
        split <;> omega
      dsimp only
      generalize (if cursor < last then min last through else cursor) = next at moved ⊢
      split
      · exact moved
      · exact ih.trans (max_le moved (le_max_right _ _))

/-- Whatever lies between the floor and the covered sequence is in one of the
intervals. -/
theorem exists_of_le_coveredThrough (above : cursor < sequence)
    (covered : sequence ≤ coveredThrough intervals cursor through) :
    ∃ interval ∈ intervals, interval.1 ≤ sequence ∧ sequence ≤ interval.2 := by
  induction intervals generalizing cursor with
  | nil => exact absurd covered (not_le.mpr above)
  | cons interval rest ih =>
    obtain ⟨first, last⟩ := interval
    unfold coveredThrough at covered
    split at covered
    · exact absurd covered (not_le.mpr above)
    · rename_i adjacent
      have within : ∀ place, cursor < place →
          place ≤ (if cursor < last then min last through else cursor) →
            first ≤ place ∧ place ≤ last := by
        intro place _
        split <;> omega
      dsimp only at covered
      generalize (if cursor < last then min last through else cursor) = next at within covered
      -- Either the interval at hand moved the cursor past the sequence, or a
      -- later one does.
      by_cases reached : sequence ≤ next
      · exact ⟨_, List.mem_cons_self, within sequence above reached⟩
      · split at covered
        · exact absurd covered reached
        · obtain ⟨found, mem, bounds⟩ := ih (not_le.mp reached) covered
          exact ⟨found, List.mem_cons_of_mem _ mem, bounds⟩

end RQuant.L2
