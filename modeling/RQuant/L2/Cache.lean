import RQuant.Foundation.Table
import RQuant.Runtime

/-!
# The hot cache

The files of the raw batch cache: one directory per batch, the marker of the
retired prefix, the published head and the status snapshot.  A directory whose
removal was cut off is still there but no longer intact.
-/

namespace RQuant.L2

open Foundation List

/-- What a read of the cache raises. -/
inductive CacheError where
  | invalidCache
  | sequenceGap
  | invalidBatch
  | value (text : String)
  | index
  deriving DecidableEq

def maxBatchPage : ℕ := 128

def maxBatchPageBytes : ℕ := 24 * 1024 * 1024

/-- A batch directory.  `pageBytes` is what the batch takes of a page: the
larger of its file and of its canonical text. -/
structure HotBatch (π : Type) where
  sequence : ℕ
  receivedAt : Time
  pageBytes : ℕ
  payload : π
  intact : Bool
  deriving DecidableEq

/-- The cache directory. -/
structure HotFiles (π : Type) where
  floor : ℕ
  batches : List (HotBatch π)
  /-- The batch that `.head` is a link to. -/
  headLink : Option ℕ
  /-- `last_sequence` of the stored status. -/
  statusSequence : ℕ
  /-- Directory names are unique. -/
  unique : (batches.map HotBatch.sequence).Nodup

variable {used : ℕ}

namespace HotFiles

variable {π : Type} (files : HotFiles π)

def batchAt (sequence : ℕ) : Option (HotBatch π) := findKey HotBatch.sequence sequence files.batches

def requireBatch (sequence : ℕ) (missing : CacheError) : Except CacheError (HotBatch π) := do
  let batch ← orRaise missing (files.batchAt sequence)
  require (batch.intact = true) .invalidBatch
  pure batch

/-- `_published_head`: a link to a directory that is not there counts as no
link. -/
def publishedHead (minimum : ℕ) : Except CacheError (Option ℕ) :=
  match files.headLink with
  | none => .ok none
  | some count =>
    if (files.batchAt count).any HotBatch.intact then do
      require (minimum ≤ count) .sequenceGap
      pure (some count)
    else .ok none

def lastName : ℕ := (files.batches.map HotBatch.sequence).foldl max 0

/-- `_directories`: the committed batches above the floor, without a gap. -/
def directories : Except CacheError (List (HotBatch π)) := do
  let head ← files.publishedHead 0
  let upper := max (max files.statusSequence (head.getD 0)) files.lastName
  require (files.floor ≤ upper) .invalidCache
  (range' (files.floor + 1) (upper - files.floor)).mapM fun expected =>
    files.requireBatch expected .sequenceGap

/-- `_snapshot`, of which `read_status` reports the last sequence. -/
def lastSequence : Except CacheError ℕ := do
  let head ← files.publishedHead files.statusSequence
  match head with
  | some count => do
    require (files.floor ≤ count) .invalidCache
    pure count
  | none => do
    let committed ← files.directories
    pure (files.floor + committed.length)

/-- The batches of a page, as far as its budget of bytes goes. -/
def readPage : ℕ → ℕ → ℕ → Except CacheError (List (HotBatch π))
  | 0, _, _ => .ok []
  | remaining + 1, sequence, used => do
    let batch ← files.requireBatch sequence .invalidBatch
    if maxBatchPageBytes < used + batch.pageBytes then pure []
    else do
      let rest ← readPage remaining (sequence + 1) (used + batch.pageBytes)
      pure (batch :: rest)

def readBatches (afterSequence limit : ℕ) : Except CacheError (List (HotBatch π)) := do
  require (1 ≤ limit ∧ limit ≤ maxBatchPage) (.value "invalid local batch cursor")
  let start := max afterSequence files.floor
  let count ← files.lastSequence
  require (start ≤ count) (.value "invalid local batch cursor")
  files.readPage (min count (start + limit) - start) (start + 1) 0

variable {batch : HotBatch π} {sequence : ℕ}

theorem unique_commit (fresh : batch.sequence ∉ files.batches.map HotBatch.sequence) :
    ((files.batches ++ [batch]).map HotBatch.sequence).Nodup :=
  nodup_concat files.unique fresh

theorem unique_damage (sequence : ℕ) : ((updateKey HotBatch.sequence sequence
    (fun batch => { batch with intact := false }) files.batches).map
      HotBatch.sequence).Nodup := by
  have names : (updateKey HotBatch.sequence sequence
      (fun batch => { batch with intact := false }) files.batches).map
        HotBatch.sequence = files.batches.map HotBatch.sequence :=
    map_updateKey fun _ _ _ => rfl
  rw [names]
  exact files.unique

theorem unique_remove (sequence : ℕ) :
    ((files.batches.filter fun batch => batch.sequence ≠ sequence).map HotBatch.sequence).Nodup :=
  files.unique.sublist (filter_sublist.map _)

/-- A batch directory is put in place by one rename, which fails over an
existing directory. -/
def commit (batch : HotBatch π) : Option (HotFiles π) :=
  if fresh : batch.sequence ∉ files.batches.map HotBatch.sequence then
    some { files with batches := files.batches ++ [batch], unique := files.unique_commit fresh }
  else none

def damage (sequence : ℕ) : HotFiles π :=
  { files with
    batches := updateKey HotBatch.sequence sequence
      (fun batch => { batch with intact := false }) files.batches
    unique := files.unique_damage sequence }

def remove (sequence : ℕ) : HotFiles π :=
  { files with
    batches := files.batches.filter fun batch => batch.sequence ≠ sequence
    unique := files.unique_remove sequence }

variable {files}

theorem batchAt_of_mem (mem : batch ∈ files.batches) : files.batchAt batch.sequence = some batch :=
  findKey_of_mem files.unique mem

theorem mem_readPage (read : files.readPage remaining sequence used = .ok page) :
    page.map HotBatch.sequence = range' sequence page.length ∧
      ∀ batch ∈ page, batch ∈ files.batches := by
  induction remaining generalizing sequence used page with
  | zero =>
    cases read
    simp
  | succ remaining ih =>
    unfold readPage at read
    simp only [bind_eq_ok] at read
    obtain ⟨batch, required, read⟩ := read
    unfold requireBatch at required
    simp only [run_eq_ok, orRaise_eq_ok] at required
    obtain ⟨_, found, -, rfl⟩ := required
    obtain ⟨mem, named⟩ := mem_of_findKey found
    split at read
    · cases read
      simp
    · simp only [run_eq_ok] at read
      obtain ⟨_, restRead, rfl⟩ := read
      obtain ⟨names, members⟩ := ih restRead
      refine ⟨?_, ?_⟩
      · rw [map_cons, names, named, length_cons, range'_succ]
      · intro other otherMem
        rcases mem_cons.mp otherMem with rfl | later
        · exact mem
        · exact members other later

end HotFiles

end RQuant.L2
