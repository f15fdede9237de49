import RQuant.L2.Plan
import RQuant.Foundation.Runs

/-!
# Retention passes

A pass is cut into its file operations, so that a crash can fall between any two
of them; the collector and the archive job step in between as far as the locks
allow.
-/

namespace RQuant.L2

open Foundation

/-- How `run_retention` is called. -/
structure Setup where
  policy : RetentionPolicy
  /-- Whether an archive state directory is given. -/
  archiveState : Bool

/-- What ends a pass early. -/
inductive PassError where
  | retention (error : RetentionError)
  | cold (error : ColdStoreError)
  deriving DecidableEq

/-- The stages of `run_retention`. -/
inductive Stage where
  | evictFirst
  | pruneFirst
  | compact
  | pruneSecond
  | evictLast
  | report
  deriving DecidableEq

inductive PassState (π : Type) where
  /-- No pass is running. -/
  | ended (failure : Option PassError)
  | ready (now : Time) (stage : Stage) (plan : RetentionPlan)
  /-- The manifest is shortened, the files go one by one. -/
  | unlinking (now : Time) (next : Stage) (remaining : List SegmentName)
  /-- The floor is published and the writer lock held. -/
  | pruning (now : Time) (second : Bool) (plan : RetentionPlan) (target : ℕ)
      (head : Option ℕ) (entries : List ℕ) (deleted : ℕ)
  /-- The removal of a directory has begun. -/
  | removing (now : Time) (second : Bool) (plan : RetentionPlan) (target : ℕ)
      (head : Option ℕ) (sequence : ℕ) (entries : List ℕ) (deleted : ℕ)
  /-- The cold store is locked for a compaction. -/
  | cleaning (now : Time) (next stop : ℕ)
  | writing (now : Time) (next stop : ℕ)
  /-- A segment file is published and not listed yet. -/
  | written (now : Time) (stop : ℕ) (file : SegmentFile π)

/-- `DEFAULT_BLOCK_RECORDS`, with which `run_retention` compacts. -/
def blockRecords : ℕ := 512

/-- What a step of a pass finds outside of the files. -/
structure Env (π : Type) where
  freeBytes : ℕ
  /-- A directory whose removal was cut off still has its `batch.json`. -/
  batchFileLeft : Bool
  /-- The batches that make a segment large enough for the writer to rotate. -/
  (rotateAfter digest storedBytes : ℕ)
  /-- What the stored form of a batch is read back as. -/
  readBack : π → π
  verifiedAt : Time

/-- The cache, the cold store, the archive, and who works on them. -/
structure System (π : Type) where
  hot : HotFiles π
  cold : ColdFiles π
  /-- `last-run.json`. -/
  receipt : Option ArchiveReceipt
  /-- `last_sequence` of the remote catalog. -/
  catalog : Option ℕ
  /-- The highwater mark of the collector that holds the writer lock. -/
  session : Option ℕ
  pass : PassState π
  committed : List ℕ
  /-- Every receipt written so far. -/
  receipts : List ArchiveReceipt
  /-- The latest clock a pass was started with. -/
  clock : Option Time

namespace System

variable {π : Type} (system : System π)

def pruningNow : Bool :=
  match system.pass with
  | .pruning .. => true
  | .removing .. => true
  | _ => false

/-- `writer`: the lock and the audit of the committed directories. -/
def openSession : System π :=
  if system.session.isSome || system.pruningNow then system
  else
    match system.hot.directories with
    | .error _ => system
    | .ok committed =>
      { system with
        session := some (system.hot.floor + committed.length) }

/-- `append`, up to the rename of the new directory. -/
def commitBatch (receivedAt : Time) (pageBytes : ℕ) (payload : π) : System π :=
  match system.session with
  | none => system
  | some highwater =>
    let batch : HotBatch π :=
      { sequence := highwater + 1, receivedAt, pageBytes, payload, intact := true }
    match system.hot.commit batch with
    | none => system
    | some hot =>
      { system with
        hot, session := some (highwater + 1), committed := system.committed ++ [highwater + 1] }

def publishHead : System π :=
  match system.session with
  | none => system
  | some highwater =>
    if (system.hot.batchAt highwater).isSome then
      { system with hot := { system.hot with headLink := some highwater } }
    else system

/-- The link to a retired head is dropped before a new one is made. -/
def dropHead : System π :=
  match system.session with
  | none => system
  | some _ => { system with hot := { system.hot with headLink := none } }

def writeStatus : System π :=
  match system.session with
  | none => system
  | some highwater => { system with hot := { system.hot with statusSequence := highwater } }

/-- `_source`: the cache still continues what the catalog holds. -/
def continues (last highwater : ℕ) : Bool :=
  decide (last ≤ highwater) && decide (system.hot.floor ≤ last) &&
    (decide (system.hot.floor < highwater) || decide (highwater = 0))

/-- `run_archive`.  The catalog is published before the receipt is written;
`observed` tells whether the catalog changes without new batches. -/
def archive (observed completes : Bool) : System π :=
  match system.catalog, system.hot.lastSequence with
  | some last, .ok highwater =>
    if system.continues last highwater then
      match (List.range' (last + 1) (highwater - last)).mapM fun sequence =>
          system.hot.requireBatch sequence .invalidBatch with
      | .error _ => system
      | .ok _ =>
        let receipt : ArchiveReceipt :=
          { status :=
              if highwater = last ∧ observed = false then .unchanged
              else .archived
            lastSequence := highwater }
        let published := { system with catalog := some highwater }
        if completes then
          { published with receipt := some receipt, receipts := system.receipts ++ [receipt] }
        else published
    else system
  | _, _ => system

def initializeArchive : System π :=
  match system.catalog, system.hot.lastSequence with
  | none, .ok _ =>
    if system.hot.floor = 0 then
      let receipt : ArchiveReceipt := ⟨.initialized, 0⟩
      { system with
        catalog := some 0, receipt := some receipt, receipts := system.receipts ++ [receipt] }
    else system
  | some last, .ok highwater =>
    if system.continues last highwater then
      let receipt : ArchiveReceipt := ⟨.alreadyInitialized, last⟩
      { system with receipt := some receipt, receipts := system.receipts ++ [receipt] }
    else system
  | _, .error _ => system

variable (setup : Setup)

def fail (error : PassError) : System π := { system with pass := .ended (some error) }

/-- `plan_retention` on the files as they are. -/
def plan (now : Time) (freeBytes : ℕ) : Except RetentionError RetentionPlan :=
  planRetention setup.policy
    { now
      freeBytes
      archive := if setup.archiveState then some system.receipt else none
      writerActive := system.session.isSome }
    system.hot system.cold

def refresh (now : Time) (freeBytes : ℕ) (stage : Stage) : System π :=
  match system.plan setup now freeBytes with
  | .error error => system.fail (.retention error)
  | .ok plan => { system with pass := .ready now stage plan }

/-- `_evict_cold_segments`, up to the shorter manifest. -/
def evict (now : Time) (next : Stage) (plan : RetentionPlan) : System π :=
  match plan.coldEviction with
  | none => { system with pass := .ready now next plan }
  | some eviction =>
    match system.cold.withoutSegments eviction.files with
    | none => system.fail (.retention .unknownSegment)
    | some cold => { system with cold, pass := .unlinking now next eviction.files }

section

variable (now : Time) (freeBytes : ℕ) (second : Bool) (plan : RetentionPlan)

def afterPrune (deleted : ℕ) : System π :=
  if second then system.refresh setup now freeBytes .evictLast
  else if plan.pruneHot ∨ 0 < deleted then
    system.refresh setup now freeBytes .compact
  else { system with pass := .ready now .compact plan }

/-- A busy collector or a linked head stops the second prune only. -/
def refusePrune (error : RetentionError) : System π :=
  if second then system.fail (.retention error)
  else system.afterPrune setup now freeBytes false plan 0

/-- `_prune_hot_prefix`, up to the new floor. -/
def beginPrune (through : ℕ) : System π :=
  if through < 1 then system.afterPrune setup now freeBytes second plan 0
  else if system.session.isSome then
    system.refusePrune setup now freeBytes second plan .writerActive
  else
    { system with
      hot := { system.hot with floor := max through system.hot.floor }
      pass := .pruning now second plan (max through system.hot.floor)
        system.hot.headLink (system.hot.batches.map HotBatch.sequence) 0 }

end

section

variable (env : Env π) (now : Time)

/-- One entry of `_prune_hot_prefix`. -/
def pruneEntry (second : Bool) (plan : RetentionPlan) (target : ℕ) (head : Option ℕ) (sequence : ℕ)
    (entries : List ℕ) (deleted : ℕ) : System π :=
  if target < sequence then
    { system with
      pass := .pruning now second plan target head entries deleted }
  else
    match system.hot.batchAt sequence with
    | none => system.fail (.retention .ioError)
    | some batch =>
      if head.isSome && !batch.intact && !env.batchFileLeft then
        system.fail (.retention .ioError)
      else if head = some sequence then
        system.refusePrune setup now env.freeBytes second plan .headLinked
      else
        { system with
          hot := system.hot.damage sequence
          pass := .removing now second plan target head sequence entries deleted }

/-- `compact_cache`, up to the removal of stale manifest entries. -/
def beginCompact (range : CompactRange) : System π :=
  match system.hot.lastSequence with
  | .error error => system.fail (.cold (.cache error))
  | .ok head =>
    let start := max range.afterSequence system.hot.floor
    let stop := min range.untilSequence head
    if stop < start then system.fail (.cold .invalidRange)
    else if stop = start then
      system.refresh setup now env.freeBytes .pruneSecond
    else
      let dropped := { system with cold := system.cold.dropMissingEntries }
      if dropped.cold.manifest.any fun entry =>
          entry.file.first ≤ stop && start + 1 ≤ entry.file.last then
        dropped.fail (.cold .sequenceOverlap)
      else { dropped with pass := .cleaning now start stop }

/-- `_cleanup_orphans`, the reserve and the audit of the directories. -/
def cleanCold (next stop : ℕ) : System π :=
  let cleaned := { system with cold := system.cold.cleanupOrphans }
  if env.freeBytes < setup.policy.reserveFreeBytes then
    cleaned.refresh setup now env.freeBytes .pruneSecond
  else
    match cleaned.hot.directories with
    | .error error => cleaned.fail (.cold (.cache error))
    | .ok _ => { cleaned with pass := .writing now next stop }

/-- A segment ends with the range or, once one block is full, by its size. -/
def writeNext (next stop : ℕ) : System π :=
  if stop ≤ next ∨ env.freeBytes < setup.policy.reserveFreeBytes then
    system.refresh setup now env.freeBytes .pruneSecond
  else
    let count := min (max blockRecords env.rotateAfter) (stop - next)
    match (List.range' (next + 1) count).mapM fun sequence =>
        system.hot.requireBatch sequence .invalidBatch with
    | .error error => system.fail (.cold (.cache error))
    | .ok batches =>
      let file : SegmentFile π :=
        { name := ⟨next + 1, next + count, env.digest⟩
          storedBytes := env.storedBytes
          payloads := batches.map fun batch => env.readBack batch.payload }
      match system.cold.writeSegment file with
      | .error error => system.fail (.cold error)
      | .ok cold => { system with cold, pass := .written now stop file }

end

def publishSegment [DecidableEq π] (env : Env π) (now : Time) (stop : ℕ)
    (file : SegmentFile π) : System π :=
  let verified :=
    if setup.policy.verifySegments then
      ColdFiles.verifySegment system.hot file
    else .ok ()
  match verified with
  | .error error => system.fail (.cold error)
  | .ok () =>
    let entry : SegmentEntry :=
      { file := file.name
        storedBytes := file.storedBytes
        createdAt := now
        verifiedAt := if setup.policy.verifySegments then some env.verifiedAt
          else none }
    match system.cold.appendManifest entry with
    | .error error => system.fail (.cold error)
    | .ok cold => { system with cold, pass := .writing now file.name.last stop }

/-- What a pass does before the operations of a stage begin. -/
def enter (env : Env π) (now : Time) (plan : RetentionPlan) : Stage → System π
  | .evictFirst => system.evict now .pruneFirst plan
  | .pruneFirst =>
    if !plan.writerActive && (plan.pruneHot || decide (0 < plan.hotFloor))
    then
      system.beginPrune setup now env.freeBytes false plan
        (if plan.pruneHot then plan.pruneThrough else plan.hotFloor)
    else { system with pass := .ready now .compact plan }
  | .compact =>
    match plan.compactRange with
    | none => { system with pass := .ready now .pruneSecond plan }
    | some range => system.beginCompact setup env now range
  | .pruneSecond =>
    if plan.pruneHot && decide (plan.hotFloor < plan.pruneThrough) then
      system.beginPrune setup now env.freeBytes true plan plan.pruneThrough
    else { system with pass := .ready now .evictLast plan }
  | .evictLast => system.evict now .report plan
  | .report => { system with pass := .ended none }

def advance [DecidableEq π] (env : Env π) : System π :=
  match system.pass with
  | .ended _ => system
  | .ready now stage plan => system.enter setup env now plan stage
  | .unlinking now next [] => system.refresh setup now env.freeBytes next
  | .unlinking now next (name :: rest) =>
    { system with cold := system.cold.unlink name, pass := .unlinking now next rest }
  | .pruning now second plan _ _ [] deleted =>
    system.afterPrune setup now env.freeBytes second plan deleted
  | .pruning now second plan target head (sequence :: entries) deleted =>
    system.pruneEntry setup env now second plan target head sequence entries deleted
  | .removing now second plan target head sequence entries deleted =>
    { system with
      hot := system.hot.remove sequence
      pass := .pruning now second plan target head entries (deleted + 1) }
  | .cleaning now next stop => system.cleanCold setup env now next stop
  | .writing now next stop => system.writeNext setup env now next stop
  | .written now stop file => system.publishSegment setup env now stop file

/-- `run_retention` starts with a plan. -/
def beginPass (now : Time) (freeBytes : ℕ) : System π :=
  match system.pass with
  | .ended _ =>
    { system with clock := some (system.clock.elim now (max now)) }.refresh
      setup now freeBytes .evictFirst
  | _ => system

end System

/-- Everything that happens to the cache. -/
inductive Event (π : Type) where
  | openSession
  | commitBatch (receivedAt : Time) (pageBytes : ℕ) (payload : π)
  | publishHead
  | dropHead
  | writeStatus
  /-- The collector stops or crashes. -/
  | closeSession
  | archive (observed completes : Bool)
  | initializeArchive
  | beginPass (now : Time) (freeBytes : ℕ)
  | advance (env : Env π)
  /-- The retention pass crashes. -/
  | crash

namespace System

variable {π : Type} [DecidableEq π]

def apply (setup : Setup) (system : System π) : Event π → System π
  | .openSession => system.openSession
  | .commitBatch receivedAt pageBytes payload => system.commitBatch receivedAt pageBytes payload
  | .publishHead => system.publishHead
  | .dropHead => system.dropHead
  | .writeStatus => system.writeStatus
  | .closeSession => { system with session := none }
  | .archive observed completes => system.archive observed completes
  | .initializeArchive => system.initializeArchive
  | .beginPass now freeBytes => system.beginPass setup now freeBytes
  | .advance env => system.advance setup env
  | .crash => { system with pass := .ended none }

def initial : System π where
  hot :=
    { floor := 0, batches := [], headLink := none, statusSequence := 0, unique := List.nodup_nil }
  cold := { manifest := [], segments := [] }
  receipt := none
  catalog := none
  session := none
  pass := .ended none
  committed := []
  receipts := []
  clock := none

/-- The states that events of the allowed kind lead to. -/
def Run (setup : Setup) (allowed : System π → Event π → Prop) (system : System π) : Prop :=
  Reaches (fun source event target => source.apply setup event = target) allowed initial system

end System

end RQuant.L2
