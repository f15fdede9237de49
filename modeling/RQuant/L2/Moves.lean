import RQuant.L2.Pass

/-!
# What the operations of a pass do

An operation of a retention pass changes little: it only moves the pass on, or
it shortens the manifest, removes a segment file, publishes a floor, damages or
removes one directory, or adds to the cold store.
-/

namespace RQuant.L2

open Foundation

namespace PassState

variable {π : Type}

def plan? : PassState π → Option RetentionPlan
  | .ready _ _ plan => some plan
  | .pruning _ _ plan .. => some plan
  | .removing _ _ plan .. => some plan
  | _ => none

def clock? : PassState π → Option Time
  | .ended _ => none
  | .ready now .. => some now
  | .unlinking now .. => some now
  | .pruning now .. => some now
  | .removing now .. => some now
  | .cleaning now .. => some now
  | .writing now .. => some now
  | .written now .. => some now

/-- The bound up to which a pass deletes directories. -/
def target? : PassState π → Option ℕ
  | .pruning _ _ _ target .. => some target
  | .removing _ _ _ target .. => some target
  | _ => none

def removed? : PassState π → Option ℕ
  | .removing _ _ _ _ _ sequence .. => some sequence
  | _ => none

def unlinked : PassState π → List SegmentName
  | .unlinking _ _ remaining => remaining
  | _ => []

def stop? : PassState π → Option ℕ
  | .cleaning _ _ stop => some stop
  | .writing _ _ stop => some stop
  | .written _ stop _ => some stop
  | _ => none

def file? : PassState π → Option (SegmentFile π)
  | .written _ _ file => some file
  | _ => none

end PassState

variable {π : Type}

/-- Where a pass goes after an operation that needs a new plan. -/
inductive Replanned (setup : Setup) (system : System π) (now : Time) : PassState π → Prop
  | ended (failure : Option PassError) : Replanned setup system now (.ended failure)
  | ready {freeBytes : ℕ} {stage : Stage} {plan : RetentionPlan}
      (planned : system.plan setup now freeBytes = .ok plan) :
      Replanned setup system now (.ready now stage plan)

inductive PassMove (setup : Setup) (system : System π) : System π → Prop
  | idle : PassMove setup system system
  | replanned {now : Time} {pass : PassState π} (running : system.pass.clock? = some now)
      (next : Replanned setup system now pass) :
      PassMove setup system { system with pass }
  | kept {now : Time} {plan : RetentionPlan} (stage : Stage)
      (running : system.pass.clock? = some now)
      (known : system.pass.plan? = some plan) :
      PassMove setup system { system with pass := .ready now stage plan }
  | evicted {now : Time} {stage next : Stage} {plan : RetentionPlan}
      {eviction : ColdEviction} {cold : ColdFiles π}
      (entered : system.pass = .ready now stage plan)
      (evicts : stage = .evictFirst ∨ stage = .evictLast)
      (chosen : plan.coldEviction = some eviction)
      (shorter : system.cold.withoutSegments eviction.files = some cold) :
      PassMove setup system { system with cold, pass := .unlinking now next eviction.files }
  | unlinked {now : Time} {next : Stage} {name : SegmentName} {rest : List SegmentName}
      (reached : system.pass = .unlinking now next (name :: rest)) :
      PassMove setup system
        { system with cold := system.cold.unlink name, pass := .unlinking now next rest }
  | retired {now : Time} {stage : Stage} {plan : RetentionPlan} {through : ℕ} (second : Bool)
      (entered : system.pass = .ready now stage plan)
      (free : system.session = none)
      (bound : through = plan.hotFloor ∨ (plan.pruneHot = true ∧ through = plan.pruneThrough)) :
      PassMove setup system
        { system with
          hot := { system.hot with floor := max through system.hot.floor }
          pass := .pruning now second plan (max through system.hot.floor)
            system.hot.headLink (system.hot.batches.map HotBatch.sequence)
            0 }
  | skipped {now : Time} {second : Bool} {plan : RetentionPlan}
      {target : ℕ} {head : Option ℕ} {sequence : ℕ} {entries : List ℕ}
      {deleted : ℕ}
      (reached : system.pass = .pruning now second plan target head (sequence :: entries) deleted) :
      PassMove setup system
        { system with
          pass := .pruning now second plan target head entries deleted }
  | damaged {now : Time} {second : Bool} {plan : RetentionPlan}
      {target : ℕ} {head : Option ℕ} {sequence : ℕ} {entries : List ℕ}
      {deleted : ℕ}
      (reached : system.pass = .pruning now second plan target head (sequence :: entries) deleted)
      (within : sequence ≤ target) :
      PassMove setup system
        { system with
          hot := system.hot.damage sequence
          pass := .removing now second plan target head sequence entries deleted }
  | removed {now : Time} {second : Bool} {plan : RetentionPlan}
      {target : ℕ} {head : Option ℕ} {sequence : ℕ} {entries : List ℕ}
      {deleted : ℕ}
      (reached : system.pass = .removing now second plan target head sequence entries deleted) :
      PassMove setup system
        { system with
          hot := system.hot.remove sequence
          pass := .pruning now second plan target head entries (deleted + 1) }
  | locked {now : Time} {stage : Stage} {plan : RetentionPlan}
      {head stop : ℕ} {pass : PassState π} (start : ℕ)
      (entered : system.pass = .ready now stage plan)
      (read : system.hot.lastSequence = .ok head) (within : stop ≤ head)
      (next : (∃ failure, pass = .ended failure) ∨ pass = .cleaning now start stop) :
      PassMove setup system { system with cold := system.cold.dropMissingEntries, pass }
  | cleaned {now : Time} {start stop : ℕ} {pass : PassState π}
      (reached : system.pass = .cleaning now start stop)
      (next : Replanned setup { system with cold := system.cold.cleanupOrphans } now pass ∨
        pass = .writing now start stop) :
      PassMove setup system { system with cold := system.cold.cleanupOrphans, pass }
  | written {now : Time} {start stop : ℕ} {file : SegmentFile π} {cold : ColdFiles π}
      (reached : system.pass = .writing now start stop)
      (first : file.name.first = start + 1)
      (last : file.name.last = start + file.payloads.length)
      (within : file.name.last ≤ stop)
      (wrote : system.cold.writeSegment file = .ok cold) :
      PassMove setup system { system with cold, pass := .written now stop file }
  | published {now : Time} {stop : ℕ} {file : SegmentFile π}
      {entry : SegmentEntry} {cold : ColdFiles π} [DecidableEq π]
      (reached : system.pass = .written now stop file)
      (named : entry.file = file.name)
      (verified : entry.verifiedAt.isSome = true → ColdFiles.verifySegment system.hot file = .ok ())
      (appended : system.cold.appendManifest entry = .ok cold) :
      PassMove setup system { system with cold, pass := .writing now file.name.last stop }

variable {start : ℕ}

namespace System

variable {setup : Setup} {system : System π}

/-- A refreshed plan changes nothing but the state of the pass. -/
theorem exists_refresh
    (setup : Setup) (system : System π) (now : Time) (freeBytes : ℕ) (stage : Stage) :
    ∃ pass, Replanned setup system now pass ∧
      system.refresh setup now freeBytes stage = { system with pass } := by
  unfold refresh
  cases planned : system.plan setup now freeBytes with
  | error error => exact ⟨_, .ended _, rfl⟩
  | ok plan => exact ⟨_, .ready planned, rfl⟩

variable {now : Time} {freeBytes deleted stop : ℕ} {stage : Stage} {plan : RetentionPlan}
  {second : Bool} {env : Env π}

section

variable (running : system.pass.clock? = some now)

include running

/-- Planning again is a move. -/
theorem refresh_move : PassMove setup system (system.refresh setup now freeBytes stage) := by
  obtain ⟨pass, next, refreshed⟩ := exists_refresh setup system now freeBytes stage
  rw [refreshed]
  exact .replanned running next

/-- A pass that fails ends and leaves the files as they are. -/
theorem fail_move : PassMove setup system (system.fail error) :=
  .replanned running (.ended _)

omit running in
/-- The step that drops segments from the manifest is a move. -/
theorem evict_move (entered : system.pass = .ready now stage plan)
    (evicts : stage = .evictFirst ∨ stage = .evictLast) :
    PassMove setup system (system.evict now next plan) := by
  have running : system.pass.clock? = some now := by rw [entered]; rfl
  have known : system.pass.plan? = some plan := by rw [entered]; rfl
  unfold evict
  cases chosen : plan.coldEviction with
  | none => exact .kept next running known
  | some eviction =>
    cases shorter : system.cold.withoutSegments eviction.files with
    | none =>
      simp only [shorter]
      exact fail_move running
    | some cold =>
      simp only [shorter]
      exact .evicted entered evicts chosen shorter

/-- After the last directory the pass goes on to its next stage or plans again.
-/
theorem afterPrune_move (known : system.pass.plan? = some plan) :
    PassMove setup system (system.afterPrune setup now freeBytes second plan deleted) := by
  unfold afterPrune
  split
  · exact refresh_move running
  · split
    · exact refresh_move running
    · exact .kept .compact running known

/-- A pruning that is refused ends the pass the second time, and is passed over
the first time. -/
theorem refusePrune_move (known : system.pass.plan? = some plan) :
    PassMove setup system (system.refusePrune setup now freeBytes second plan error) := by
  unfold refusePrune
  split
  · exact fail_move running
  · exact afterPrune_move running known

end

/-- The floor rises to the bound of the plan, and only without a collector at
work. -/
theorem beginPrune_move (entered : system.pass = .ready now stage plan)
    (bound : through = plan.hotFloor ∨ (plan.pruneHot = true ∧ through = plan.pruneThrough)) :
    PassMove setup system (system.beginPrune setup now freeBytes second plan through) := by
  have running : system.pass.clock? = some now := by rw [entered]; rfl
  have known : system.pass.plan? = some plan := by rw [entered]; rfl
  unfold beginPrune
  split
  · exact afterPrune_move running known
  · by_cases busy : system.session.isSome = true
    · rw [if_pos busy]
      exact refusePrune_move running known
    · rw [if_neg busy]
      exact .retired second entered (Option.not_isSome_iff_eq_none.mp busy) bound

/-- One directory is looked at: it is skipped, or its deletion begins. -/
theorem pruneEntry_move {target : ℕ} {head : Option ℕ} {sequence : ℕ} {entries : List ℕ}
    (reached : system.pass = .pruning now second plan target head (sequence :: entries) deleted) :
    PassMove setup system
      (system.pruneEntry setup env now second plan target head sequence entries deleted) := by
  have running : system.pass.clock? = some now := by rw [reached]; rfl
  have known : system.pass.plan? = some plan := by rw [reached]; rfl
  unfold pruneEntry
  by_cases beyond : target < sequence
  · rw [if_pos beyond]
    exact .skipped reached
  · rw [if_neg beyond]
    cases system.hot.batchAt sequence with
    | none => exact fail_move running
    | some batch =>
      dsimp only
      split
      · exact fail_move running
      · split
        · exact refusePrune_move running known
        · exact .damaged reached (not_lt.mp beyond)

/-- A compaction begins by dropping manifest entries without a file, and stops at
the head. -/
theorem beginCompact_move (entered : system.pass = .ready now stage plan) :
    PassMove setup system (system.beginCompact setup env now range) := by
  have running : system.pass.clock? = some now := by rw [entered]; rfl
  unfold beginCompact
  cases read : system.hot.lastSequence with
  | error error => exact fail_move running
  | ok head =>
    dsimp only
    split
    · exact fail_move running
    · split
      · exact refresh_move running
      · split
        · exact .locked 0 entered read (min_le_right range.untilSequence head) (.inl ⟨_, rfl⟩)
        · exact .locked _ entered read (min_le_right range.untilSequence head) (.inr rfl)

/-- Orphaned files are dropped before the first segment is written. -/
theorem cleanCold_move (reached : system.pass = .cleaning now start stop) :
    PassMove setup system (system.cleanCold setup env now start stop) := by
  unfold cleanCold
  dsimp only
  split
  · obtain ⟨pass, next, refreshed⟩ :=
      exists_refresh setup { system with cold := system.cold.cleanupOrphans }
        now env.freeBytes .pruneSecond
    rw [refreshed]
    exact .cleaned reached (.inl next)
  · cases system.hot.directories with
    | error error => exact .cleaned reached (.inl (.ended _))
    | ok directories => exact .cleaned reached (.inr rfl)

/-- The next segment is written from directories that can be read. -/
theorem writeNext_move (reached : system.pass = .writing now start stop) :
    PassMove setup system (system.writeNext setup env now start stop) := by
  have running : system.pass.clock? = some now := by rw [reached]; rfl
  unfold writeNext
  by_cases done : stop ≤ start ∨ env.freeBytes < setup.policy.reserveFreeBytes
  · rw [if_pos done]
    exact refresh_move running
  · rw [if_neg done]
    dsimp only
    split
    · exact fail_move running
    · rename_i batches read
      -- As many batches were read as the name of the segment says.
      have counted : batches.length = min (max blockRecords env.rotateAfter) (stop - start) := by
        have steps := congrArg List.length (map_of_mapM_eq_ok read)
        simpa using steps.symm
      have block : 1 ≤ blockRecords := by decide
      split
      · exact fail_move running
      · rename_i cold wrote
        refine .written reached rfl ?_ ?_ wrote
        · simp [counted]
        · dsimp only
          omega

/-- A segment enters the manifest as verified only if it was. -/
theorem publishSegment_move [DecidableEq π] (reached : system.pass = .written now stop file) :
    PassMove setup system (system.publishSegment setup env now stop file) := by
  have running : system.pass.clock? = some now := by rw [reached]; rfl
  unfold publishSegment
  dsimp only
  split
  · exact fail_move running
  · rename_i checked
    split
    · exact fail_move running
    · rename_i cold appended
      refine .published reached rfl ?_ appended
      intro isVerified
      by_cases verifies : setup.policy.verifySegments = true
      · rwa [if_pos verifies] at checked
      · simp [verifies] at isVerified

/-- Every step of a pass is one of the moves; the cases are its states. -/
theorem advance_move [DecidableEq π] (env : Env π) :
    PassMove setup system (system.advance setup env) := by
  unfold advance
  cases reached : system.pass with
  | ended failure => exact .idle
  | ready now stage plan =>
    have running : system.pass.clock? = some now := by rw [reached]; rfl
    have known : system.pass.plan? = some plan := by rw [reached]; rfl
    cases stage with
    | evictFirst => exact evict_move reached (.inl rfl)
    | pruneFirst =>
      dsimp only [enter]
      split
      · apply beginPrune_move reached
        split
        · rename_i prunes
          exact .inr ⟨prunes, rfl⟩
        · exact .inl rfl
      · exact .kept .compact running known
    | compact =>
      dsimp only [enter]
      split
      · exact .kept .pruneSecond running known
      · exact beginCompact_move reached
    | pruneSecond =>
      dsimp only [enter]
      split
      · rename_i prunes
        simp only [Bool.and_eq_true] at prunes
        exact beginPrune_move reached (.inr ⟨prunes.1, rfl⟩)
      · exact .kept .evictLast running known
    | evictLast => exact evict_move reached (.inr rfl)
    | report => exact .replanned running (.ended _)
  | unlinking now next remaining =>
    cases remaining with
    | nil => exact refresh_move (by rw [reached]; rfl)
    | cons name rest => exact .unlinked reached
  | pruning now second plan target head entries deleted =>
    cases entries with
    | nil => exact afterPrune_move (by rw [reached]; rfl) (by rw [reached]; rfl)
    | cons sequence rest => exact pruneEntry_move reached
  | removing now second plan target head sequence entries deleted => exact .removed reached
  | cleaning now start stop => exact cleanCold_move reached
  | writing now start stop => exact writeNext_move reached
  | written now stop file => exact publishSegment_move reached

/-! ## What the others leave alone -/

/-- What a step of the collector or of the archive job does not touch. -/
structure Unchanged (before after : System π) : Prop where
  batches : after.hot.batches = before.hot.batches
  floor : after.hot.floor = before.hot.floor
  cold : after.cold = before.cold
  committed : after.committed = before.committed
  pass : after.pass = before.pass
  clock : after.clock = before.clock

theorem Unchanged.refl (system : System π) : system.Unchanged system :=
  ⟨rfl, rfl, rfl, rfl, rfl, rfl⟩

/-- A collector that opens changes neither batches nor pass. -/
theorem openSession_unchanged : system.Unchanged system.openSession := by
  unfold openSession
  split
  · exact .refl system
  · split <;> exact ⟨rfl, rfl, rfl, rfl, rfl, rfl⟩

/-- Publishing the head changes neither batches nor pass. -/
theorem publishHead_unchanged : system.Unchanged system.publishHead := by
  unfold publishHead
  split
  · exact .refl system
  · split <;> exact ⟨rfl, rfl, rfl, rfl, rfl, rfl⟩

theorem dropHead_unchanged : system.Unchanged system.dropHead := by
  unfold dropHead
  split <;> exact ⟨rfl, rfl, rfl, rfl, rfl, rfl⟩

theorem writeStatus_unchanged : system.Unchanged system.writeStatus := by
  unfold writeStatus
  split <;> exact ⟨rfl, rfl, rfl, rfl, rfl, rfl⟩

/-- An archive run touches receipts and catalog only. -/
theorem archive_unchanged (observed completes : Bool) :
    system.Unchanged (system.archive observed completes) := by
  unfold archive
  split
  · split
    · split
      · exact .refl system
      · dsimp only
        split <;> exact ⟨rfl, rfl, rfl, rfl, rfl, rfl⟩
    · exact .refl system
  · exact .refl system

theorem initializeArchive_unchanged : system.Unchanged system.initializeArchive := by
  unfold initializeArchive
  split
  · split <;> exact ⟨rfl, rfl, rfl, rfl, rfl, rfl⟩
  · split <;> exact ⟨rfl, rfl, rfl, rfl, rfl, rfl⟩
  · exact .refl system

/-- A commit appends the next sequence, or nothing happens without a session. -/
theorem commitBatch_cases (receivedAt : Time) (pageBytes : ℕ) (payload : π) :
    system.commitBatch receivedAt pageBytes payload = system ∨
      ∃ highwater hot, system.session = some highwater ∧ hot.floor = system.hot.floor ∧
        hot.headLink = system.hot.headLink ∧
        hot.statusSequence = system.hot.statusSequence ∧
        hot.batches =
          system.hot.batches ++ [⟨highwater + 1, receivedAt, pageBytes, payload, true⟩] ∧
        system.commitBatch receivedAt pageBytes payload =
          { system with
            hot, session := some (highwater + 1),
            committed := system.committed ++ [highwater + 1] } := by
  unfold commitBatch
  split
  · exact .inl rfl
  · rename_i highwater opened
    dsimp only
    split
    · exact .inl rfl
    · rename_i hot committed
      unfold HotFiles.commit at committed
      split at committed
      · cases committed
        refine .inr ⟨highwater, _, opened, ?_, ?_, ?_, ?_, rfl⟩ <;> rfl
      · cases committed

/-- A pass begins with a plan when none is running. -/
theorem beginPass_cases (setup : Setup) (system : System π) (now : Time) (freeBytes : ℕ) :
    system.beginPass setup now freeBytes = system ∨
      ∃ pass failure, system.pass = .ended failure ∧
        Replanned setup { system with clock := some (system.clock.elim now (max now)) } now pass ∧
        system.beginPass setup now freeBytes =
          { system with clock := some (system.clock.elim now (max now)), pass } := by
  unfold beginPass
  split
  · rename_i failure ended
    obtain ⟨pass, next, refreshed⟩ :=
      exists_refresh setup { system with clock := some (system.clock.elim now (max now)) }
        now freeBytes .evictFirst
    exact .inr ⟨pass, failure, ended, next, refreshed⟩
  · exact .inl rfl

variable [DecidableEq π]

/-- The events that change batches, floor, pass or clock. -/
theorem apply_cases (setup : Setup) (system : System π) (event : Event π) :
    system.Unchanged (system.apply setup event) ∨
      (∃ receivedAt pageBytes payload, event = .commitBatch receivedAt pageBytes payload) ∨
      (∃ now freeBytes, event = .beginPass now freeBytes) ∨
      (∃ env, event = .advance env) ∨ event = .crash := by
  cases event with
  | openSession => exact .inl openSession_unchanged
  | commitBatch receivedAt pageBytes payload => exact .inr (.inl ⟨_, _, _, rfl⟩)
  | publishHead => exact .inl publishHead_unchanged
  | dropHead => exact .inl dropHead_unchanged
  | writeStatus => exact .inl writeStatus_unchanged
  | closeSession => exact .inl ⟨rfl, rfl, rfl, rfl, rfl, rfl⟩
  | archive observed completes => exact .inl (archive_unchanged observed completes)
  | initializeArchive => exact .inl initializeArchive_unchanged
  | beginPass now freeBytes => exact .inr (.inr (.inl ⟨_, _, rfl⟩))
  | advance env => exact .inr (.inr (.inr (.inl ⟨_, rfl⟩)))
  | crash => exact .inr (.inr (.inr (.inr rfl)))

end System

end RQuant.L2
