import RQuant.L2.Moves

/-!
# Nothing committed is lost

Above the floor every committed batch is in the hot cache, and the floor is
covered by a successful archive receipt.
-/

namespace RQuant.L2

open Foundation
open List hiding after next count minimum

theorem foldl_max_le_iff {names : List ℕ} {start bound : ℕ} :
    names.foldl max start ≤ bound ↔ start ≤ bound ∧ ∀ name ∈ names, name ≤ bound := by
  induction names generalizing start with
  | nil => simp
  | cons head tail ih =>
    rw [foldl_cons, ih, max_le_iff, forall_mem_cons]
    tauto

variable {now : Time} {stage : Stage} {last minimum : ℕ}

namespace HotFiles

variable {π : Type} {files : HotFiles π} {batch : HotBatch π} {bound sequence : ℕ} {head : Option ℕ}

/-- The last name is the largest one. -/
theorem le_lastName (mem : batch ∈ files.batches) : batch.sequence ≤ files.lastName :=
  (foldl_max_le_iff.mp le_rfl).2 _ (mem_map_of_mem mem)

/-- The cache mentions no sequence beyond a bound, and batches from 1 on. -/
structure Bounded (files : HotFiles π) (bound : ℕ) : Prop where
  floor : files.floor ≤ bound
  named : ∀ batch ∈ files.batches, 1 ≤ batch.sequence ∧ batch.sequence ≤ bound
  status : files.statusSequence ≤ bound
  headLink : ∀ head, files.headLink = some head → head ≤ bound

/-- A larger bound holds as well. -/
theorem Bounded.mono (bounded : files.Bounded bound)
    (grows : bound ≤ larger) : files.Bounded larger :=
  ⟨bounded.floor.trans grows, fun batch mem => (bounded.named batch mem).imp_right (·.trans grows),
    bounded.status.trans grows,
    fun head linked => (bounded.headLink head linked).trans grows⟩

/-- What is read as the published head is the link, or nothing. -/
theorem publishedHead_eq_ok (read : files.publishedHead minimum = .ok head) :
    head = none ∨ head = files.headLink := by
  unfold publishedHead at read
  split at read
  · cases read
    exact .inl rfl
  · rename_i count linked
    split at read
    · simp only [run_eq_ok] at read
      obtain ⟨_, _, rfl⟩ := read
      exact .inr linked.symm
    · cases read
      exact .inl rfl

section

variable (bounded : files.Bounded bound)

include bounded

/-- The published head is within the bound. -/
theorem Bounded.publishedHead (read : files.publishedHead minimum = .ok head) :
    head.getD 0 ≤ bound := by
  rcases publishedHead_eq_ok read with rfl | rfl
  · exact Nat.zero_le bound
  · cases linked : files.headLink with
    | none => exact Nat.zero_le bound
    | some count => exact bounded.headLink count linked

/-- The last directory is within the bound. -/
theorem Bounded.lastName : files.lastName ≤ bound := by
  refine foldl_max_le_iff.mpr ⟨Nat.zero_le bound, ?_⟩
  intro _ named
  obtain ⟨batch, mem, rfl⟩ := mem_map.mp named
  exact (bounded.named batch mem).2

/-- The audit of the directories counts up to a bound that no name exceeds. -/
theorem directories_eq_ok (read : files.directories = .ok committed) :
    files.floor + committed.length ≤ bound ∧ files.lastName ≤ files.floor + committed.length := by
  unfold directories at read
  simp only [run_eq_ok] at read
  obtain ⟨_, headRead, _, listed⟩ := read
  have counted := congrArg length (map_of_mapM_eq_ok listed)
  simp only [length_map, length_range'] at counted
  have headBound := bounded.publishedHead headRead
  have nameBound := bounded.lastName
  have statusBound := bounded.status
  omega

/-- The last sequence, taken from floor, names, status and head, is within it.
-/
theorem Bounded.lastSequence (read : files.lastSequence = .ok last) : last ≤ bound := by
  unfold HotFiles.lastSequence at read
  rw [bind_eq_ok] at read
  obtain ⟨head, headRead, read⟩ := read
  have headBound := bounded.publishedHead headRead
  cases head with
  | none =>
    simp only [run_eq_ok] at read
    obtain ⟨_, listed, rfl⟩ := read
    exact (directories_eq_ok bounded listed).1
  | some count =>
    simp only [run_eq_ok] at read
    obtain ⟨_, _, rfl⟩ := read
    exact headBound

/-- So is the head of the usage report. -/
theorem Bounded.usageHead : files.usageHead ≤ bound := by
  unfold HotFiles.usageHead
  split
  · exact bounded.floor
  · exact bounded.lastName

end

/-- A damaged directory keeps its sequence, its time and its payload. -/
theorem mem_damage (mem : batch ∈ (files.damage sequence).batches) :
    ∃ old ∈ files.batches, batch.sequence = old.sequence ∧
      batch.receivedAt = old.receivedAt ∧ batch.payload = old.payload := by
  obtain ⟨old, oldMem, ⟨_, rfl⟩ | ⟨_, rfl⟩⟩ := mem_updateKey.mp mem
  · exact ⟨old, oldMem, rfl, rfl, rfl⟩
  · exact ⟨_, oldMem, rfl, rfl, rfl⟩

/-- Only the named directory is damaged. -/
theorem mem_damage_of_ne (mem : batch ∈ files.batches) (different : batch.sequence ≠ sequence) :
    batch ∈ (files.damage sequence).batches :=
  mem_updateKey.mpr ⟨batch, mem, .inr ⟨different, rfl⟩⟩

/-- Only the named directory is removed. -/
theorem mem_remove : batch ∈ (files.remove sequence).batches ↔
    batch ∈ files.batches ∧ batch.sequence ≠ sequence := by
  simp [remove]

end HotFiles

def Archived (receipts : List ArchiveReceipt) (sequence : ℕ) : Prop :=
  ∃ receipt ∈ receipts, receipt.Successful ∧ sequence ≤ receipt.lastSequence

/-- What a plan may still be used for. -/
structure RetentionPlan.Sound (plan : RetentionPlan) (policy : RetentionPolicy) (floor count : ℕ)
    (receipts : List ArchiveReceipt) : Prop where
  floor : plan.hotFloor ≤ floor
  within : plan.pruneHot = true → plan.pruneThrough ≤ count
  archived :
    policy.archiveRequired = true → plan.pruneHot = true → Archived receipts plan.pruneThrough

namespace System

variable {π : Type} {setup : Setup} {system : System π}

/-- What holds of the files, the receipts and the pass at every moment. -/
structure Sound (setup : Setup) (system : System π) : Prop where
  committed : system.committed = range' 1 system.committed.length
  bounded : system.hot.Bounded system.committed.length
  present : ∀ sequence, system.hot.floor < sequence →
    sequence ≤ system.committed.length →
      ∃ batch ∈ system.hot.batches, batch.sequence = sequence ∧ batch.intact = true
  session : ∀ highwater, system.session = some highwater → highwater = system.committed.length
  receipt : ∀ receipt, system.receipt = some receipt → receipt ∈ system.receipts
  receipts : ∀ receipt ∈ system.receipts, receipt.lastSequence ≤ system.committed.length
  catalog : ∀ last, system.catalog = some last → last ≤ system.committed.length
  archived : setup.policy.archiveRequired = true →
    system.hot.floor = 0 ∨ Archived system.receipts system.hot.floor
  plan : ∀ plan, system.pass.plan? = some plan →
    plan.Sound setup.policy system.hot.floor system.committed.length system.receipts
  target : ∀ target, system.pass.target? = some target → target ≤ system.hot.floor
  removed : ∀ sequence, system.pass.removed? = some sequence → sequence ≤ system.hot.floor
  exclusive : system.pruningNow = true → system.session = none

/-- A committed batch is in the cache undamaged, or its sequence is archived. -/
theorem Sound.kept (sound : system.Sound setup)
    (required : setup.policy.archiveRequired = true) {sequence : ℕ}
    (committed : sequence ∈ system.committed) :
    (∃ batch ∈ system.hot.batches, batch.sequence = sequence ∧ batch.intact = true) ∨
      Archived system.receipts sequence := by
  rw [sound.committed, mem_range'_1] at committed
  by_cases above : system.hot.floor < sequence
  · exact .inl (sound.present sequence above (by omega))
  · rcases sound.archived required with
      _ | ⟨receipt, mem, successful, covers⟩
    · omega
    · exact .inr ⟨receipt, mem, successful, (not_lt.mp above).trans covers⟩

variable {plan : RetentionPlan} {pass : PassState π}

/-- A new plan retires what is committed and, where the policy asks for it,
covered by a successful receipt. -/
theorem Sound.planSound (sound : system.Sound setup)
    (planned : system.plan setup now freeBytes = .ok plan) :
    plan.Sound setup.policy system.hot.floor system.committed.length system.receipts := by
  have retires := retires_of_planRetention planned
  refine ⟨retires.hotFloor.le, ?_, ?_⟩
  · intro prunes
    obtain ⟨_, read, within⟩ := retires.within (retires.prunes prunes)
    exact within.trans (max_le (sound.bounded.lastSequence read) sound.bounded.usageHead)
  · intro required prunes
    obtain ⟨receipt, found, successful, covers⟩ := retires.archived required (retires.prunes prunes)
    have isReceipt : system.receipt = some receipt := by
      dsimp only at found
      split at found
      · exact Option.some.inj found
      · cases found
    exact ⟨receipt, sound.receipt receipt isReceipt, successful, covers⟩

/-- What a pass may be moved to while the hot cache stays as it is. -/
structure PassSound (setup : Setup) (system : System π) (pass : PassState π) : Prop where
  plan : ∀ plan, pass.plan? = some plan →
    plan.Sound setup.policy system.hot.floor system.committed.length system.receipts
  target : ∀ target, pass.target? = some target → target ≤ system.hot.floor
  removed : ∀ sequence, pass.removed? = some sequence → sequence ≤ system.hot.floor
  exclusive : pass.target?.isSome = true → system.session = none

/-- A pass prunes while it has a target. -/
theorem pruningNow_iff : system.pruningNow = true ↔ system.pass.target?.isSome = true := by
  unfold pruningNow PassState.target?
  cases system.pass <;> simp

/-- The files stay sound under another state of the pass. -/
theorem Sound.withPass (sound : system.Sound setup) {cold : ColdFiles π}
    (passSound : system.PassSound setup pass) :
    ({ system with cold, pass } : System π).Sound setup :=
  { sound with
    plan := passSound.plan
    target := passSound.target
    removed := passSound.removed
    exclusive := fun pruning => passSound.exclusive (pruningNow_iff.mp pruning) }

/-- The state of the pass in a sound system is sound. -/
theorem Sound.passSound (sound : system.Sound setup) : system.PassSound setup system.pass where
  plan := sound.plan
  target := sound.target
  removed := sound.removed
  exclusive := fun pruning => sound.exclusive (pruningNow_iff.mpr pruning)

/-- A pass that has just planned is sound when its plan is. -/
theorem passSound_of_plan
    (planSound : plan.Sound setup.policy system.hot.floor system.committed.length system.receipts) :
    system.PassSound setup (.ready now stage plan) where
  plan := fun _ known => Option.some.inj known ▸ planSound
  target := fun _ none => nomatch none
  removed := fun _ none => nomatch none
  exclusive := fun none => nomatch none

/-- A pass without plan, target and directory in hand is sound. -/
theorem passSound_of_none (plan : pass.plan? = none)
    (target : pass.target? = none) (removed : pass.removed? = none) :
    system.PassSound setup pass where
  plan := fun _ known => nomatch plan.symm.trans known
  target := fun _ known => nomatch target.symm.trans known
  removed := fun _ known => nomatch removed.symm.trans known
  exclusive := fun some => by rw [target] at some; cases some

section

variable (sound : system.Sound setup)

include sound

/-- Plans are made within the floor, the committed batches and the receipts. -/
theorem Sound.replanned (next : Replanned setup system now pass) : system.PassSound setup pass := by
  cases next with
  | ended failure => exact passSound_of_none rfl rfl rfl
  | ready planned => exact passSound_of_plan (sound.planSound planned)

/-- The floor may rise to what the plan prunes: all of it is archived. -/
theorem Sound.retired (second : Bool) (entered : system.pass = .ready now stage plan)
    (free : system.session = none)
    (bound : through = plan.hotFloor ∨ (plan.pruneHot = true ∧ through = plan.pruneThrough)) :
    ({ system with
      hot := { system.hot with floor := max through system.hot.floor }
      pass := .pruning now second plan (max through system.hot.floor)
        system.hot.headLink (system.hot.batches.map HotBatch.sequence)
        0 } : System π).Sound setup := by
  have planSound := sound.plan plan (by rw [entered]; rfl)
  have reached : max through system.hot.floor = system.hot.floor ∨
      (plan.pruneHot = true ∧ max through system.hot.floor = plan.pruneThrough) := by
    rcases bound with rfl | ⟨prunes, rfl⟩
    · exact .inl (max_eq_right planSound.floor)
    · by_cases beyond : plan.pruneThrough ≤ system.hot.floor
      · exact .inl (max_eq_right beyond)
      · exact .inr ⟨prunes, max_eq_left (by omega)⟩
  have archived : setup.policy.archiveRequired = true →
      max through system.hot.floor = 0 ∨
        Archived system.receipts (max through system.hot.floor) := by
    intro required
    rcases reached with same | ⟨prunes, same⟩
    · rw [same]
      exact sound.archived required
    · rw [same]
      exact .inr (planSound.archived required prunes)
  have within : max through system.hot.floor ≤ system.committed.length := by
    rcases reached with same | ⟨prunes, same⟩
    · rw [same]
      exact sound.bounded.floor
    · rw [same]
      exact planSound.within prunes
  exact
    { sound with
      bounded := { sound.bounded with floor := within }
      present := fun sequence above below =>
        sound.present sequence (lt_of_le_of_lt (le_max_right _ _) above) below
      archived := archived
      plan := by
        intro _ known
        cases known
        exact { planSound with
          floor := planSound.floor.trans (le_max_right _ _) }
      target := by
        intro target known
        cases known
        exact le_rfl
      removed := fun _ known => nomatch known
      exclusive := fun _ => free }

/-- Batches at or below the floor may be lost. -/
theorem Sound.withBatches {hot : HotFiles π} (floor : hot.floor = system.hot.floor)
    (headLink : hot.headLink = system.hot.headLink)
    (status : hot.statusSequence = system.hot.statusSequence)
    (fewer : ∀ batch ∈ hot.batches, ∃ old ∈ system.hot.batches, batch.sequence = old.sequence)
    (kept : ∀ batch ∈ system.hot.batches, system.hot.floor < batch.sequence → batch ∈ hot.batches)
    (passSound : system.PassSound setup pass) :
    ({ system with hot, pass } : System π).Sound setup :=
  { sound with
    bounded :=
      { floor := floor ▸ sound.bounded.floor
        named := by
          intro batch mem
          obtain ⟨old, oldMem, same⟩ := fewer batch mem
          exact same ▸ sound.bounded.named old oldMem
        status := status ▸ sound.bounded.status
        headLink := headLink ▸ sound.bounded.headLink }
    present := by
      intro sequence above below
      change hot.floor < sequence at above
      rw [floor] at above
      obtain ⟨batch, mem, rfl, intact⟩ := sound.present sequence above below
      exact ⟨batch, kept batch mem above, rfl, intact⟩
    archived := by
      change _ → hot.floor = 0 ∨ Archived system.receipts hot.floor
      rw [floor]
      exact sound.archived
    plan := fun plan known => floor.symm ▸ passSound.plan plan known
    target := fun target known => floor.symm ▸ passSound.target target known
    removed := fun sequence known => floor.symm ▸ passSound.removed sequence known
    exclusive := fun pruning => passSound.exclusive (pruningNow_iff.mp pruning) }

/-- Every move of a pass keeps the system sound; the cases are the moves. -/
theorem Sound.move {next : System π} (move : PassMove setup system next) : next.Sound setup := by
  have passSound := sound.passSound
  cases move with
  | idle => exact sound
  | replanned running replanned => exact sound.withPass (sound.replanned replanned)
  | kept stage running known => exact sound.withPass (passSound_of_plan (sound.plan _ known))
  | evicted entered evicts chosen shorter | unlinked reached
  | written reached first last within wrote => exact sound.withPass (passSound_of_none rfl rfl rfl)
  | retired second entered free bound => exact sound.retired second entered free bound
  | skipped reached =>
    rw [reached] at passSound
    exact sound.withPass
      ⟨passSound.plan, passSound.target, (fun _ known => nomatch known), passSound.exclusive⟩
  | damaged reached within =>
    rw [reached] at passSound
    have below := passSound.target _ rfl
    refine sound.withBatches rfl rfl rfl ?_ ?_
      ⟨passSound.plan, passSound.target, ?_, passSound.exclusive⟩
    · intro batch mem
      obtain ⟨old, oldMem, same, -⟩ := HotFiles.mem_damage mem
      exact ⟨old, oldMem, same⟩
    · intro batch mem above
      exact HotFiles.mem_damage_of_ne mem (by omega)
    · intro _ known
      cases known
      exact within.trans below
  | removed reached =>
    rw [reached] at passSound
    have below := passSound.removed _ rfl
    refine sound.withBatches rfl rfl rfl ?_ ?_
      ⟨passSound.plan, passSound.target, (fun _ known => nomatch known), passSound.exclusive⟩
    · intro batch mem
      exact ⟨batch, (HotFiles.mem_remove.mp mem).1, rfl⟩
    · intro batch mem above
      exact HotFiles.mem_remove.mpr ⟨mem, by omega⟩
  | locked start entered read within next =>
    rcases next with ⟨_, rfl⟩ | rfl <;>
      exact sound.withPass (passSound_of_none rfl rfl rfl)
  | cleaned reached next =>
    have cleaned : ({ system with cold := system.cold.cleanupOrphans } : System π).Sound setup :=
      sound.withPass passSound
    rcases next with replanned | rfl
    · exact cleaned.withPass (cleaned.replanned replanned)
    · exact sound.withPass (passSound_of_none rfl rfl rfl)
  | published reached named verified appended =>
    exact sound.withPass (passSound_of_none rfl rfl rfl)

end

/-! ## The collector and the archive -/

section

variable (sound : system.Sound setup)

include sound

/-- A session opens at the number of committed batches. -/
theorem Sound.openSession : system.openSession.Sound setup := by
  unfold System.openSession
  split
  · exact sound
  · rename_i free
    simp only [Bool.or_eq_true, not_or, Bool.not_eq_true] at free
    split
    · exact sound
    · rename_i committed read
      obtain ⟨below, _⟩ := HotFiles.directories_eq_ok sound.bounded read
      -- The newest committed batch is above the floor and thus has its name in
      -- the cache, or it is the floor itself.
      have reaches : system.committed.length ≤ system.hot.floor + committed.length := by
        by_cases retired : system.committed.length ≤ system.hot.floor
        · omega
        · obtain ⟨_, mem, _, -⟩ := sound.present system.committed.length (by omega) le_rfl
          have named := HotFiles.le_lastName mem
          omega
      exact
        { sound with
          session := by
            intro _ opened
            cases opened
            exact le_antisymm below reaches
          exclusive := by
            intro pruning
            change system.pruningNow = true at pruning
            rw [free.2] at pruning
            cases pruning }

/-- The next batch follows the committed ones. -/
theorem Sound.commitBatch (receivedAt : Time) (pageBytes : ℕ) (payload : π) :
    (system.commitBatch receivedAt pageBytes payload).Sound setup := by
  rcases system.commitBatch_cases receivedAt pageBytes payload with
    same | ⟨highwater, _, opened, floor, headLink, status, batches, same⟩
  · rw [same]
    exact sound
  · rw [same]
    have top := sound.session highwater opened
    have grows : system.committed.length ≤ (system.committed ++ [highwater + 1]).length := by
      simp
    have bounded := sound.bounded.mono grows
    refine
      { sound with
        committed := ?_
        bounded :=
          { floor := floor ▸ bounded.floor, named := ?_, status := status ▸ bounded.status,
            headLink := headLink ▸ bounded.headLink }
        present := ?_
        session := ?_
        receipts := fun receipt mem => (sound.receipts receipt mem).trans grows
        catalog := fun last known => (sound.catalog last known).trans grows
        archived := floor.symm ▸ sound.archived
        plan := fun plan known =>
          { floor := floor.symm ▸ (sound.plan plan known).floor
            within := fun prunes => ((sound.plan plan known).within prunes).trans grows
            archived := (sound.plan plan known).archived }
        target := floor.symm ▸ sound.target
        removed := floor.symm ▸ sound.removed
        exclusive := ?_ }
    · rw [length_append, length_singleton, range'_concat, ← sound.committed]
      simp [top, Nat.add_comm]
    · intro batch mem
      rw [batches, mem_concat] at mem
      rcases mem with old | rfl
      · exact bounded.named batch old
      · simp [top]
    · intro sequence above below
      dsimp only at above ⊢
      rw [floor] at above
      rw [batches]
      simp only [length_append, length_singleton] at below
      by_cases old : sequence ≤ system.committed.length
      · obtain ⟨batch, mem, found⟩ := sound.present sequence above old
        exact ⟨batch, mem_append_left _ mem, found⟩
      · refine ⟨_, mem_concat_self, ?_, rfl⟩
        dsimp only
        omega
    · intro _ opened
      cases opened
      simp [top]
    · intro pruning
      have idle := sound.exclusive pruning
      rw [opened] at idle
      cases idle

/-- The link to the head and the status move within what is committed. -/
theorem Sound.withHead (linked : ∀ head, headLink = some head → head ≤ system.committed.length)
    (status : statusSequence ≤ system.committed.length) :
    ({ system with
      hot := { system.hot with headLink, statusSequence } } : System π).Sound setup :=
  { sound with
    bounded := { sound.bounded with status, headLink := linked } }

/-- The head link names the last committed batch. -/
theorem Sound.publishHead : system.publishHead.Sound setup := by
  unfold System.publishHead
  split
  · exact sound
  · rename_i highwater opened
    split
    · refine sound.withHead ?_ sound.bounded.status
      intro _ linked
      cases linked
      exact (sound.session highwater opened).le
    · exact sound

theorem Sound.dropHead : system.dropHead.Sound setup := by
  unfold System.dropHead
  split
  · exact sound
  · exact sound.withHead (fun _ none => nomatch none) sound.bounded.status

theorem Sound.writeStatus : system.writeStatus.Sound setup := by
  unfold System.writeStatus
  split
  · exact sound
  · rename_i highwater opened
    exact sound.withHead sound.bounded.headLink (sound.session highwater opened).le

theorem Sound.closeSession : ({ system with session := none } : System π).Sound setup :=
  { sound with
    session := fun _ none => nomatch none
    exclusive := fun _ => rfl }

/-- A receipt of committed batches may be added. -/
theorem Sound.withReceipt {receipt : ArchiveReceipt} {catalog : Option ℕ}
    (covers : receipt.lastSequence ≤ system.committed.length)
    (catalogued : ∀ last, catalog = some last → last ≤ system.committed.length) :
    ({ system with
      catalog, receipt := some receipt,
      receipts := system.receipts ++ [receipt] } : System π).Sound setup := by
  have archived : ∀ sequence, Archived system.receipts sequence →
      Archived (system.receipts ++ [receipt]) sequence := by
    rintro sequence ⟨old, mem, found⟩
    exact ⟨old, mem_append_left _ mem, found⟩
  exact
    { sound with
      receipt := by
        intro other known
        cases known
        exact mem_concat_self
      receipts := by
        refine forall_mem_concat.mpr ⟨sound.receipts, ?_⟩
        exact covers
      catalog := catalogued
      archived := fun required => (sound.archived required).imp_right (archived _)
      plan := fun plan known =>
        { sound.plan plan known with
          archived := fun required prunes =>
            archived _ ((sound.plan plan known).archived required prunes) } }

/-- An archive run covers what is committed. -/
theorem Sound.archive (observed completes : Bool) :
    (system.archive observed completes).Sound setup := by
  unfold System.archive
  split
  · rename_i last highwater _ read
    have within := sound.bounded.lastSequence read
    split
    · split
      · exact sound
      · dsimp only
        have catalogued : ∀ last, some highwater = some last → last ≤ system.committed.length := by
          intro last same
          cases same
          exact within
        split
        · exact sound.withReceipt within catalogued
        · exact { sound with catalog := catalogued }
    · exact sound
  · exact sound

theorem Sound.initializeArchive : system.initializeArchive.Sound setup := by
  unfold System.initializeArchive
  split
  · split
    · refine sound.withReceipt (Nat.zero_le _) ?_
      intro last same
      cases same
      exact Nat.zero_le _
    · exact sound
  · rename_i last _ known _
    split
    · exact sound.withReceipt (sound.catalog last known) sound.catalog
    · exact sound
  · exact sound

/-- A pass begins with a sound plan. -/
theorem Sound.beginPass (now : Time) (freeBytes : ℕ) :
    (system.beginPass setup now freeBytes).Sound setup := by
  rcases beginPass_cases setup system now freeBytes with
    same | ⟨_, _, -, next, same⟩
  · rw [same]
    exact sound
  · rw [same]
    have clocked :
        ({ system with
          clock := some (system.clock.elim now (max now)) } : System π).Sound setup :=
      { sound with }
    exact clocked.withPass (clocked.replanned next)

end

/-- An empty cache is sound. -/
theorem sound_initial : (initial : System π).Sound setup where
  committed := rfl
  bounded :=
    { floor := le_rfl
      named := fun _ none => nomatch none
      status := le_rfl
      headLink := fun _ none => nomatch none }
  present := by
    intro _ above below
    exact absurd (lt_of_lt_of_le above below) (lt_irrefl _)
  session := fun _ none => nomatch none
  receipt := fun _ none => nomatch none
  receipts := fun _ none => nomatch none
  catalog := fun _ none => nomatch none
  archived := fun _ => .inl rfl
  plan := fun _ none => nomatch none
  target := fun _ none => nomatch none
  removed := fun _ none => nomatch none
  exclusive := fun none => nomatch none

variable [DecidableEq π]

/-- One event keeps the system sound. -/
theorem Sound.apply (sound : system.Sound setup)
    (event : Event π) : (system.apply setup event).Sound setup := by
  cases event with
  | openSession => exact sound.openSession
  | commitBatch receivedAt pageBytes payload => exact sound.commitBatch receivedAt pageBytes payload
  | publishHead => exact sound.publishHead
  | dropHead => exact sound.dropHead
  | writeStatus => exact sound.writeStatus
  | closeSession => exact sound.closeSession
  | archive observed completes => exact sound.archive observed completes
  | initializeArchive => exact sound.initializeArchive
  | beginPass now freeBytes => exact sound.beginPass now freeBytes
  | advance env => exact sound.move (advance_move env)
  | crash => exact sound.withPass (passSound_of_none rfl rfl rfl)

/-- The system is sound in every run. -/
theorem Run.sound (run : Run setup allowed system) : system.Sound setup :=
  run.invariant sound_initial fun sound _ applied => applied ▸ sound.apply _

end System

end RQuant.L2
