import RQuant.L2.Backing

/-!
# Young batches

A pass deletes no batch younger than the hot window, as long as its plans are
not made on a cache whose receive times deceive the bisection.
-/

namespace RQuant.L2

open Foundation

namespace HotFiles

variable {π : Type} {files : HotFiles π} {cutoff : Time}

instance (head : ℕ) : Decidable (files.Deceptive cutoff head) :=
  inferInstanceAs (Decidable (_ ∧ _ ∧ _))

def Undeceiving (files : HotFiles π) (cutoff : Time) : Prop :=
  match files.lastSequence with
  | .error _ => True
  | .ok head => ¬ files.Deceptive cutoff head

instance : Decidable (files.Undeceiving cutoff) := by
  unfold Undeceiving
  split <;> infer_instance

end HotFiles

variable {latest : Time}

namespace System

variable {π : Type} {setup : Setup} {system : System π}

/-- A batch is outside of the hot window of the latest pass. -/
def Ripe (setup : Setup) (clock : Option Time) (batch : HotBatch π) : Prop :=
  ∃ latest, clock = some latest ∧ batch.receivedAt ≤ latest - setup.policy.hotKeep

section

variable (setup : Setup) (system : System π)

/-- What is retired, or will be, is old. -/
structure Aged : Prop where
  running :
    ∀ now, system.pass.clock? = some now → ∃ latest, system.clock = some latest ∧ now ≤ latest
  below :
    ∀ batch ∈ system.hot.batches, batch.sequence ≤ system.hot.floor → Ripe setup system.clock batch
  planned : ∀ plan, system.pass.plan? = some plan → plan.pruneHot = true →
    ∀ batch ∈ system.hot.batches, batch.sequence ≤ plan.pruneThrough → Ripe setup system.clock batch

end

/-- A step that makes a plan makes it on a cache that does not deceive the
bisection. -/
def Undeceived [DecidableEq π] (setup : Setup) (system : System π) : Event π → Prop
  | .beginPass now _ => system.hot.Undeceiving (now - setup.policy.hotKeep)
  | .advance env =>
    ∀ now ∈ system.pass.clock?, (system.advance setup env).pass.plan? ≠ system.pass.plan? →
      system.hot.Undeceiving (now - setup.policy.hotKeep)
  | _ => True

instance [DecidableEq π] : (event : Event π) → Decidable (system.Undeceived setup event)
  | .beginPass now _ =>
    inferInstanceAs (Decidable (system.hot.Undeceiving (now - setup.policy.hotKeep)))
  | .advance _ => inferInstanceAs (Decidable (∀ _ ∈ system.pass.clock?, _ → _))
  | .openSession | .commitBatch .. | .publishHead | .dropHead | .writeStatus | .closeSession
  | .archive .. | .initializeArchive | .crash => isTrue trivial

variable {now : Time} {pass : PassState π}

theorem Aged.replanned (aged : system.Aged setup) (other : System π) (hot : other.hot = system.hot)
    (clock : system.clock = some latest) (running : now ≤ latest)
    (undeceiving : system.hot.Undeceiving (now - setup.policy.hotKeep))
    (next : Replanned setup other now pass) :
    ∀ plan, pass.plan? = some plan → plan.pruneHot = true →
      ∀ batch ∈ system.hot.batches, batch.sequence ≤ plan.pruneThrough →
        Ripe setup system.clock batch := by
  intro plan known _ batch mem retired
  cases next with
  | ended failure => cases known
  | ready planned =>
    cases known
    by_cases below : batch.sequence ≤ system.hot.floor
    · exact aged.below batch mem below
    · rw [← hot] at undeceiving mem below
      have above := not_le.mp below
      have retires := retires_of_planRetention planned
      have prunes := lt_of_lt_of_le above retired
      obtain ⟨_, read, -⟩ := retires.within prunes
      obtain ⟨_, found, within⟩ := retires.bounded prunes
      unfold HotFiles.Undeceiving at undeceiving
      rw [read] at undeceiving
      have old := (HotFiles.allOld_hotBoundary_iff read found).mpr undeceiving batch mem above
        (retired.trans within)
      exact ⟨latest, clock, old.trans (sub_le_sub_right running _)⟩

/-- The plan of before, or a new one on a cache that does not deceive. -/
theorem Aged.planned_or_replanned (aged : system.Aged setup) (other : System π)
    (hot : other.hot = system.hot) (clock : system.clock = some latest) (running : now ≤ latest)
    (undeceived : pass.plan? ≠ system.pass.plan? →
      system.hot.Undeceiving (now - setup.policy.hotKeep))
    (next : Replanned setup other now pass) :
    ∀ plan, pass.plan? = some plan → plan.pruneHot = true →
      ∀ batch ∈ system.hot.batches, batch.sequence ≤ plan.pruneThrough →
        Ripe setup system.clock batch := by
  by_cases same : pass.plan? = system.pass.plan?
  · rw [same]
    exact aged.planned
  · exact aged.replanned other hot clock running (undeceived same) next

theorem clock?_of_replanned (next : Replanned setup other now pass)
    (running : pass.clock? = some found) : found = now := by
  cases next with
  | ended failure => cases running
  | ready planned => exact (Option.some.inj running).symm

section

variable (aged : system.Aged setup)

include aged

section

variable {cold : ColdFiles π} {hot : HotFiles π} {last : PassState π}
  (reached : system.pass = last)
  (clock : ∀ now, pass.clock? = some now → last.clock? = some now)
  (plan : ∀ plan, pass.plan? = some plan → last.plan? = some plan)

include reached clock plan

theorem Aged.withPass : ({ system with cold, pass } : System π).Aged setup where
  running := fun now known => aged.running now (reached ▸ clock now known)
  below := aged.below
  planned := fun known isPlan => aged.planned known (reached ▸ plan known isPlan)

theorem Aged.withHot
    (fewer : ∀ batch ∈ hot.batches, ∃ old ∈ system.hot.batches,
      batch.sequence = old.sequence ∧ batch.receivedAt = old.receivedAt)
    (below :
      ∀ batch ∈ system.hot.batches, batch.sequence ≤ hot.floor → Ripe setup system.clock batch) :
    ({ system with hot, pass } : System π).Aged setup where
  running := fun now known => aged.running now (reached ▸ clock now known)
  below := by
    intro batch mem retired
    obtain ⟨old, oldMem, sameSequence, sameTime⟩ := fewer batch mem
    unfold Ripe
    rw [sameTime]
    exact below old oldMem (sameSequence ▸ retired)
  planned := by
    intro known isPlan prunes batch mem retired
    obtain ⟨old, oldMem, sameSequence, sameTime⟩ := fewer batch mem
    unfold Ripe
    rw [sameTime]
    exact aged.planned known (reached ▸ plan known isPlan) prunes old oldMem
      (sameSequence ▸ retired)

end

/-- A plan is kept with its clock, or made on a cache that does not deceive the bisection. -/
theorem Aged.move (sound : system.Sound setup) {next : System π}
    (undeceived : ∀ now ∈ system.pass.clock?, next.pass.plan? ≠ system.pass.plan? →
      system.hot.Undeceiving (now - setup.policy.hotKeep))
    (move : PassMove setup system next) : next.Aged setup := by
  cases move with
  | idle => exact aged
  | @replanned now pass running replanned =>
    obtain ⟨latest, clock, before⟩ := aged.running now running
    refine ⟨?_, aged.below, aged.planned_or_replanned system rfl clock before
      (undeceived now running) replanned⟩
    intro found known
    rw [clock?_of_replanned replanned known]
    exact ⟨latest, clock, before⟩
  | kept stage running known =>
    refine aged.withPass rfl ?_ ?_
    · rintro found ⟨⟩
      exact running
    · rintro found ⟨⟩
      exact known
  | evicted entered evicts chosen shorter =>
    exact aged.withPass entered (fun _ known => known) fun _ none => nomatch none
  | unlinked reached | written reached first last within wrote
  | published reached named verified appended =>
    exact aged.withPass reached (fun _ known => known) fun _ none => nomatch none
  | @retired now stage plan through second entered free bound =>
    have known : system.pass.plan? = some plan := by rw [entered]; rfl
    refine aged.withHot entered (fun _ known => known) (fun _ known => known)
      (fun batch mem => ⟨batch, mem, rfl, rfl⟩) ?_
    intro batch mem retired
    by_cases old : batch.sequence ≤ system.hot.floor
    · exact aged.below batch mem old
    · dsimp only at retired
      rcases bound with rfl | ⟨prunes, rfl⟩
      · have floor := (sound.plan plan known).floor
        omega
      · exact aged.planned plan known prunes batch mem (by omega)
  | skipped reached =>
    exact aged.withPass reached (fun _ known => known) fun _ known => known
  | damaged reached within =>
    refine aged.withHot reached (fun _ known => known) (fun _ known => known) ?_ aged.below
    intro batch mem
    obtain ⟨old, oldMem, sameSequence, sameTime, -⟩ := HotFiles.mem_damage mem
    exact ⟨old, oldMem, sameSequence, sameTime⟩
  | removed reached =>
    exact aged.withHot reached (fun _ known => known) (fun _ known => known)
      (fun batch mem => ⟨batch, (HotFiles.mem_remove.mp mem).1, rfl, rfl⟩) aged.below
  | locked start entered read within next =>
    rcases next with ⟨_, rfl⟩ | rfl
    · exact aged.withPass rfl (fun _ none => nomatch none) fun _ none => nomatch none
    · exact aged.withPass entered (fun _ known => known) fun _ none => nomatch none
  | @cleaned now start stop pass reached next =>
    have running : system.pass.clock? = some now := by rw [reached]; rfl
    rcases next with replanned | rfl
    · obtain ⟨latest, clock, before⟩ := aged.running now running
      refine ⟨?_, aged.below, aged.planned_or_replanned
        { system with cold := system.cold.cleanupOrphans } rfl clock before
        (undeceived now running) replanned⟩
      intro found known
      rw [clock?_of_replanned replanned known]
      exact ⟨latest, clock, before⟩
    · exact aged.withPass reached (fun _ known => known) fun _ none => nomatch none

theorem Aged.commitBatch (sound : system.Sound setup)
    (receivedAt : Time) (pageBytes : ℕ) (payload : π) :
    (system.commitBatch receivedAt pageBytes payload).Aged setup := by
  rcases system.commitBatch_cases receivedAt pageBytes payload with
    same | ⟨highwater, _, opened, floor, -, -, batches, same⟩
  · rw [same]
    exact aged
  · rw [same]
    have top := sound.session highwater opened
    refine ⟨aged.running, ?_, ?_⟩
    · intro batch mem retired
      dsimp only at mem retired
      rw [batches, mem_concat] at mem
      rw [floor] at retired
      rcases mem with old | rfl
      · exact aged.below batch old retired
      · have within := sound.bounded.floor
        dsimp only at retired
        omega
    · intro plan known prunes batch mem retired
      dsimp only at mem
      rw [batches, mem_concat] at mem
      rcases mem with old | rfl
      · exact aged.planned plan known prunes batch old retired
      · have within := (sound.plan plan known).within prunes
        dsimp only at retired
        omega

end

theorem Ripe.later {clock : Option Time} {batch : HotBatch π} (ripe : Ripe setup clock batch)
    (now : Time) :
    Ripe setup (some (clock.elim now (max now))) batch := by
  obtain ⟨latest, rfl, old⟩ := ripe
  exact ⟨max now latest, rfl, old.trans (sub_le_sub_right (le_max_right now latest) _)⟩

theorem Aged.beginPass (aged : system.Aged setup) {freeBytes : ℕ}
    (undeceiving : system.hot.Undeceiving (now - setup.policy.hotKeep)) :
    (system.beginPass setup now freeBytes).Aged setup := by
  rcases beginPass_cases setup system now freeBytes with
    same | ⟨_, _, ended, next, same⟩
  · rw [same]
    exact aged
  · rw [same]
    have clocked :
        ({ system with
          clock := some (system.clock.elim now (max now)) } : System π).Aged setup := by
      refine ⟨?_, ?_, ?_⟩
      · intro found running
        dsimp only at running
        rw [ended] at running
        cases running
      · intro batch mem retired
        exact (aged.below batch mem retired).later now
      · intro plan known prunes batch mem retired
        exact (aged.planned plan known prunes batch mem retired).later now
    have started : now ≤ system.clock.elim now (max now) := by
      cases system.clock with
      | none => exact le_rfl
      | some latest => exact le_max_left now latest
    refine ⟨?_, clocked.below, clocked.replanned _ rfl rfl started undeceiving next⟩
    intro found known
    rw [clock?_of_replanned next known]
    exact ⟨_, rfl, started⟩

theorem Aged.unchanged (aged : system.Aged setup)
    (unchanged : system.Unchanged after) : after.Aged setup := by
  obtain ⟨batches, floor, -, -, pass, clock⟩ := unchanged
  refine ⟨?_, ?_, ?_⟩
  · rw [pass, clock]
    exact aged.running
  · rw [batches, floor, clock]
    exact aged.below
  · rw [batches, pass, clock]
    exact aged.planned

theorem aged_initial : (initial : System π).Aged setup :=
  ⟨(fun _ none => nomatch none), (fun _ none => nomatch none), fun _ none => nomatch none⟩

variable [DecidableEq π]

theorem Aged.apply (aged : system.Aged setup) (sound : system.Sound setup)
    (undeceived : system.Undeceived setup event) :
    (system.apply setup event).Aged setup := by
  rcases apply_cases setup system event with
    unchanged | ⟨receivedAt, pageBytes, payload, rfl⟩ | ⟨now, freeBytes, rfl⟩ | ⟨env, rfl⟩ | rfl
  · exact aged.unchanged unchanged
  · exact aged.commitBatch sound receivedAt pageBytes payload
  · exact aged.beginPass undeceived
  · exact aged.move sound undeceived (advance_move env)
  · exact ⟨(fun _ none => nomatch none), aged.below, fun _ none => nomatch none⟩

theorem Run.aged (run : Run setup (Undeceived setup) system) : system.Aged setup := by
  have both : system.Sound setup ∧ system.Aged setup := by
    refine run.invariant (motive := fun state => state.Sound setup ∧ state.Aged setup)
      ⟨sound_initial, aged_initial⟩ ?_
    rintro _ event _ ⟨sound, aged⟩ undeceived rfl
    exact ⟨sound.apply event, aged.apply sound undeceived⟩
  exact both.2

/-- The boundary of the hot window has only old batches below it exactly when
the receive times do not deceive the bisection, and a pass deletes only old
batches in every run that plans on caches of this kind. -/
theorem retention_keeps_young_batches (setup : Setup) :
    (∀ (files : HotFiles π) (cutoff : Time) (head boundary : ℕ),
      files.lastSequence = .ok head →
        files.hotBoundary cutoff = .ok boundary →
          ((∀ batch ∈ files.batches, files.floor < batch.sequence →
              batch.sequence ≤ boundary → batch.receivedAt ≤ cutoff) ↔
            ¬ files.Deceptive cutoff head)) ∧
      ∀ system : System π, Run setup (Undeceived setup) system →
        ∀ event, ∀ batch ∈ system.hot.batches, batch ∉ (system.apply setup event).hot.batches →
          ∃ latest, system.clock = some latest ∧
            batch.receivedAt ≤ latest - setup.policy.hotKeep := by
  constructor
  · intro files cutoff head boundary read found
    exact HotFiles.allOld_hotBoundary_iff read found
  · intro system run event batch member deleted
    have below := run.sound.deleted member deleted
    exact run.aged.below batch member below

/-! ## A deceived pass -/

def windowSetup : Setup where
  policy :=
    { reserveFreeBytes := 0, hotKeep := 5, coldKeep := 0, coldMaxBytes := 100,
      archiveRequired := true, verifySegments := true }
  archiveState := true

/-- A young batch comes in behind the first one, and older ones after it. -/
def deceivingBatches : List (Event ℕ) :=
  [.openSession, .commitBatch 1 1 11, .commitBatch 9 1 12, .commitBatch 3 1 13,
    .commitBatch 4 1 14, .commitBatch 9 1 15, .publishHead, .writeStatus, .closeSession]

/-- A pass compacts and retires the first four batches. -/
def deceivedPass : List (Event ℕ) :=
  [.initializeArchive, .archive false true, .beginPass 10 0] ++
    List.replicate 10 (.advance sampleEnv)

/-- The boundary lies behind a young batch, and the pass deletes it. -/
theorem retention_deletes_young_batch : (∃ files : HotFiles ℕ, files.hotBoundary 5 = .ok 4 ∧
    ∃ batch ∈ files.batches, files.floor < batch.sequence ∧
      batch.sequence ≤ 4 ∧ 5 < batch.receivedAt) ∧
    ∃ system : System ℕ, Run windowSetup (fun _ _ => True) system ∧
      ∃ event, ∃ batch ∈ system.hot.batches,
        batch ∉ (system.apply windowSetup event).hot.batches ∧ system.clock = some 10 ∧
          10 - windowSetup.policy.hotKeep < batch.receivedAt :=
  ⟨⟨(deceivingBatches.foldl (apply windowSetup) initial).hot, by decide +kernel, by decide +kernel⟩,
    _, reaches_foldl (fun _ _ => trivial) initial (deceivingBatches ++ deceivedPass),
    .advance sampleEnv, ⟨2, 9, 1, 12, true⟩, by decide +kernel,
    by decide +kernel, by decide +kernel, by decide +kernel⟩

/-- The receive times of the first pass are in order. -/
theorem retention_keeps_young_batches_sample :
    ∃ system : System ℕ, Run sampleSetup (Undeceived sampleSetup) system ∧
      (⟨1, 1, 1, 11, true⟩ : HotBatch ℕ) ∈ system.hot.batches ∧
      ⟨1, 1, 1, 11, true⟩ ∉ (system.apply sampleSetup (.advance sampleEnv)).hot.batches ∧
      ∃ latest, system.clock = some latest ∧ (1 : Time) ≤ latest - sampleSetup.policy.hotKeep :=
  ⟨_, reaches_applyAllowed initial sampleEvents, by decide +kernel, by decide +kernel,
    (retention_keeps_young_batches sampleSetup).2 _
      (reaches_applyAllowed initial sampleEvents) (.advance sampleEnv)
      ⟨1, 1, 1, 11, true⟩ (by decide +kernel) (by decide +kernel)⟩

end System

end RQuant.L2
