import RQuant.L2.Retained

/-!
# What backs a deletion

As long as no segment leaves the manifest while a directory in its range is
there, every directory that a pass deletes is in a verified segment.  An
interrupted prune leaves directories behind whose segments are evicted first.
-/

namespace RQuant.L2

open Foundation PassState HotFiles
open List hiding after next count minimum

namespace ColdFiles

variable {π : Type} {cold : ColdFiles π} {file : SegmentFile π}

theorem segment?_isSome (mem : file ∈ cold.segments) : (cold.segment? file.name).isSome = true := by
  unfold segment?
  rw [Option.isSome_iff_ne_none]
  intro absent
  exact findKey_eq_none.mp absent (mem_map_of_mem mem)

/-- A verified entry is kept with its file when neither is dropped. -/
theorem Holds.mono {other : ColdFiles π} {sequence : ℕ} {payload : π}
    (holds : cold.Holds sequence payload)
    (entries : ∀ entry ∈ cold.manifest, entry.file.Covers sequence →
      (∃ file ∈ cold.segments, file.name = entry.file) → entry ∈ other.manifest)
    (files : ∀ file ∈ cold.segments,
      (∃ entry ∈ cold.manifest, entry.file = file.name) → file ∈ other.segments) :
    other.Holds sequence payload := by
  obtain ⟨entry, listed, verified, covers, file, stored, named, read⟩ := holds
  exact ⟨entry, entries entry listed covers ⟨file, stored, named⟩, verified,
    covers, file, files file stored ⟨entry, listed, named.symm⟩, named, read⟩

theorem payloadAt_of_verifySegment [DecidableEq π] (verified : verifySegment hot file = .ok ())
    (mem : batch ∈ hot.batches) (covers : file.name.Covers batch.sequence)
    (full : file.name.last < file.name.first + file.payloads.length) :
    file.payloadAt batch.sequence = some batch.payload := by
  obtain ⟨above, _⟩ := covers
  have inside : batch.sequence - file.name.first < file.payloads.length := by
    omega
  have listed :
      (file.payloads.get ⟨_, inside⟩, batch.sequence) ∈ file.payloads.zipIdx file.name.first := by
    rw [mk_mem_zipIdx_iff_le_and_getElem?_sub]
    exact ⟨above, getElem?_eq_getElem inside⟩
  have checked := forM_eq_ok.mp verified _ listed
  simp only [run_eq_ok, batchAt_of_mem mem] at checked
  unfold SegmentFile.payloadAt
  rw [if_pos above, getElem?_eq_getElem inside]
  exact congrArg some checked.2

end ColdFiles

/-- How the cold store stands to the directories that are left. -/
structure Backed {π : Type} (hot : HotFiles π) (cold : ColdFiles π) (count : ℕ) : Prop where
  /-- Whatever is left below the floor is in a verified segment. -/
  below :
    ∀ batch ∈ hot.batches, batch.sequence ≤ hot.floor → cold.Holds batch.sequence batch.payload
  /-- Verified segments hold what the directories hold. -/
  faithful : ∀ entry ∈ cold.manifest, entry.verifiedAt.isSome = true →
    ∀ batch ∈ hot.batches, entry.file.Covers batch.sequence →
      ∃ file ∈ cold.segments, file.name = entry.file ∧
        file.payloadAt batch.sequence = some batch.payload
  bounded : ∀ entry ∈ cold.manifest, entry.file.last ≤ count

/-- Every directory left stands for one that was there. -/
def HotFiles.Thins {π : Type} (other hot : HotFiles π) : Prop :=
  ∀ batch ∈ other.batches, ∃ old ∈ hot.batches,
    batch.sequence = old.sequence ∧ batch.payload = old.payload

def ColdFiles.HoldsThrough {π : Type} (cold : ColdFiles π) (bound : ℕ) (hot : HotFiles π) : Prop :=
  ∀ batch ∈ hot.batches, batch.sequence ≤ bound → cold.Holds batch.sequence batch.payload

variable {bound : ℕ}

theorem ColdFiles.HoldsThrough.thins {π : Type} {hot other : HotFiles π} {cold : ColdFiles π}
    (holds : cold.HoldsThrough bound hot) (fewer : other.Thins hot) :
    cold.HoldsThrough bound other := by
  intro batch mem retired
  obtain ⟨old, oldMem, sameSequence, samePayload⟩ := fewer batch mem
  rw [sameSequence] at retired ⊢
  rw [samePayload]
  exact holds old oldMem retired

namespace Backed

variable {π : Type} {hot : HotFiles π} {cold : ColdFiles π} {count : ℕ}

/-- A change of the cold store that adds no entry, keeps the entries of the
directories that are left, and keeps the listed files. -/
theorem withCold (backed : Backed hot cold count) {other : ColdFiles π}
    (fewer : ∀ entry ∈ other.manifest, entry ∈ cold.manifest)
    (entries : ∀ entry ∈ cold.manifest, ∀ batch ∈ hot.batches, entry.file.Covers batch.sequence →
      (∃ file ∈ cold.segments, file.name = entry.file) → entry ∈ other.manifest)
    (files : ∀ file ∈ cold.segments,
      (∃ entry ∈ cold.manifest, entry.file = file.name) → file ∈ other.segments) :
    Backed hot other count where
  below := fun batch mem retired =>
    (backed.below batch mem retired).mono
      (fun entry listed covers stored => entries entry listed batch mem covers stored)
      files
  faithful := by
    intro entry listed verified batch mem covers
    obtain ⟨file, stored, named, read⟩ :=
      backed.faithful entry (fewer entry listed) verified batch mem covers
    exact ⟨file, files file stored ⟨entry, fewer entry listed, named.symm⟩, named, read⟩
  bounded := fun entry listed => backed.bounded entry (fewer entry listed)

variable {other : HotFiles π} {batch : HotBatch π}

/-- Directories may go, and the floor may rise over those that are held. -/
theorem withHot (backed : Backed hot cold count) (fewer : other.Thins hot)
    (below : cold.HoldsThrough other.floor hot) : Backed other cold count where
  below := below.thins fewer
  faithful := by
    intro entry listed verified batch mem covers
    obtain ⟨old, oldMem, sameSequence, samePayload⟩ := fewer batch mem
    rw [sameSequence] at covers ⊢
    rw [samePayload]
    exact backed.faithful entry listed verified old oldMem covers
  bounded := backed.bounded

theorem commit (backed : Backed hot cold count) (floor : other.floor = hot.floor)
    (within : hot.floor ≤ count) (newest : batch.sequence = count + 1)
    (appended : other.batches = hot.batches ++ [batch]) :
    Backed other cold (count + 1) where
  below := by
    intro found mem retired
    rw [appended, mem_concat] at mem
    rcases mem with old | rfl
    · exact backed.below found old (floor ▸ retired)
    · omega
  faithful := by
    intro entry listed verified found mem covers
    rw [appended, mem_concat] at mem
    rcases mem with old | rfl
    · exact backed.faithful entry listed verified found old covers
    · have bound := backed.bounded entry listed
      have reached := covers.2
      omega
  bounded := fun entry listed => (backed.bounded entry listed).trans (Nat.le_succ count)

theorem holds_of_plan (backed : Backed hot cold count)
    (planned : planRetention policy around hot cold = .ok plan) (mem : batch ∈ hot.batches)
    (retired : batch.sequence ≤ plan.pruneThrough) :
    cold.Holds batch.sequence batch.payload := by
  by_cases below : batch.sequence ≤ hot.floor
  · exact backed.below batch mem below
  · obtain ⟨entry, listed, verified, covers⟩ :=
      (retires_of_planRetention planned).covered batch.sequence (not_le.mp below) retired
    have inManifest : entry ∈ cold.manifest := mem_of_mem_filter listed
    obtain ⟨file, stored, named, read⟩ := backed.faithful entry inManifest verified batch mem covers
    exact ⟨entry, inManifest, verified, covers, file, stored, named, read⟩

end Backed

structure PassState.Backed {π : Type} (pass : PassState π) (hot : HotFiles π)
    (cold : ColdFiles π) (count : ℕ) : Prop where
  planned : ∀ plan, pass.plan? = some plan → plan.pruneHot = true →
    ∀ batch ∈ hot.batches, batch.sequence ≤ plan.pruneThrough →
      cold.Holds batch.sequence batch.payload
  unlinked : ∀ name ∈ pass.unlinked, ∀ entry ∈ cold.manifest, entry.file ≠ name
  stop : ∀ stop, pass.stop? = some stop → stop ≤ count
  file : ∀ file, pass.file? = some file →
    file ∈ cold.segments ∧ file.name.last ≤ count ∧
      file.name.last < file.name.first + file.payloads.length

namespace PassState

variable {π : Type} {hot : HotFiles π} {cold : ColdFiles π} {count : ℕ}

theorem backed_ended (failure : Option PassError) :
    (ended failure : PassState π).Backed hot cold count where
  planned := fun _ none => nomatch none
  unlinked := fun _ none => nomatch none
  stop := fun _ none => nomatch none
  file := fun _ none => nomatch none

variable {pass : PassState π}

/-- Until it touches the cold store, a pass relies on its plan only. -/
theorem backed_of_plan (unlinked : pass.unlinked = [])
    (stop : pass.stop? = none) (file : pass.file? = none)
    (planned : ∀ plan, pass.plan? = some plan → plan.pruneHot = true →
      cold.HoldsThrough plan.pruneThrough hot) :
    pass.Backed hot cold count where
  planned := planned
  unlinked := by
    intro _ mem
    rw [unlinked] at mem
    cases mem
  stop := fun _ known => nomatch stop.symm.trans known
  file := fun _ known => nomatch file.symm.trans known

theorem Backed.fewer (backed : pass.Backed hot cold count)
    (fewer : other.Thins hot) (plan : RetentionPlan) (known : pass.plan? = some plan)
    (prunes : plan.pruneHot = true) : cold.HoldsThrough plan.pruneThrough other :=
  ColdFiles.HoldsThrough.thins (backed.planned plan known prunes) fewer

theorem backed_of_stop (plan : pass.plan? = none)
    (unlinked : pass.unlinked = []) (file : pass.file? = none)
    (stop : ∀ stop, pass.stop? = some stop → stop ≤ count) :
    pass.Backed hot cold count where
  planned := fun _ known => nomatch plan.symm.trans known
  unlinked := by
    intro _ mem
    rw [unlinked] at mem
    cases mem
  stop := stop
  file := fun _ known => nomatch file.symm.trans known

end PassState

namespace System

variable {π : Type} {setup : Setup} {system : System π}

/-- The directories that a pass deletes, or will delete, are held by verified
segments. -/
structure Covered (system : System π) : Prop where
  files : Backed system.hot system.cold system.committed.length
  pass : system.pass.Backed system.hot system.cold system.committed.length

/-- The segments of an eviction have no directory left. -/
def EvictsRetired (system : System π) (plan : RetentionPlan) : Prop :=
  ∀ eviction ∈ plan.coldEviction, ∀ name ∈ eviction.files,
    ∀ batch ∈ system.hot.batches, ¬ name.Covers batch.sequence
deriving Decidable

/-- No segment leaves the manifest while a directory in its range is there. -/
def Tidy (system : System π) : Event π → Prop
  | .advance _ =>
    match system.pass with
    | .ready _ .evictFirst plan => system.EvictsRetired plan
    | .ready _ .evictLast plan => system.EvictsRetired plan
    | _ => True
  | _ => True

instance (event : Event π) : Decidable (system.Tidy event) := by
  unfold Tidy
  split
  · split <;> infer_instance
  · infer_instance

variable {now : Time} {next : System π} {event : Event π} {batch : HotBatch π}

theorem backed_of_replanned (system : System π)
    (backed : Backed system.hot system.cold system.committed.length) {pass : PassState π}
    (next : Replanned setup system now pass) :
    pass.Backed system.hot system.cold system.committed.length := by
  cases next with
  | ended failure => exact backed_ended failure
  | ready planned =>
    refine backed_of_plan rfl rfl rfl ?_
    intro _ known _ _ mem retired
    cases known
    exact backed.holds_of_plan planned mem retired

section

variable (covered : system.Covered)

include covered

/-- The segment that a compaction lists was compared with the directories. -/
theorem Covered.published [DecidableEq π] {stop : ℕ}
    {file : SegmentFile π} {entry : SegmentEntry} {cold : ColdFiles π}
    (reached : system.pass = .written now stop file) (named : entry.file = file.name)
    (verified : entry.verifiedAt.isSome = true → ColdFiles.verifySegment system.hot file = .ok ())
    (appended : system.cold.appendManifest entry = .ok cold) :
    ({ system with cold, pass := .writing now file.name.last stop } : System π).Covered := by
  have relies := covered.pass
  rw [reached] at relies
  obtain ⟨stored, within, full⟩ := relies.file file rfl
  unfold ColdFiles.appendManifest at appended
  simp only [run_eq_ok] at appended
  obtain ⟨_, -, rfl⟩ := appended
  refine ⟨⟨?_, ?_, ?_⟩, backed_of_stop rfl rfl rfl relies.stop⟩
  · intro batch mem retired
    refine (covered.files.below batch mem retired).mono ?_ fun _ kept _ => kept
    intro old listed _ _
    exact mem_sortOn.mpr (mem_append_left _ listed)
  · intro found listed isVerified batch mem covers
    rw [mem_sortOn, mem_concat] at listed
    rcases listed with old | rfl
    · exact covered.files.faithful found old isVerified batch mem covers
    · rw [named] at covers
      exact ⟨file, stored, named.symm,
        ColdFiles.payloadAt_of_verifySegment (verified isVerified) mem covers full⟩
  · intro found listed
    rw [mem_sortOn, mem_concat] at listed
    rcases listed with old | rfl
    · exact covered.files.bounded found old
    · rw [named]
      exact within

/-- A step keeps what a pass deletes in verified segments, if evictions leave no directory
behind. -/
theorem Covered.move (sound : system.Sound setup)
    (tidy : ∀ {now stage plan}, system.pass = .ready now stage plan →
      stage = .evictFirst ∨ stage = .evictLast → system.EvictsRetired plan)
    (move : PassMove setup system next) : next.Covered := by
  have files := covered.files
  have relies := covered.pass
  cases move with
  | idle => exact covered
  | replanned running replanned => exact ⟨files, backed_of_replanned system files replanned⟩
  | kept stage running known =>
    refine ⟨files, backed_of_plan rfl rfl rfl ?_⟩
    intro plan same
    cases same
    exact relies.planned _ known
  | @evicted now stage next plan eviction cold entered evicts chosen shorter =>
    unfold ColdFiles.withoutSegments at shorter
    rw [Option.ite_none_right_eq_some] at shorter
    obtain ⟨-, isShorter⟩ := shorter
    cases isShorter
    refine ⟨files.withCold ?_ ?_ fun _ stored _ => stored, ?_⟩
    · intro entry listed
      exact mem_of_mem_filter listed
    · intro entry listed batch mem covers _
      refine mem_filter.mpr ⟨listed, decide_eq_true ?_⟩
      intro evicted
      exact tidy entered evicts eviction chosen entry.file evicted batch mem covers
    · refine ⟨by rintro _ ⟨⟩, ?_, by rintro _ ⟨⟩, by rintro _ ⟨⟩⟩
      intro name evicted entry listed same
      have kept := of_decide_eq_true (mem_filter.mp listed).2
      exact kept (same ▸ evicted)
  | @unlinked now next name rest reached =>
    rw [reached] at relies
    refine ⟨files.withCold (fun _ listed => listed) (fun _ listed _ _ _ _ => listed) ?_, ?_⟩
    · rintro file stored ⟨entry, listed, named⟩
      refine mem_filter.mpr ⟨stored, decide_eq_true ?_⟩
      rw [← named]
      exact relies.unlinked name mem_cons_self entry listed
    · exact
        { planned := by rintro _ ⟨⟩
          unlinked := fun other mem => relies.unlinked other (mem_cons_of_mem _ mem)
          stop := by rintro _ ⟨⟩
          file := by rintro _ ⟨⟩ }
  | @retired now stage plan through second entered free bound =>
    rw [entered] at relies
    have held := relies.planned plan rfl
    refine ⟨files.withHot (fun batch mem => ⟨batch, mem, rfl, rfl⟩) ?_, ?_⟩
    · intro batch mem below
      by_cases old : batch.sequence ≤ system.hot.floor
      · exact files.below batch mem old
      · rcases bound with rfl | ⟨prunes, rfl⟩
        · have floor := (sound.plan plan (by rw [entered]; rfl)).floor
          dsimp only at below
          omega
        · refine held prunes batch mem ?_
          dsimp only at below
          omega
    · exact backed_of_plan rfl rfl rfl relies.planned
  | skipped reached =>
    rw [reached] at relies
    exact ⟨files, backed_of_plan rfl rfl rfl relies.planned⟩
  | @damaged now second plan target head sequence entries deleted reached _ =>
    rw [reached] at relies
    have fewer : (system.hot.damage sequence).Thins system.hot := by
      intro batch mem
      obtain ⟨old, oldMem, sameSequence, -, samePayload⟩ := mem_damage mem
      exact ⟨old, oldMem, sameSequence, samePayload⟩
    exact ⟨files.withHot fewer files.below, backed_of_plan rfl rfl rfl (relies.fewer fewer)⟩
  | @removed now second plan target head sequence entries deleted reached =>
    rw [reached] at relies
    have fewer : (system.hot.remove sequence).Thins system.hot :=
      fun batch mem => ⟨batch, (mem_remove.mp mem).1, rfl, rfl⟩
    exact ⟨files.withHot fewer files.below, backed_of_plan rfl rfl rfl (relies.fewer fewer)⟩
  | locked start entered read within next =>
    have bound := within.trans (sound.bounded.lastSequence read)
    refine ⟨files.withCold (fun _ listed => mem_of_mem_filter listed)
      ?_ fun _ stored _ => stored, ?_⟩
    · rintro entry listed batch mem covers ⟨file, stored, named⟩
      refine mem_filter.mpr ⟨listed, ?_⟩
      rw [← named]
      exact ColdFiles.segment?_isSome stored
    · rcases next with ⟨failure, rfl⟩ | rfl
      · exact backed_ended failure
      · refine backed_of_stop rfl rfl rfl ?_
        intro stop known
        cases known
        exact bound
  | cleaned reached next =>
    rw [reached] at relies
    have cleaned : Backed system.hot system.cold.cleanupOrphans system.committed.length := by
      refine files.withCold (fun _ listed => listed) (fun _ listed _ _ _ _ => listed) ?_
      rintro file stored ⟨entry, listed, named⟩
      refine mem_filter.mpr ⟨stored, any_eq_true.mpr ?_⟩
      exact ⟨entry, listed, decide_eq_true named⟩
    refine ⟨cleaned, ?_⟩
    rcases next with replanned | rfl
    · exact backed_of_replanned { system with cold := system.cold.cleanupOrphans } cleaned replanned
    · exact backed_of_stop rfl rfl rfl relies.stop
  | @written now start stop file cold reached first last within wrote =>
    rw [reached] at relies
    have bound := relies.stop stop rfl
    unfold ColdFiles.writeSegment at wrote
    simp only [run_eq_ok] at wrote
    obtain ⟨_, -, rfl⟩ := wrote
    refine ⟨files.withCold (fun _ listed => listed) (fun _ listed _ _ _ _ => listed)
      (fun _ stored _ => mem_append_left _ stored), ?_⟩
    refine ⟨by rintro _ ⟨⟩, by rintro _ ⟨⟩, ?_, ?_⟩
    · intro other known
      cases known
      exact bound
    · intro other known
      cases known
      exact ⟨mem_concat_self, within.trans bound, by omega⟩
  | published reached named verified appended =>
    exact covered.published reached named verified appended

/-! ## The other events -/

theorem Covered.unchanged (unchanged : system.Unchanged after) : after.Covered := by
  have fewer : after.hot.Thins system.hot := by
    unfold HotFiles.Thins
    rw [unchanged.batches]
    exact fun batch mem => ⟨batch, mem, rfl, rfl⟩
  have below : system.cold.HoldsThrough after.hot.floor system.hot := by
    rw [unchanged.floor]
    exact covered.files.below
  have files := covered.files.withHot fewer below
  have pass := covered.pass
  rw [← unchanged.cold, ← unchanged.committed] at files pass
  refine ⟨files, ?_⟩
  rw [unchanged.pass]
  exact ⟨pass.fewer fewer, pass.unlinked, pass.stop, pass.file⟩

theorem Covered.commitBatch (sound : system.Sound setup)
    (receivedAt : Time) (pageBytes : ℕ) (payload : π) :
    (system.commitBatch receivedAt pageBytes payload).Covered := by
  rcases system.commitBatch_cases receivedAt pageBytes payload with
    same | ⟨highwater, _, opened, floor, -, -, batches, same⟩
  · rw [same]
    exact covered
  · rw [same]
    have top := sound.session highwater opened
    have count : (system.committed ++ [highwater + 1]).length = system.committed.length + 1 := by
      simp
    refine ⟨?_, ?_, covered.pass.unlinked, ?_, ?_⟩
    · dsimp only
      rw [count]
      refine covered.files.commit floor sound.bounded.floor ?_ batches
      exact congrArg (· + 1) top
    · intro plan known prunes batch mem retired
      dsimp only at mem
      rw [batches, mem_concat] at mem
      rcases mem with old | rfl
      · exact covered.pass.planned plan known prunes batch old retired
      · -- A plan never reaches beyond what was committed.
        have within := (sound.plan plan known).within prunes
        dsimp only at retired
        omega
    · intro stop known
      have within := covered.pass.stop stop known
      dsimp only
      omega
    · intro file known
      obtain ⟨stored, within, full⟩ := covered.pass.file file known
      refine ⟨stored, ?_, full⟩
      dsimp only
      omega

theorem Covered.beginPass (now : Time) (freeBytes : ℕ) :
    (system.beginPass setup now freeBytes).Covered := by
  rcases beginPass_cases setup system now freeBytes with
    same | ⟨_, _, -, next, same⟩
  · rw [same]
    exact covered
  · rw [same]
    exact ⟨covered.files, backed_of_replanned
      { system with clock := some (system.clock.elim now (max now)) }
      covered.files next⟩

end

theorem covered_initial : (initial : System π).Covered :=
  ⟨⟨(fun _ none => nomatch none), (fun _ none => nomatch none), fun _ none => nomatch none⟩,
    backed_ended none⟩

variable [DecidableEq π]

theorem Covered.apply (covered : system.Covered) (sound : system.Sound setup)
    (tidy : system.Tidy event) : (system.apply setup event).Covered := by
  rcases apply_cases setup system event with
    unchanged | ⟨receivedAt, pageBytes, payload, rfl⟩ | ⟨now, freeBytes, rfl⟩ | ⟨env, rfl⟩ | rfl
  · exact covered.unchanged unchanged
  · exact covered.commitBatch sound receivedAt pageBytes payload
  · exact covered.beginPass now freeBytes
  · refine covered.move sound (fun entered evicts => ?_) (advance_move env)
    unfold Tidy at tidy
    rw [entered] at tidy
    rcases evicts with rfl | rfl <;> exact tidy
  · exact ⟨covered.files, backed_ended none⟩

theorem Run.covered (run : Run setup Tidy system) : system.Covered := by
  have both : system.Sound setup ∧ system.Covered := by
    refine run.invariant (motive := fun state => state.Sound setup ∧ state.Covered)
      ⟨sound_initial, covered_initial⟩ ?_
    rintro _ event _ ⟨sound, covered⟩ tidy rfl
    exact ⟨sound.apply event, covered.apply sound tidy⟩
  exact both.2

omit [DecidableEq π] in
theorem Sound.deleted_of_move (sound : system.Sound setup) (move : PassMove setup system next)
    (mem : batch ∈ system.hot.batches) (deleted : batch ∉ next.hot.batches) :
    batch.sequence ≤ system.hot.floor := by
  cases move with
  | @damaged now second plan target head sequence entries count reached within =>
    have below := sound.target target (by rw [reached]; rfl)
    by_cases named : batch.sequence = sequence
    · omega
    · exact absurd (mem_damage_of_ne mem named) deleted
  | @removed now second plan target head sequence entries count reached =>
    have below := sound.removed sequence (by rw [reached]; rfl)
    by_cases named : batch.sequence = sequence
    · omega
    · exact absurd (mem_remove.mpr ⟨mem, named⟩) deleted
  | _ => exact absurd mem deleted

/-- Only an operation of a pass changes a directory or takes it away, and it
does so at or below the floor. -/
theorem Sound.deleted (sound : system.Sound setup) (mem : batch ∈ system.hot.batches)
    (deleted : batch ∉ (system.apply setup event).hot.batches) :
    batch.sequence ≤ system.hot.floor := by
  rcases apply_cases setup system event with
    unchanged | ⟨receivedAt, pageBytes, payload, rfl⟩ | ⟨now, freeBytes, rfl⟩ | ⟨env, rfl⟩ | rfl
  · exact absurd (unchanged.batches ▸ mem) deleted
  · change batch ∉ (system.commitBatch receivedAt pageBytes payload).hot.batches at deleted
    rcases system.commitBatch_cases receivedAt pageBytes payload with
      same | ⟨_, hot, -, -, -, -, batches, same⟩
    · rw [same] at deleted
      exact absurd mem deleted
    · rw [same] at deleted
      dsimp only at deleted
      rw [batches] at deleted
      exact absurd (mem_append_left _ mem) deleted
  · change batch ∉ (system.beginPass setup now freeBytes).hot.batches at deleted
    rcases beginPass_cases setup system now freeBytes with
      same | ⟨_, _, -, -, same⟩ <;>
    · rw [same] at deleted
      exact absurd mem deleted
  · exact sound.deleted_of_move (advance_move env) mem deleted
  · exact absurd mem deleted

/-- Whatever was committed is in the hot cache or covered by a successful
receipt, in every run.  A directory that an event damages or removes is held by
a verified segment, in every run in which no segment leaves the manifest while
a directory in its range is there. -/
theorem retention_loses_nothing (setup : Setup) (required : setup.policy.archiveRequired = true) :
    (∀ system : System π, Run setup (fun _ _ => True) system →
      ∀ sequence ∈ system.committed,
        (∃ batch ∈ system.hot.batches, batch.sequence = sequence ∧ batch.intact = true) ∨
          Archived system.receipts sequence) ∧
      ∀ system : System π, Run setup Tidy system →
        ∀ event, ∀ batch ∈ system.hot.batches, batch ∉ (system.apply setup event).hot.batches →
          system.cold.Holds batch.sequence batch.payload := by
  constructor
  · intro system run sequence committed
    exact run.sound.kept required committed
  · intro system run event batch member deleted
    have below := run.sound.deleted member deleted
    exact run.covered.files.below batch member below

/-- Everything may be retired at once, and nothing may stay in the cold
store. -/
def sampleSetup : Setup where
  policy :=
    { reserveFreeBytes := 0, hotKeep := 0, coldKeep := 0, coldMaxBytes := 0,
      archiveRequired := true, verifySegments := true }
  archiveState := true

def sampleEnv : Env ℕ where
  freeBytes := 0
  batchFileLeft := true
  rotateAfter := 0
  digest := 0
  storedBytes := 1
  readBack := id
  verifiedAt := 0

/-- Three batches are archived.  The clock of the pass lies before the third, so
the first two are compacted and retired; the floor is published. -/
def sampleEvents : List (Event ℕ) :=
  [.openSession, .commitBatch 1 1 11, .commitBatch 2 1 12, .commitBatch 30 1 13,
    .publishHead, .writeStatus, .closeSession, .initializeArchive,
    .archive false true, .beginPass 10 0] ++
    replicate 8 (.advance sampleEnv)

/-- The pass crashes, and the next one evicts the segment before it cleans up. -/
def interruptedEvents : List (Event ℕ) :=
  sampleEvents ++ [.crash, .beginPass 10 0] ++ replicate 4 (.advance sampleEnv)

/-- A directory is deleted that no segment covers. -/
theorem retention_deletes_uncovered :
    ∃ system : System ℕ, Run sampleSetup (fun _ _ => True) system ∧
      ∃ event, ∃ batch ∈ system.hot.batches, batch ∉ (system.apply sampleSetup event).hot.batches ∧
        ∀ entry ∈ system.cold.manifest, ¬ entry.file.Covers batch.sequence :=
  ⟨_, reaches_foldl (fun _ _ => trivial) initial interruptedEvents,
    .advance sampleEnv, ⟨1, 1, 1, 11, true⟩, by decide +kernel,
    by decide +kernel, by decide +kernel⟩

/-- The pass that is not interrupted deletes what the segment holds. -/
theorem retention_loses_nothing_sample : ∃ system : System ℕ, Run sampleSetup Tidy system ∧
    (⟨1, 1, 1, 11, true⟩ : HotBatch ℕ) ∈ system.hot.batches ∧
    ⟨1, 1, 1, 11, true⟩ ∉ (system.apply sampleSetup (.advance sampleEnv)).hot.batches ∧
    system.cold.Holds 1 11 :=
  ⟨_, reaches_applyAllowed initial sampleEvents, by decide +kernel, by decide +kernel,
    (retention_loses_nothing sampleSetup rfl).2 _
      (reaches_applyAllowed initial sampleEvents) (.advance sampleEnv)
      ⟨1, 1, 1, 11, true⟩ (by decide +kernel) (by decide +kernel)⟩

/-- Batches are numbered without gaps, the cache holds every batch above its
floor undamaged, and no collector is at work while a pass prunes. -/
theorem cache_without_gaps (setup : Setup) (events : List (Event π)) :
    let system := events.foldl (apply setup) initial
    system.committed = range' 1 system.committed.length ∧
      (∀ sequence ∈ system.committed, system.hot.floor < sequence →
        ∃ batch ∈ system.hot.batches, batch.sequence = sequence ∧ batch.intact = true) ∧
      (∀ batch ∈ system.hot.batches, batch.sequence ∈ system.committed) ∧
      (system.pruningNow = true → system.session = none) := by
  intro system
  have run : Run setup (fun _ _ => True) system := reaches_foldl (fun _ _ => trivial) initial events
  have sound := run.sound
  refine ⟨sound.committed, ?_, ?_, sound.exclusive⟩
  · intro sequence mem above
    rw [sound.committed, mem_range'_1] at mem
    exact sound.present sequence above (by omega)
  · intro batch mem
    have within := sound.bounded.named batch mem
    rw [sound.committed, mem_range'_1]
    omega

end System

end RQuant.L2
