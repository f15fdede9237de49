import RQuant.L2.Plan

/-!
# Cold eviction

The files that a plan gives up are taken oldest first, and no longer than a
demand is unmet.
-/

namespace RQuant.L2

open Foundation List

/-- The segments that a plan may give up, in the order in which it does. -/
def evictable (hotFloor : ℕ) (segments : List SegmentEntry) : List SegmentEntry :=
  sortOn
    (fun entry : SegmentEntry =>
      toLex (entry.file.first, toLex (entry.file.last, entry.file.digest)))
    (segments.filter fun entry => entry.verifiedAt.isSome && entry.file.last ≤ hotFloor)

/-- The bytes of the files, each by the first candidate of its name. -/
def freedBy (candidates : List SegmentEntry) (files : List SegmentName) : ℕ :=
  (files.dedup.map fun file =>
    (findKey SegmentEntry.file file candidates).elim 0 SegmentEntry.storedBytes).sum

/-- The reserve and the cap hold once so many bytes are freed. -/
def DemandsMet (policy : RetentionPolicy) (freeBytes incomingBytes : ℕ)
    (segments : List SegmentEntry) (freed : ℕ) : Prop :=
  policy.reserveFreeBytes + incomingBytes ≤ freeBytes + freed ∧
    (segments.map SegmentEntry.storedBytes).sum + incomingBytes ≤ policy.coldMaxBytes + freed
deriving Decidable

section Tiers

variable {satisfied : ℕ → Bool} {candidates rest aged verified : List SegmentEntry}
  {state : List SegmentName × ℕ}

/-- The files chosen so far: each once, their bytes counted, the last one
taken while a demand was unmet. -/
structure Needed (satisfied : ℕ → Bool) (candidates : List SegmentEntry)
    (state : List SegmentName × ℕ) : Prop where
  nodup : state.1.Nodup
  freed : state.2 = freedBy candidates state.1
  last : state.1 ≠ [] → satisfied (freedBy candidates state.1.dropLast) = false

theorem Needed.push (needed : Needed satisfied candidates state)
    (fresh : entry.file ∉ state.1) (unmet : satisfied state.2 = false)
    (found : findKey SegmentEntry.file entry.file candidates = some entry) :
    Needed satisfied candidates (state.1 ++ [entry.file], state.2 + entry.storedBytes) := by
  have nodup : (state.1 ++ [entry.file]).Nodup :=
    nodup_append.mpr ⟨needed.nodup, nodup_singleton _, by grind⟩
  refine ⟨nodup, ?_, fun _ => ?_⟩
  · rw [needed.freed, freedBy, freedBy, needed.nodup.dedup, nodup.dedup]
    simp [found]
  · rwa [dropLast_concat, ← needed.freed]

/-- What is not chosen is found in the rest of the tier as among the
candidates. -/
def Unseen (candidates rest : List SegmentEntry) (chosen : List SegmentName) : Prop :=
  ∀ file ∉ chosen, ∀ entry, findKey SegmentEntry.file file rest = some entry →
    findKey SegmentEntry.file file candidates = some entry

theorem Unseen.tail
    (unseen : Unseen candidates (entry :: rest) chosen) (kept : chosen ⊆ more)
    (taken : entry.file ∈ more) : Unseen candidates rest more := by
  intro file fresh other found
  refine unseen file (fun mem => fresh (kept mem)) other ?_
  rw [findKey, find?_cons_of_neg]
  · exact found
  · grind

theorem chooseTier_needed (needed : Needed satisfied candidates state)
    (unseen : Unseen candidates rest state.1) :
    Needed satisfied candidates (chooseTier satisfied rest state) := by
  induction rest generalizing state with
  | nil => exact needed
  | cons entry rest ih =>
    obtain ⟨chosen, freed⟩ := state
    simp only [chooseTier]
    split_ifs with known met
    · exact ih needed (unseen.tail (Subset.refl _) known)
    · exact needed
    · refine ih (needed.push known (by simpa using met) ?_)
        (unseen.tail (subset_append_left _ _) (by simp))
      exact unseen _ known _ (by simp [findKey])

/-- A tier adds files of its own, and all of them if a demand stays unmet. -/
theorem chooseTier_bounds : state.1 ⊆ (chooseTier satisfied rest state).1 ∧
    (chooseTier satisfied rest state).1 ⊆ state.1 ++ rest.map SegmentEntry.file ∧
      (satisfied (chooseTier satisfied rest state).2 = false →
        rest.map SegmentEntry.file ⊆ (chooseTier satisfied rest state).1) := by
  induction rest generalizing state with
  | nil => simp [chooseTier]
  | cons entry rest ih =>
    obtain ⟨chosen, freed⟩ := state
    simp only [chooseTier, map_cons]
    split_ifs with known met
    · obtain ⟨kept, own, all⟩ := @ih (chosen, freed)
      exact ⟨kept, by grind, fun unmet => cons_subset.mpr ⟨kept known, all unmet⟩⟩
    · exact ⟨Subset.refl _, subset_append_left _ _, fun unmet => by simp [met] at unmet⟩
    · obtain ⟨kept, own, all⟩ := @ih (chosen ++ [entry.file], freed + entry.storedBytes)
      exact ⟨by grind, by grind, fun unmet => by grind⟩

/-- Both tiers of `_plan_cold_eviction`. -/
def chooseTiers (satisfied : ℕ → Bool) (aged verified : List SegmentEntry) : List SegmentName × ℕ :=
  let first := chooseTier satisfied aged ([], 0)
  if satisfied first.2 then first else chooseTier satisfied verified first

/-- The choice of both tiers.  A file outside of the first one is taken only if
the whole of it does not meet the demands. -/
theorem chooseTiers_spec (sublist : aged ⊆ verified) :
    let chosen := chooseTiers satisfied aged verified
    Needed satisfied (aged ++ verified) chosen ∧
      chosen.1 ⊆ verified.map SegmentEntry.file ∧
      (satisfied chosen.2 = false → verified.map SegmentEntry.file ⊆ chosen.1) ∧
      ∀ file ∈ chosen.1, file ∉ aged.map SegmentEntry.file →
        satisfied (freedBy (aged ++ verified) (aged.map SegmentEntry.file)) = false := by
  have needed : Needed satisfied (aged ++ verified) (chooseTier satisfied aged ([], 0)) :=
    chooseTier_needed ⟨nodup_nil, rfl, fun chosen => absurd rfl chosen⟩
      fun _ _ _ found => findKey_append_of_some found
  obtain ⟨-, own, all⟩ := @chooseTier_bounds satisfied aged ([], 0)
  rw [nil_append] at own
  have old := Subset.trans own (map_subset SegmentEntry.file sublist)
  simp only [chooseTiers]
  split_ifs with met
  · exact ⟨needed, old, fun unmet => by simp [met] at unmet,
      fun file mem young => absurd (own mem) young⟩
  -- the first tier is used up, so what is new in the second is not aged
  have unmet := Bool.eq_false_of_not_eq_true met
  obtain ⟨-, own', all'⟩ :=
    @chooseTier_bounds satisfied verified (chooseTier satisfied aged ([], 0))
  refine ⟨chooseTier_needed needed fun file fresh entry found => ?_,
    Subset.trans own' (append_subset.mpr ⟨old, Subset.refl _⟩), all', fun _ _ _ => ?_⟩
  · have absent := findKey_eq_none.mpr fun mem => fresh (all unmet mem)
    unfold findKey at absent found ⊢
    rw [find?_append, absent, found, Option.none_or]
  · have same : (chooseTier satisfied aged ([], 0)).1.Perm (aged.map SegmentEntry.file).dedup :=
      (perm_ext_iff_of_nodup needed.nodup (nodup_dedup _)).mpr fun _ =>
        ⟨fun mem => mem_dedup.mpr (own mem), fun mem => all unmet (mem_dedup.mp mem)⟩
    rwa [needed.freed, freedBy, needed.nodup.dedup, (same.map _).sum_eq] at unmet

theorem chooseTiers_of_satisfied (met : satisfied 0 = true) :
    chooseTiers satisfied aged verified = ([], 0) := by
  have first : chooseTier satisfied aged ([], 0) = ([], 0) := by
    cases aged <;> simp [chooseTier, met]
  rw [chooseTiers, first]
  exact if_pos met

end Tiers

section

variable (policy : RetentionPolicy) (now : Time) (freeBytes incomingBytes hotFloor : ℕ)
  (segments : List SegmentEntry)

/-- The eligible segments past the cold window. -/
def agedOut : List SegmentEntry :=
  (evictable hotFloor segments).filter fun entry => entry.createdAt ≤ now - policy.coldKeep

/-- The files of a plan, which it chooses until both demands are met. -/
theorem planColdEviction_files : ∃ satisfied : ℕ → Bool,
    (∀ freed, satisfied freed = true ↔ DemandsMet policy freeBytes incomingBytes segments freed) ∧
    (planColdEviction policy now freeBytes incomingBytes hotFloor segments).elim []
        ColdEviction.files =
      (chooseTiers satisfied (agedOut policy now hotFloor segments)
        (evictable hotFloor segments)).1 := by
  unfold planColdEviction
  extract_lets verified aged projected mustEvict need satisfied first chosen
  refine ⟨satisfied, fun freed => ?_, ?_⟩
  · simp only [satisfied, mustEvict, need, projected, DemandsMet, Bool.and_eq_true,
      Bool.or_eq_true, decide_eq_true_eq, Bool.not_eq_true', decide_eq_false_iff_not]
    omega
  change _ = (chooseTiers satisfied aged verified).1
  by_cases empty : verified.isEmpty = true
  · have noAged : aged = [] := by simp [aged, isEmpty_iff.mp empty]
    have none : chooseTiers satisfied [] [] = ([], 0) := ite_self _
    rw [if_pos empty, noAged, isEmpty_iff.mp empty, none]
    rfl
  rw [if_neg empty]
  split_ifs with idle none
  · have met : satisfied 0 = true := by
      simp only [Bool.and_eq_true, decide_eq_true_eq] at idle
      simp [satisfied, idle]
    rw [chooseTiers_of_satisfied met]
    rfl
  · exact (isEmpty_iff.mp none).symm
  · rfl
  · rfl

/-- A plan gives up verified segments below the floor, young ones only if the
aged ones are not enough, none that it could keep, and all if it falls short. -/
theorem planColdEviction_minimal (files : List SegmentName)
    (planned : (planColdEviction policy now freeBytes incomingBytes hotFloor segments).elim []
      ColdEviction.files = files) :
    let eligible := evictable hotFloor segments
    let aged := agedOut policy now hotFloor segments
    let met := fun files =>
      DemandsMet policy freeBytes incomingBytes segments (freedBy (aged ++ eligible) files)
    (∀ file ∈ files, ∃ entry ∈ segments,
      entry.file = file ∧ entry.verifiedAt.isSome = true ∧ file.last ≤ hotFloor) ∧
    (∀ file ∈ files, file ∉ aged.map SegmentEntry.file → ¬ met (aged.map SegmentEntry.file)) ∧
    (files ≠ [] → ¬ met files.dropLast) ∧
    (¬ met files → ∀ entry ∈ eligible, entry.file ∈ files) := by
  intro eligible aged met
  obtain ⟨satisfied, satisfied_iff, chosen⟩ :=
    planColdEviction_files policy now freeBytes incomingBytes hotFloor segments
  rw [planned] at chosen
  change files = (chooseTiers satisfied aged eligible).1 at chosen
  have unmet (taken : List SegmentName) :
      ¬ met taken ↔ satisfied (freedBy (aged ++ eligible) taken) = false := by
    rw [← Bool.not_eq_true, satisfied_iff]
  have within : aged ⊆ eligible := filter_subset_self eligible
  obtain ⟨needed, listed, short, young⟩ := @chooseTiers_spec satisfied _ _ within
  simp only [unmet, chosen]
  refine ⟨fun file mem => ?_, young, needed.last, fun fails entry mem => ?_⟩
  · obtain ⟨entry, eligibleMem, rfl⟩ := List.mem_map.mp (listed mem)
    simp only [eligible, evictable, mem_sortOn, mem_filter, Bool.and_eq_true,
      decide_eq_true_eq] at eligibleMem
    exact ⟨entry, eligibleMem.1, rfl, eligibleMem.2⟩
  · rw [← needed.freed] at fails
    exact short fails (mem_map_of_mem mem)

end

/-- One segment past the cold window and two within it; the cap asks for more
than the first one. -/
def sampleSegments : List SegmentEntry :=
  [⟨⟨5, 8, 0⟩, 40, 90, some 0⟩, ⟨⟨1, 4, 0⟩, 30, 10, some 0⟩, ⟨⟨9, 12, 0⟩, 50, 95, some 0⟩]

/-- Two segments are dropped; the first alone would not do. -/
theorem planColdEviction_minimal_sample :
    let policy : RetentionPolicy := ⟨0, 10, 20, 60, false, false⟩
    (planColdEviction policy 100 0 0 12 sampleSegments).elim [] ColdEviction.files =
        [⟨1, 4, 0⟩, ⟨5, 8, 0⟩] ∧
      ¬ DemandsMet policy 0 0 sampleSegments
        (freedBy (agedOut policy 100 12 sampleSegments ++ evictable 12 sampleSegments)
          [⟨1, 4, 0⟩]) :=
  ⟨by decide +kernel,
    (planColdEviction_minimal ⟨0, 10, 20, 60, false, false⟩ 100 0 0 12 sampleSegments _ rfl).2.1
      ⟨5, 8, 0⟩ (by decide +kernel) (by decide +kernel)⟩

end RQuant.L2
