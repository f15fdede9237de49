import RQuant.Foundation.Bisect
import RQuant.L2.Cache

/-!
# The boundary of the hot window

`_hot_boundary` bisects the committed sequences for the last batch that is old
enough to be retired, samples four batches, and scans forward when a sample
speaks against the bisection.  Receive times need not be ordered.
-/

namespace RQuant.L2

open Foundation List

variable {fuel limit low : ℕ}

namespace HotFiles

variable {π : Type} (files : HotFiles π) (cutoff : Time)

/-- `received_us`, compared with the cutoff. -/
def isOld (sequence : ℕ) : Except CacheError Bool := do
  let page ← files.readBatches (sequence - 1) 1
  match page with
  | [] => .error .index
  | batch :: _ => pure (decide (batch.receivedAt ≤ cutoff))

def oldUpTo (floor boundary : ℕ) : Except CacheError Bool :=
  if floor + 1 ≤ boundary then do
    let first ← files.isOld cutoff (floor + 1)
    if first then files.isOld cutoff boundary else pure false
  else pure true

def youngAbove (boundary head : ℕ) : Except CacheError Bool :=
  if boundary < head then do
    let next ← files.isOld cutoff (boundary + 1)
    if next then pure false
    else do
      let last ← files.isOld cutoff head
      pure (!last)
  else pure true

/-- The forward scan, page by page.  Every page moves it forward, so that as
much fuel as there are batches is enough. -/
def scanForward (head : ℕ) : ℕ → ℕ → ℕ → Except CacheError ℕ
  | 0, _, lastOld => .ok lastOld
  | fuel + 1, sequence, lastOld =>
    if sequence ≤ head then do
      let page ← files.readBatches (sequence - 1) (min 512 (head - sequence + 1))
      match page.getLast? with
      | none => pure lastOld
      | some last =>
        match page.find? fun batch => cutoff < batch.receivedAt with
        | some young => pure (young.sequence - 1)
        | none => scanForward head fuel (last.sequence + 1) last.sequence
    else pure lastOld

def hotBoundary : Except CacheError ℕ := do
  let floor := files.floor
  let head ← files.lastSequence
  if head ≤ floor then pure floor
  else do
    let low ← bisect (files.isOld cutoff) (head - floor) (floor + 1) (head + 1)
    let boundary := low - 1
    let below ← files.oldUpTo cutoff floor boundary
    let above ← files.youngAbove cutoff boundary head
    if below && above then pure boundary
    else files.scanForward cutoff head (head - floor) (floor + 1) floor

def oldAt (sequence : ℕ) : Bool :=
  (files.batchAt sequence).any fun batch => batch.receivedAt ≤ cutoff

def probed (head : ℕ) : List ℕ :=
  bisectProbes (files.oldAt cutoff) (head - files.floor) (files.floor + 1) (head + 1)

/-- The bisection looks at an old batch behind a young one, and neither the
oldest nor the newest batch shows it. -/
def Deceptive (head : ℕ) : Prop :=
  files.oldAt cutoff (files.floor + 1) = true ∧
    (files.oldAt cutoff head = true →
      ∀ place ∈ files.probed cutoff head, files.oldAt cutoff place = true) ∧
    ∃ place ∈ files.probed cutoff head, files.oldAt cutoff place = true ∧
      ∃ batch ∈ files.batches,
        files.floor < batch.sequence ∧ batch.sequence < place ∧ cutoff < batch.receivedAt

variable {files cutoff}

theorem oldAt_of_mem (mem : batch ∈ files.batches) :
    files.oldAt cutoff batch.sequence = decide (batch.receivedAt ≤ cutoff) := by
  rw [oldAt, batchAt_of_mem mem, Option.any_some]

theorem readBatches_eq_ok (above : files.floor ≤ afterSequence)
    (read : files.readBatches afterSequence limit = .ok page) :
    page.map HotBatch.sequence = range' (afterSequence + 1) page.length ∧
      ∀ batch ∈ page, batch ∈ files.batches := by
  unfold readBatches at read
  simp only [run_eq_ok] at read
  obtain ⟨-, _, -, -, read⟩ := read
  rw [max_eq_left above] at read
  exact mem_readPage read

variable {sequence boundary head : ℕ} {answer : Bool}

theorem isOld_eq_ok (above : files.floor < sequence)
    (read : files.isOld cutoff sequence = .ok answer) :
    answer = files.oldAt cutoff sequence := by
  unfold isOld at read
  simp only [bind_eq_ok] at read
  obtain ⟨page, pageRead, answered⟩ := read
  obtain ⟨names, members⟩ := readBatches_eq_ok (by omega) pageRead
  cases page with
  | nil => cases answered
  | cons batch rest =>
    have named : batch.sequence = sequence := by
      have first : sequence - 1 + 1 = sequence := by omega
      rw [map_cons, length_cons, range'_succ, first] at names
      exact (cons.inj names).1
    cases answered
    rw [← named, oldAt_of_mem (members batch (by simp))]

theorem oldUpTo_eq_ok (above : files.floor < boundary)
    (read : files.oldUpTo cutoff files.floor boundary = .ok answer) :
    answer = (files.oldAt cutoff (files.floor + 1) && files.oldAt cutoff boundary) := by
  unfold oldUpTo at read
  rw [if_pos (by omega)] at read
  simp only [bind_eq_ok] at read
  obtain ⟨first, firstRead, rest⟩ := read
  rw [← isOld_eq_ok (by omega) firstRead]
  cases first with
  | false =>
    cases rest
    rfl
  | true => rw [isOld_eq_ok above rest, Bool.true_and]

theorem youngAbove_eq_ok (above : files.floor ≤ boundary) (below : boundary < head)
    (read : files.youngAbove cutoff boundary head = .ok answer) :
    answer = (!files.oldAt cutoff (boundary + 1) && !files.oldAt cutoff head) := by
  unfold youngAbove at read
  rw [if_pos below] at read
  simp only [bind_eq_ok] at read
  obtain ⟨next, nextRead, rest⟩ := read
  rw [← isOld_eq_ok (by omega) nextRead]
  cases next with
  | true =>
    cases rest
    rfl
  | false =>
    simp only [run_eq_ok, Bool.false_eq_true, if_false] at rest
    obtain ⟨_, lastRead, rfl⟩ := rest
    rw [isOld_eq_ok (by omega) lastRead, Bool.not_false, Bool.true_and]

def AllOld (files : HotFiles π) (cutoff : Time) (boundary : ℕ) : Prop :=
  ∀ batch ∈ files.batches, files.floor < batch.sequence →
    batch.sequence ≤ boundary → batch.receivedAt ≤ cutoff

/-- The forward scan stops before the first young batch: by induction on its fuel. -/
theorem allOld_of_scanForward (next : sequence = lastOld + 1) (above : files.floor ≤ lastOld)
    (soFar : files.AllOld cutoff lastOld)
    (scanned : files.scanForward cutoff head fuel sequence lastOld = .ok boundary) :
    files.AllOld cutoff boundary := by
  induction fuel generalizing sequence lastOld with
  | zero =>
    cases scanned
    exact soFar
  | succ fuel ih =>
    subst next
    unfold scanForward at scanned
    split at scanned
    case isFalse =>
      cases scanned
      exact soFar
    case isTrue =>
      simp only [bind_eq_ok, Nat.add_sub_cancel] at scanned
      obtain ⟨page, read, rest⟩ := scanned
      obtain ⟨names, members⟩ := readBatches_eq_ok above read
      -- a batch that is not in the page is not in its range
      have listed : ∀ batch ∈ files.batches, lastOld < batch.sequence →
          batch.sequence ≤ lastOld + page.length → batch ∈ page := by
        intro batch mem lower upper
        have named : batch.sequence ∈ page.map HotBatch.sequence := by
          rw [names, mem_range'_1]
          omega
        obtain ⟨other, otherMem, sameName⟩ := mem_map.mp named
        have same : other = batch := eq_of_key_eq files.unique (members other otherMem) mem sameName
        exact same ▸ otherMem
      have range :
          ∀ batch ∈ page, lastOld < batch.sequence ∧ batch.sequence ≤ lastOld + page.length := by
        intro batch mem
        have named := mem_map_of_mem (f := HotBatch.sequence) mem
        rw [names, mem_range'_1] at named
        omega
      have sorted : page.Pairwise fun left right => left.sequence < right.sequence := by
        rw [← pairwise_map, names]
        exact pairwise_lt_range'
      cases lastEq : page.getLast? with
      | none =>
        simp only [lastEq] at rest
        cases rest
        exact soFar
      | some last =>
        simp only [lastEq] at rest
        have lastName : last.sequence = lastOld + page.length := by
          have lastOfNames : (page.map HotBatch.sequence).getLast? = some last.sequence := by
            rw [getLast?_map, lastEq, Option.map_some]
          rw [names, getLast?_range'] at lastOfNames
          split at lastOfNames
          · cases lastOfNames
          · have same := Option.some_inj.mp lastOfNames
            omega
        cases youngEq : page.find? fun batch => cutoff < batch.receivedAt with
        | some young =>
          simp only [youngEq] at rest
          cases rest
          obtain ⟨_, _, _, split, oldBefore⟩ := find?_eq_some_iff_append.mp youngEq
          have youngName := range young (mem_of_find?_eq_some youngEq)
          rw [split, pairwise_append, pairwise_cons] at sorted
          intro batch mem lower upper
          by_cases seen : batch.sequence ≤ lastOld
          · exact soFar batch mem lower seen
          · have inPage := listed batch mem (by omega) (by omega)
            rw [split] at inPage
            rcases mem_append.mp inPage with inFront | fromYoung
            · simpa using oldBefore batch inFront
            · rcases mem_cons.mp fromYoung with rfl | isBehind
              · omega
              · have later := sorted.2.1.1 batch isBehind
                omega
        | none =>
          simp only [youngEq] at rest
          have oldPage := find?_eq_none.mp youngEq
          refine ih rfl (by omega) ?_ rest
          intro batch mem lower upper
          by_cases seen : batch.sequence ≤ lastOld
          · exact soFar batch mem lower seen
          · have inPage := listed batch mem (by omega) (by omega)
            simpa using oldPage batch inPage

/-- What the bisection leaves: below its end the batches it looked at are old,
from its end on they are young. -/
structure Bisected (files : HotFiles π) (cutoff : Time) (head low : ℕ) : Prop where
  above : files.floor + 1 ≤ low
  below : low ≤ head + 1
  old_iff : ∀ place ∈ files.probed cutoff head,
    files.floor < place ∧ place ≤ head ∧ (files.oldAt cutoff place = true ↔ place < low)
  left : low = files.floor + 1 ∨ low - 1 ∈ files.probed cutoff head
  right : low = head + 1 ∨ low ∈ files.probed cutoff head

namespace Bisected

theorem deceptive (bisected : files.Bisected cutoff head low)
    (firstOld : files.oldAt cutoff (files.floor + 1) = true)
    (lastYoung : low ≤ head → files.oldAt cutoff head = false)
    (mem : batch ∈ files.batches)
    (lower : files.floor < batch.sequence) (upper : batch.sequence < low)
    (young : cutoff < batch.receivedAt) :
    files.Deceptive cutoff head := by
  have visited : low - 1 ∈ files.probed cutoff head := by
    rcases bisected.left with _ | visited
    · omega
    · exact visited
  have lastOld := (bisected.old_iff _ visited).2.2.mpr (by omega)
  refine ⟨firstOld, ?_, low - 1, visited, lastOld, batch, mem, lower, ?_, young⟩
  · intro headOld place placeMem
    have reached : low = head + 1 := by
      by_contra short
      have below := bisected.below
      rw [lastYoung (by omega)] at headOld
      cases headOld
    obtain ⟨-, _, same⟩ := bisected.old_iff place placeMem
    exact same.mpr (by omega)
  · have different : batch.sequence ≠ low - 1 := by
      intro same
      rw [← same, oldAt_of_mem mem] at lastOld
      exact absurd (of_decide_eq_true lastOld) (not_le.mpr young)
    omega

theorem samples_of_deceptive (bisected : files.Bisected cutoff head low)
    (deceptive : files.Deceptive cutoff head) {below above : Bool}
    (belowRead : files.oldUpTo cutoff files.floor (low - 1) = .ok below)
    (aboveRead : files.youngAbove cutoff (low - 1) head = .ok above) :
    below = true ∧ above = true := by
  obtain ⟨firstOld, allOld, place, visited, placeOld, -⟩ := deceptive
  obtain ⟨_, -, same⟩ := bisected.old_iff place visited
  have passed := same.mp placeOld
  constructor
  · have lastOld : files.oldAt cutoff (low - 1) = true := by
      rcases bisected.left with _ | last
      · omega
      · exact (bisected.old_iff _ last).2.2.mpr (by omega)
    rw [oldUpTo_eq_ok (by omega) belowRead, firstOld, lastOld]
    rfl
  · by_cases short : low - 1 < head
    · have next : low ∈ files.probed cutoff head := by
        rcases bisected.right with _ | next
        · omega
        · exact next
      have nextYoung : files.oldAt cutoff low = false := by
        by_contra old
        have before := (bisected.old_iff low next).2.2.mp (by simpa using old)
        omega
      have headYoung : files.oldAt cutoff head = false := by
        by_contra old
        rw [allOld (by simpa using old) low next] at nextYoung
        cases nextYoung
      have following : low - 1 + 1 = low := by omega
      rw [youngAbove_eq_ok (by omega) short aboveRead, following, nextYoung, headYoung]
      rfl
    · unfold youngAbove at aboveRead
      rw [if_neg short] at aboveRead
      cases aboveRead
      rfl

end Bisected

/-- The boundary keeps every young batch above it exactly in the caches that do
not deceive the bisection. -/
theorem allOld_hotBoundary_iff (read : files.lastSequence = .ok head)
    (found : files.hotBoundary cutoff = .ok boundary) :
    files.AllOld cutoff boundary ↔ ¬ files.Deceptive cutoff head := by
  unfold hotBoundary at found
  simp only [read, ok_bind] at found
  by_cases nonempty : head ≤ files.floor
  · rw [if_pos nonempty] at found
    cases found
    constructor
    · rintro - ⟨-, -, place, visited, -⟩
      have none : head - files.floor = 0 := by omega
      rw [probed, none] at visited
      cases visited
    · intro _ batch _ lower upper
      omega
  · rw [if_neg nonempty] at found
    simp only [bind_eq_ok] at found
    obtain ⟨low, lowFound, below, belowRead, above, aboveRead, found⟩ := found
    have bisected : files.Bisected cutoff head low := by
      obtain ⟨above, below, places, left, right⟩ :=
        bisect_spec (fun lower => isOld_eq_ok lower) (by omega) (by omega) lowFound
      refine ⟨above, below, ?_, left, right⟩
      intro place mem
      obtain ⟨lower, _, same⟩ := places place mem
      exact ⟨lower, by omega, same⟩
    have start := bisected.above
    by_cases consistent : (below && above) = true
    · rw [if_pos consistent] at found
      cases found
      rw [Bool.and_eq_true] at consistent
      constructor
      · rintro allOld ⟨-, -, place, visited, placeOld, batch, mem, lower, upper, young⟩
        have passed := (bisected.old_iff place visited).2.2.mp placeOld
        exact absurd (allOld batch mem lower (by omega)) (not_le.mpr young)
      · intro honest batch mem lower upper
        by_contra notOld
        have young : cutoff < batch.receivedAt := not_le.mp notOld
        have belowOld := oldUpTo_eq_ok (by omega) belowRead
        rw [consistent.1, eq_comm, Bool.and_eq_true] at belowOld
        have lastYoung : low ≤ head → files.oldAt cutoff head = false := by
          intro _
          have aboveYoung := youngAbove_eq_ok (by omega) (by omega) aboveRead
          rw [consistent.2, eq_comm, Bool.and_eq_true] at aboveYoung
          simpa using aboveYoung.2
        exact honest (bisected.deceptive belowOld.1 lastYoung mem lower (by omega) young)
    · rw [if_neg consistent] at found
      have allOld : files.AllOld cutoff boundary := by
        refine allOld_of_scanForward rfl le_rfl ?_ found
        intro batch _ lower upper
        omega
      refine iff_of_true allOld ?_
      intro deceptive
      obtain ⟨rfl, rfl⟩ := bisected.samples_of_deceptive deceptive belowRead aboveRead
      exact consistent rfl

end HotFiles

end RQuant.L2
