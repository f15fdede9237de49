import RQuant.Foundation.Checked
import Mathlib

/-!
# Tables

A table is a list of rows in insertion order.  Keys are functions of a row; a
unique key is enforced by the insertion, which raises when the key is taken.
Ordered reads are insertion sorts by a key.
-/

namespace RQuant.Foundation

open List

universe u

variable {ε : Type u} {α κ : Type}

section Keyed

variable {key : α → κ} {rows items : List α} {row : α} {keep : α → Bool} {value : κ} {β M : Type}
  {project : α → β} {change : α → α} {read : α → Option β} {keys : List κ}

theorem mem_concat {last : α} : row ∈ rows ++ [last] ↔ row ∈ rows ∨ row = last := by
  rw [mem_append, mem_singleton]

theorem forall_mem_concat {law : α → Prop} {last : α} :
    (∀ row ∈ rows ++ [last], law row) ↔ (∀ row ∈ rows, law row) ∧ law last := by
  rw [forall_mem_append, forall_mem_singleton]

theorem filter_of_none {holds : α → Prop} [DecidablePred holds]
    (none : ∀ row ∈ rows, ¬ holds row) : (rows.filter fun row => holds row) = [] := by
  simpa using none

theorem filter_append_of_none {holds : α → Prop} [DecidablePred holds]
    (none : ∀ item ∈ items, ¬ holds item) :
    ((rows ++ items).filter fun row => holds row) = rows.filter fun row => holds row := by
  rw [filter_append, filter_of_none none, append_nil]

theorem nodup_concat (unique : (rows.map key).Nodup) (fresh : key row ∉ rows.map key) :
    ((rows ++ [row]).map key).Nodup := by
  rw [map_append, map_singleton]
  exact nodup_append.mpr ⟨unique, nodup_singleton _, by
      intro _ oldMem _ newMem equal
      rw [mem_singleton] at newMem
      subst newMem
      exact fresh (equal ▸ oldMem)⟩

theorem eq_of_key_eq {left right : α} (unique : (rows.map key).Nodup)
    (leftMem : left ∈ rows) (rightMem : right ∈ rows) (sameKey : key left = key right) :
    left = right :=
  inj_on_of_nodup_map unique leftMem rightMem sameKey

theorem exists_split_of_key (unique : (rows.map key).Nodup) (mem : row ∈ rows) :
    ∃ left right, rows = left ++ row :: right ∧
      (∀ other ∈ left, key other ≠ key row) ∧ ∀ other ∈ right, key other ≠ key row := by
  obtain ⟨left, right, rfl⟩ := append_of_mem mem
  have apart := (perm_middle.map key).nodup_iff.mp unique
  rw [map_cons, nodup_cons] at apart
  refine ⟨left, right, rfl, ?_, ?_⟩ <;> intro other otherMem same <;>
    exact apart.1 (same ▸ mem_map_of_mem (by simp [otherMem]))

theorem filter_eq_singleton (unique : (rows.map key).Nodup)
    (mem : row ∈ rows) (kept : keep row = true)
    (only : ∀ other ∈ rows, keep other = true → key other = key row) :
    rows.filter keep = [row] := by
  obtain ⟨left, right, rfl, before, after⟩ := exists_split_of_key unique mem
  have leftDropped : left.filter keep = [] := filter_eq_nil_iff.mpr fun other otherMem shown =>
    before other otherMem (only other (by simp [otherMem]) shown)
  have rightDropped : right.filter keep = [] :=
    filter_eq_nil_iff.mpr fun other otherMem shown =>
      after other otherMem (only other (by simp [otherMem]) shown)
  rw [filter_append, filter_cons_of_pos kept, leftDropped, rightDropped, nil_append]

variable [DecidableEq κ] (key)

/-- Append a row, raising `error` when its key is taken. -/
def insertUnique (error : ε) (rows : List α) (row : α) : Except ε (List α) :=
  if key row ∈ rows.map key then .error error else .ok (rows ++ [row])

def findKey (value : κ) (rows : List α) : Option α := rows.find? fun row => decide (key row = value)

def updateKey (value : κ) (change : α → α) (rows : List α) : List α :=
  rows.map fun row => if key row = value then change row else row

/-- Replace the rows with a row's key by it, or append it without any. -/
def upsertKey (row : α) (rows : List α) : List α :=
  if key row ∈ rows.map key then updateKey key (key row) (fun _ => row) rows
  else rows ++ [row]

def updateEach (change : α → α → α) (items rows : List α) : List α :=
  items.foldl (fun current item => updateKey key (key item) (change item) current) rows

variable {key}

theorem insertUnique_eq_ok {error : ε} {result : List α} :
    insertUnique key error rows row = .ok result ↔
      key row ∉ rows.map key ∧ result = rows ++ [row] := by
  unfold insertUnique
  split <;> simp_all [eq_comm]

theorem mem_of_findKey (found : findKey key value rows = some row) :
    row ∈ rows ∧ key row = value := by
  refine ⟨mem_of_find?_eq_some found, ?_⟩
  simpa using find?_some found

theorem findKey_eq_none : findKey key value rows = none ↔ value ∉ rows.map key := by
  simp [findKey]

theorem findKey_of_mem (unique : (rows.map key).Nodup) (mem : row ∈ rows) :
    findKey key (key row) rows = some row := by
  cases found : findKey key (key row) rows with
  | none => exact absurd (mem_map_of_mem mem) (findKey_eq_none.mp found)
  | some other =>
    obtain ⟨otherMem, same⟩ := mem_of_findKey found
    rw [eq_of_key_eq unique otherMem mem same]

theorem findKey_eq_some (unique : (rows.map key).Nodup) :
    findKey key value rows = some row ↔ row ∈ rows ∧ key row = value := by
  constructor
  · exact mem_of_findKey
  · rintro ⟨mem, rfl⟩
    exact findKey_of_mem unique mem

theorem findKey_append_of_some {extra : List α} (found : findKey key value rows = some row) :
    findKey key value (rows ++ extra) = some row := by
  unfold findKey at found ⊢
  rw [find?_append, found, Option.some_or]

theorem findKey_map {other : β → κ} (kept : ∀ row, other (project row) = key row) :
    findKey other value (rows.map project) = (findKey key value rows).map project := by
  unfold findKey
  rw [find?_map]
  simp only [Function.comp_def, kept]

theorem filterMap_updateKey (kept : ∀ row ∈ rows, key row = value → read (change row) = read row) :
    (updateKey key value change rows).filterMap read = rows.filterMap read := by
  unfold updateKey
  rw [filterMap_map]
  apply filterMap_congr
  intro row mem
  by_cases matched : key row = value
  · simp [matched, kept row mem matched]
  · simp [matched]

theorem map_updateKey (kept : ∀ row ∈ rows, key row = value → project (change row) = project row) :
    (updateKey key value change rows).map project = rows.map project := by
  rw [← filterMap_eq_map, filterMap_updateKey fun row mem matched => ?_]
  exact congrArg some (kept row mem matched)

theorem filter_updateKey (kept : ∀ row, keep (change row) = keep row) :
    (updateKey key value change rows).filter keep =
      updateKey key value change (rows.filter keep) := by
  unfold updateKey
  rw [filter_map]
  congr 2
  funext row
  by_cases matched : key row = value <;> simp [matched, kept]

theorem mem_updateKey : row ∈ updateKey key value change rows ↔
    ∃ old ∈ rows, (key old = value ∧ row = change old) ∨ (key old ≠ value ∧ row = old) := by
  unfold updateKey
  rw [mem_map]
  constructor
  · rintro ⟨old, mem, rfl⟩
    refine ⟨old, mem, ?_⟩
    by_cases matched : key old = value <;> simp [matched]
  · rintro ⟨old, mem, ⟨matched, rfl⟩ | ⟨different, rfl⟩⟩
    · exact ⟨old, mem, by simp [matched]⟩
    · exact ⟨row, mem, by simp [different]⟩

theorem nodup_updateKey (unique : (rows.map project).Nodup)
    (kept : ∀ row, project (change row) = project row) :
    ((updateKey key value change rows).map project).Nodup := by
  rwa [map_updateKey fun row _ _ => kept row]

theorem forall_mem_updateKey {law : α → Prop} (all : ∀ row ∈ rows, law row)
    (changed : ∀ row ∈ rows, key row = value → law (change row)) :
    ∀ row ∈ updateKey key value change rows, law row := by
  intro row mem
  obtain ⟨old, oldMem, ⟨named, rfl⟩ | ⟨_, rfl⟩⟩ := mem_updateKey.mp mem
  · exact changed old oldMem named
  · exact all row oldMem

theorem findKey_updateKey_eq {other : κ} (kept : ∀ row, key (change row) = key row) :
    findKey key other (updateKey key value change rows) =
      (findKey key other rows).map fun row => if key row = value then change row else row := by
  refine findKey_map fun row => ?_
  by_cases same : key row = value <;> simp [same, kept]

theorem findKey_updateKey (kept : ∀ row, key (change row) = key row)
    (found : findKey key value rows = some row) :
    findKey key value (updateKey key value change rows) = some (change row) := by
  rw [findKey_updateKey_eq kept, found, Option.map_some, if_pos (mem_of_findKey found).2]

theorem findKey_updateKey_of_ne {other : κ} (kept : ∀ row, key (change row) = key row)
    (different : other ≠ value) :
    findKey key other (updateKey key value change rows) = findKey key other rows := by
  rw [findKey_updateKey_eq kept]
  cases found : findKey key other rows with
  | none => rfl
  | some row => rw [Option.map_some, if_neg ((mem_of_findKey found).2 ▸ different)]

theorem findKey_append_singleton_of_ne (different : key row ≠ value) :
    findKey key value (rows ++ [row]) = findKey key value rows := by
  unfold findKey
  rw [find?_append, find?_singleton]
  simp [different]

theorem findKey_append_singleton (fresh : key row ∉ rows.map key) :
    findKey key (key row) (rows ++ [row]) = some row := by
  have absent : findKey key (key row) rows = none := findKey_eq_none.mpr fresh
  unfold findKey at absent ⊢
  rw [find?_append, absent]
  simp

theorem mem_of_mem_upsertKey {item : α} (mem : item ∈ upsertKey key row rows) :
    item = row ∨ item ∈ rows := by
  unfold upsertKey at mem
  split at mem
  · obtain ⟨old, oldMem, ⟨-, rfl⟩ | ⟨-, rfl⟩⟩ := mem_updateKey.mp mem
    · exact .inl rfl
    · exact .inr oldMem
  · rcases mem_append.mp mem with old | new
    · exact .inr old
    · exact .inl (mem_singleton.mp new)

theorem findKey_upsertKey : findKey key value (upsertKey key row rows) =
    if key row = value then some row else findKey key value rows := by
  unfold upsertKey
  by_cases known : key row ∈ rows.map key
  · have sameKey : ∀ other, key (if key other = key row then row else other) = key other := by
      intro other
      split <;> simp_all
    rw [if_pos known, updateKey, findKey_map sameKey]
    cases found : findKey key value rows with
    | none =>
      have different : key row ≠ value := by
        rintro rfl
        exact findKey_eq_none.mp found known
      rw [if_neg different, Option.map_none]
    | some other =>
      obtain ⟨-, rfl⟩ := mem_of_findKey found
      by_cases same : key row = key other
      · simp [same]
      · simp [same, Ne.symm same]
  · rw [if_neg known]
    by_cases same : key row = value
    · rw [if_pos same, ← same, findKey_append_singleton known]
    · rw [if_neg same, findKey_append_singleton_of_ne same]

theorem updateKey_of_not_mem (absent : value ∉ rows.map key) :
    updateKey key value change rows = rows := by
  have same : ∀ row ∈ rows, (if key row = value then change row else row) = row := by
    rintro row mem
    refine if_neg ?_
    rintro rfl
    exact absent (mem_map_of_mem mem)
  unfold updateKey
  rw [map_congr_left same, map_id']

theorem filterMap_updateKey_perm {item : β} (unique : (rows.map key).Nodup) (mem : row ∈ rows)
    (unread : read row = none) (readable : read (change row) = some item) :
    ((updateKey key (key row) change rows).filterMap read).Perm
      (rows.filterMap read ++ [item]) := by
  obtain ⟨left, right, rfl, before, after⟩ := exists_split_of_key unique mem
  have leftKept : updateKey key (key row) change left = left :=
    updateKey_of_not_mem (by simpa using before)
  have rightKept : updateKey key (key row) change right = right :=
    updateKey_of_not_mem (by simpa using after)
  unfold updateKey at leftKept rightKept ⊢
  rw [map_append, map_cons, leftKept, rightKept, if_pos rfl, filterMap_append,
    filterMap_append, filterMap_cons_some readable, filterMap_cons_none unread]
  exact perm_middle.trans (perm_append_singleton item _).symm

theorem updateEach_eq_map {change : α → α → α} (distinct : (items.map key).Nodup)
    (kept : ∀ item row, key (change item row) = key row) :
    updateEach key change items rows =
      rows.map fun row => (findKey key (key row) items).elim row fun item => change item row := by
  induction items generalizing rows with
  | nil => simp [updateEach, findKey]
  | cons item rest ih =>
    rw [map_cons, nodup_cons] at distinct
    have unfolded : updateEach key change (item :: rest) rows =
        updateEach key change rest (updateKey key (key item) (change item) rows) := rfl
    rw [unfolded, ih distinct.2, updateKey, map_map]
    apply map_congr_left
    intro row _
    by_cases matched : key row = key item
    · have absent : findKey key (key item) rest = none := findKey_eq_none.mpr distinct.1
      have first : findKey key (key item) (item :: rest) = some item := by
        simp [findKey]
      rw [Function.comp_apply, if_pos matched, kept, matched, absent, first]
      rfl
    · have skipped : findKey key (key row) (item :: rest) = findKey key (key row) rest := by
        unfold findKey
        rw [find?_cons_of_neg]
        simpa using fun same => matched same.symm
      rw [Function.comp_apply, if_neg matched, skipped]

theorem updateEach_of_subset (change : α → α → α)
    (unique : (rows.map key).Nodup) (subset : items ⊆ rows) (distinct : (items.map key).Nodup)
    (kept : ∀ item row, key (change item row) = key row) :
    updateEach key change items rows =
      rows.map fun row =>
        if key row ∈ items.map key then change row row else row := by
  rw [updateEach_eq_map distinct kept]
  apply map_congr_left
  intro row mem
  by_cases listed : key row ∈ items.map key
  · obtain ⟨item, itemMem, sameKey⟩ := mem_map.mp listed
    have same : item = row := eq_of_key_eq unique (subset itemMem) mem sameKey
    subst same
    rw [if_pos listed, findKey_of_mem distinct itemMem]
    rfl
  · rw [if_neg listed, findKey_eq_none.mpr listed]
    rfl

theorem sum_map_ite_key [AddMonoid M] (unique : (rows.map key).Nodup)
    (mem : row ∈ rows) (weight : α → M) :
    (rows.map fun other =>
      if key row = key other then weight other else 0).sum = weight row := by
  obtain ⟨left, right, rfl, before, after⟩ := exists_split_of_key unique mem
  have none : ∀ part : List α, (∀ other ∈ part, key other ≠ key row) →
      (part.map fun other => if key row = key other then weight other else 0).sum = 0 := by
    intro part apart
    rw [map_congr_left fun other otherMem => if_neg (apart other otherMem).symm]
    simp
  rw [map_append, sum_append, map_cons, sum_cons, none left before,
    none right after, if_pos rfl, add_zero, zero_add]

theorem sum_filter_key_eq [AddCommMonoid M] {weight : α → M}
    (distinct : keys.Nodup) (covered : ∀ row ∈ rows, key row ∈ keys) :
    (keys.map fun wanted => ((rows.filter fun row => key row = wanted).map weight).sum).sum =
      (rows.map weight).sum := by
  induction rows with
  | nil => simp
  | cons head tail ih =>
    have split : ∀ wanted ∈ keys,
        (((head :: tail).filter fun row => key row = wanted).map weight).sum =
          (if key head = wanted then weight head else 0) +
            ((tail.filter fun row => key row = wanted).map weight).sum := by
      intro wanted _
      by_cases same : key head = wanted <;> simp [same]
    have once : (keys.map fun wanted =>
          if key head = wanted then weight head else 0).sum = weight head := by
      rw [← sum_toFinset _ distinct, Finset.sum_ite_eq,
        if_pos (mem_toFinset.mpr (covered head (by simp)))]
    rw [map_congr_left split, sum_map_add, once,
      ih fun row mem => covered row (mem_cons_of_mem _ mem), map_cons, sum_cons]

theorem sum_filter_key_le {weight : α → ℚ} (distinct : keys.Nodup)
    (nonneg : ∀ row ∈ rows, 0 ≤ weight row) :
    (keys.map fun wanted => ((rows.filter fun row => key row = wanted).map weight).sum).sum ≤
      (rows.map weight).sum := by
  have sameGroup : ∀ wanted ∈ keys, ((rows.filter fun row => key row = wanted).map weight).sum =
      (((rows.filter fun row => key row ∈ keys).filter
        fun row => key row = wanted).map weight).sum := by
    intro wanted mem
    rw [filter_filter]
    congr 2
    apply filter_congr
    intro row _
    by_cases same : key row = wanted <;> simp [same, mem]
  have covered : ∀ row ∈ rows.filter fun row => key row ∈ keys, key row ∈ keys :=
    fun row mem => of_decide_eq_true (mem_filter.mp mem).2
  rw [map_congr_left sameGroup, sum_filter_key_eq distinct covered]
  refine (filter_sublist.map weight).sum_le_sum ?_
  intro _ mem
  obtain ⟨row, rowMem, rfl⟩ := mem_map.mp mem
  exact nonneg row rowMem

end Keyed

/-! ## Positions -/

variable {rows : List α}

theorem exists_split_of_getElem? {index : ℕ} {row : α} (found : rows[index]? = some row) :
    ∃ left right, rows = left ++ row :: right ∧
      ∀ other, rows.set index other = left ++ other :: right := by
  induction rows generalizing index with
  | nil => cases found
  | cons head tail ih =>
    cases index with
    | zero =>
      cases found
      exact ⟨[], tail, rfl, fun _ => rfl⟩
    | succ previous =>
      obtain ⟨left, right, split, replaced⟩ := ih found
      refine ⟨head :: left, right, by rw [split, cons_append], ?_⟩
      intro other
      rw [set_cons_succ, replaced other, cons_append]

theorem map_filterMap_of_found {β : Type} {join : α → Option β} {row : β → α}
    (found : ∀ item ∈ rows, ∃ joined, join item = some joined ∧ row joined = item) :
    (rows.filterMap join).map row = rows := by
  induction rows with
  | nil => rfl
  | cons head tail ih =>
    obtain ⟨joined, headFound, headRow⟩ := found head (by simp)
    rw [filterMap_cons_some headFound, map_cons, headRow,
      ih fun item mem => found item (mem_cons_of_mem _ mem)]

section Sorted

variable [LinearOrder κ] (key : α → κ)

def sortOn (rows : List α) : List α := rows.insertionSort fun left right => key left ≤ key right

variable {key}

theorem perm_sortOn (rows : List α) : (sortOn key rows).Perm rows := perm_insertionSort _ rows

variable {rows : List α} {row : α}

@[simp] theorem mem_sortOn : row ∈ sortOn key rows ↔ row ∈ rows := (perm_sortOn rows).mem_iff

theorem pairwise_sortOn (rows : List α) :
    (sortOn key rows).Pairwise fun left right => key left ≤ key right := by
  have total : Std.Total fun left right : α => key left ≤ key right :=
    ⟨fun left right => le_total (key left) (key right)⟩
  have transitive : IsTrans α fun left right => key left ≤ key right :=
    ⟨fun _ _ _ first second => first.trans second⟩
  exact pairwise_insertionSort _ rows

private theorem orderedInsert_of_le_all (least : ∀ other ∈ rows, key row ≤ key other) :
    rows.orderedInsert (fun left right => key left ≤ key right) row = row :: rows := by
  cases rows with
  | nil => rfl
  | cons head tail => exact orderedInsert_cons_of_le _ tail (least head (by simp))

private theorem filter_orderedInsert (row : α) (keep : α → Bool)
    (sorted : rows.Pairwise fun left right => key left ≤ key right) :
    (rows.orderedInsert (fun left right => key left ≤ key right) row).filter keep =
      if keep row then
        (rows.filter keep).orderedInsert (fun left right => key left ≤ key right) row
      else rows.filter keep := by
  induction rows with
  | nil => by_cases rowKept : keep row = true <;> simp [rowKept]
  | cons head tail ih =>
    rw [pairwise_cons] at sorted
    by_cases least : key row ≤ key head
    · have leastAll : ∀ other ∈ (head :: tail).filter keep, key row ≤ key other := by
        intro other otherMem
        rcases mem_cons.mp (mem_filter.mp otherMem).1 with
          rfl | tailMem
        · exact least
        · exact least.trans (sorted.1 other tailMem)
      rw [orderedInsert_of_le_all leastAll, orderedInsert_cons_of_le _ tail least]
      by_cases rowKept : keep row = true <;> simp [rowKept]
    · have tailEq := ih sorted.2
      rw [orderedInsert_of_not_le _ tail least]
      by_cases headKept : keep head = true <;>
        by_cases rowKept : keep row = true <;>
        simp [headKept, rowKept, tailEq, least]

theorem filter_sortOn (rows : List α) (keep : α → Bool) :
    (sortOn key rows).filter keep = sortOn key (rows.filter keep) := by
  induction rows with
  | nil => rfl
  | cons head tail ih =>
    have sorted : (sortOn key tail).Pairwise fun left right => key left ≤ key right :=
      pairwise_sortOn tail
    have inserted := filter_orderedInsert head keep sorted
    unfold sortOn at inserted ih ⊢
    rw [insertionSort_cons, inserted, ih]
    by_cases headKept : keep head = true
    · rw [if_pos headKept, filter_cons_of_pos headKept, insertionSort_cons]
    · rw [if_neg headKept, filter_cons_of_neg headKept]

theorem sortOn_eq_self (sorted : rows.Pairwise fun left right => key left ≤ key right) :
    sortOn key rows = rows :=
  List.Pairwise.insertionSort_eq sorted

theorem sortOn_eq_of_perm {sorted : List α} (perm : rows.Perm sorted)
    (increasing : sorted.Pairwise fun left right => key left < key right) :
    sortOn key rows = sorted := by
  have unique : (sorted.map key).Nodup := by
    rw [nodup_iff_pairwise_ne, pairwise_map]
    exact increasing.imp fun smaller => smaller.ne
  refine List.Perm.eq_of_pairwise ?_ (pairwise_sortOn rows)
    (increasing.imp fun smaller => smaller.le)
    ((perm_sortOn rows).trans perm)
  intro left right leftMem rightMem leftLe rightLe
  exact eq_of_key_eq unique (perm.mem_iff.mp (mem_sortOn.mp leftMem)) rightMem
    (le_antisymm leftLe rightLe)

end Sorted

section Windows

variable {α β : Type} {number : α → ℕ} {rows : List α} {after through : ℕ}

theorem filter_range'_window {count : ℕ} (ordered : after ≤ through) (within : through ≤ count) :
    (range' 1 count).filter (fun value => after < value ∧ value ≤ through) =
      range' (after + 1) (through - after) := by
  have split : range' 1 count =
      range' 1 after ++ range' (1 + after) (through - after) ++
        range' (1 + through) (count - through) := by
    have middle : after + (through - after) = through := by omega
    have total : through + (count - through) = count := by omega
    rw [range'_append_1, middle, range'_append_1, total]
  have before :
      (range' 1 after).filter (fun value => after < value ∧ value ≤ through) = [] := by
    rw [filter_eq_nil_iff]
    intro value mem
    rw [mem_range'_1] at mem
    simp
    omega
  have behind : (range' (1 + through) (count - through)).filter
      (fun value => after < value ∧ value ≤ through) = [] := by
    rw [filter_eq_nil_iff]
    intro value mem
    rw [mem_range'_1] at mem
    simp
    omega
  have inside : (range' (1 + after) (through - after)).filter
        (fun value => after < value ∧ value ≤ through) =
      range' (1 + after) (through - after) := by
    rw [filter_eq_self]
    intro value mem
    rw [mem_range'_1] at mem
    simp
    omega
  rw [split, filter_append, filter_append, before, behind, inside,
    nil_append, append_nil, Nat.add_comm 1 after]

theorem exists_join_of_singletons {others : List β} {matched : α → β → Bool}
    (single : ∀ row ∈ rows, ∃ other, others.filter (matched row) = [other]) :
    ∃ pairs : List (α × β),
      (rows.flatMap fun row => (others.filter (matched row)).map (row, ·)) = pairs ∧
        pairs.map Prod.fst = rows ∧
        ∀ pair ∈ pairs, pair.2 ∈ others ∧ matched pair.1 pair.2 = true := by
  induction rows with
  | nil => exact ⟨[], rfl, rfl, by simp⟩
  | cons row rest ih =>
    obtain ⟨pairs, joined, firsts, partners⟩ :=
      ih fun other mem => single other (mem_cons_of_mem _ mem)
    obtain ⟨partner, only⟩ := single row (by simp)
    have listed : partner ∈ others.filter (matched row) := by simp [only]
    refine ⟨(row, partner) :: pairs, ?_, ?_, ?_⟩
    · rw [flatMap_cons, joined, only]
      rfl
    · rw [map_cons, firsts]
    · intro pair mem
      rcases mem_cons.mp mem with rfl | later
      · exact mem_filter.mp listed
      · exact partners pair later

end Windows

end RQuant.Foundation
