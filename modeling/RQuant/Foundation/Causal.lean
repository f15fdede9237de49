import Mathlib

/-!
# Series and their prefixes

Transformations of a series whose entries depend on the entries up to the same
place only: they commute with cutting the series off.
-/

namespace RQuant.Foundation

open List

variable {α β : Type}

/-- Read every entry of a series off the entries up to it. -/
def overPrefixes (read : List α → β) (series : List α) : List β :=
  (range series.length).map fun place => read (series.take (place + 1))

/-- The entry so many places earlier, or later for a negative lag. -/
def shifted (blank : α) (lag : ℤ) (series : List α) : List α :=
  (range series.length).map fun place : ℕ =>
    if lag ≤ place then (series[(place - lag).toNat]?).getD blank else blank

@[simp] theorem length_overPrefixes (read : List α → β) (series : List α) :
    (overPrefixes read series).length = series.length := by
  simp [overPrefixes]

@[simp] theorem length_shifted (blank : α) (lag : ℤ) (series : List α) :
    (shifted blank lag series).length = series.length := by
  simp [shifted]

theorem overPrefixes_take (read : List α → β) (series : List α) (count : ℕ) :
    overPrefixes read (series.take count) = (overPrefixes read series).take count := by
  apply ext_getElem
  · simp
  · intro place left _
    have before : place < count := by
      simp only [length_overPrefixes, length_take] at left
      omega
    simp only [overPrefixes, getElem_map, getElem_range,
      getElem_take, take_take]
    rw [min_eq_left (by omega)]

/-- A series that is moved back does not depend on what comes later. -/
theorem shifted_take {lag : ℤ} (backward : 0 ≤ lag) (blank : α) (series : List α) (count : ℕ) :
    shifted blank lag (series.take count) = (shifted blank lag series).take count := by
  apply ext_getElem
  · simp
  · intro place left _
    have before : place < count := by
      simp only [length_shifted, length_take] at left
      omega
    simp only [shifted, getElem_map, getElem_range, getElem_take]
    by_cases reached : lag ≤ (place : ℤ)
    · rw [if_pos reached, if_pos reached, getElem?_take_of_lt (by omega)]
    · rw [if_neg reached, if_neg reached]

end RQuant.Foundation
