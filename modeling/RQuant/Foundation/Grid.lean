import RQuant.Foundation.Decimal

/-!
# Decimal grids

The multiples of a power of ten are closed under sums, and 28 digits represent
every multiple up to a limit: within it decimal arithmetic on a grid is exact,
and running totals do not depend on the order of their terms.
-/

namespace RQuant.Foundation

open List

/-- The multiples of `10 ^ exponent`. -/
def OnGrid (exponent : ℤ) (value : ℚ) : Prop :=
  ∃ coefficient : ℤ, value = coefficient * 10 ^ exponent

/-- The magnitude up to which 28 digits represent a whole grid. -/
def gridLimit (exponent : ℤ) : ℚ := 10 ^ (28 + exponent)

variable {exponent : ℤ}

theorem onGrid_iff_den {value : ℚ} : (value / 10 ^ exponent).den = 1 ↔ OnGrid exponent value := by
  have step_ne : (10 : ℚ) ^ exponent ≠ 0 := by positivity
  rw [Rat.den_eq_one_iff, OnGrid]
  constructor
  · intro integral
    exact ⟨_, ((div_eq_iff step_ne).mp integral.symm)⟩
  · rintro ⟨_, rfl⟩
    rw [mul_div_cancel_right₀ _ step_ne, Rat.num_intCast]

instance (exponent : ℤ) (value : ℚ) : Decidable (OnGrid exponent value) :=
  decidable_of_iff _ onGrid_iff_den

namespace OnGrid

variable {exponent : ℤ} {left right value : ℚ}

theorem zero : OnGrid exponent 0 := ⟨0, by simp⟩

theorem add (leftGrid : OnGrid exponent left)
    (rightGrid : OnGrid exponent right) : OnGrid exponent (left + right) := by
  obtain ⟨first, rfl⟩ := leftGrid
  obtain ⟨second, rfl⟩ := rightGrid
  exact ⟨first + second, by push_cast; ring⟩

theorem sub (leftGrid : OnGrid exponent left)
    (rightGrid : OnGrid exponent right) : OnGrid exponent (left - right) := by
  obtain ⟨first, rfl⟩ := leftGrid
  obtain ⟨second, rfl⟩ := rightGrid
  exact ⟨first - second, by push_cast; ring⟩

theorem mul_natCast (grid : OnGrid exponent value) (factor : ℕ) :
    OnGrid exponent (value * factor) := by
  obtain ⟨coefficient, rfl⟩ := grid
  exact ⟨coefficient * factor, by push_cast; ring⟩

theorem sum {values : List ℚ} (grid : ∀ value ∈ values, OnGrid exponent value) :
    OnGrid exponent values.sum := by
  induction values with
  | nil => exact zero
  | cons head tail ih =>
    rw [sum_cons]
    exact (grid head (by simp)).add (ih fun value mem => grid value (mem_cons_of_mem _ mem))

theorem round_eq (grid : OnGrid exponent value) (within : |value| ≤ gridLimit exponent) :
    DecimalContext.decimal28.round value = value := by
  obtain ⟨coefficient, rfl⟩ := grid
  refine round28_fixed exponent ?_
  have step_pos : (0 : ℚ) < 10 ^ exponent := by positivity
  rw [abs_mul, abs_of_pos step_pos, gridLimit, zpow_add₀ (by norm_num)] at within
  have digits : |(coefficient : ℚ)| ≤ 10 ^ (28 : ℤ) := le_of_mul_le_mul_right within step_pos
  exact_mod_cast digits

end OnGrid

/-- A running total whose steps are exact below the limit is an exact sum: the
total is bounded by the weights consumed so far. -/
theorem foldl_onGrid {ι : Type*} {items : List ι} {step : ℚ → ι → ℚ} (change weight : ι → ℚ)
    (changes : ∀ item ∈ items, OnGrid exponent (change item) ∧ |change item| ≤ weight item)
    (exact : ∀ total, OnGrid exponent total → ∀ item ∈ items,
      |total| + weight item ≤ gridLimit exponent → step total item = total + change item)
    {start : ℚ} (startGrid : OnGrid exponent start)
    (within : |start| + (items.map weight).sum ≤ gridLimit exponent) :
    items.foldl step start = start + (items.map change).sum := by
  induction items generalizing start with
  | nil => simp
  | cons head tail ih =>
    have tailChanges : ∀ item ∈ tail, OnGrid exponent (change item) ∧ |change item| ≤ weight item :=
      fun item mem => changes item (mem_cons_of_mem _ mem)
    obtain ⟨headGrid, _⟩ := changes head (by simp)
    have tailWeight : 0 ≤ (tail.map weight).sum := by
      apply sum_nonneg
      intro _ mem
      obtain ⟨item, itemMem, rfl⟩ := mem_map.mp mem
      exact (abs_nonneg _).trans (tailChanges item itemMem).2
    rw [map_cons, sum_cons] at within
    have headStep : step start head = start + change head :=
      exact start startGrid head (by simp) (by linarith)
    have rest :
        |start + change head| + (tail.map weight).sum ≤ gridLimit exponent := by
      have triangle := abs_add_le start (change head)
      linarith
    rw [foldl_cons, headStep,
      ih tailChanges
        (fun total totalGrid item mem => exact total totalGrid item (mem_cons_of_mem _ mem))
        (startGrid.add headGrid) rest,
      map_cons, sum_cons, add_assoc]

theorem decimal28_sum_onGrid {values : List ℚ}
    (grid : ∀ value ∈ values, OnGrid exponent value ∧ 0 ≤ value)
    (within : values.sum ≤ gridLimit exponent) :
    DecimalContext.decimal28.sum values = values.sum := by
  have total : values.foldl DecimalContext.decimal28.add 0 = 0 + (values.map id).sum := by
    apply foldl_onGrid id id
    · intro value mem
      exact ⟨(grid value mem).1, (abs_of_nonneg (grid value mem).2).le⟩
    · intro total totalGrid value mem bound
      refine (totalGrid.add (grid value mem).1).round_eq ?_
      have triangle := abs_add_le total value
      rw [abs_of_nonneg (grid value mem).2] at triangle
      exact triangle.trans bound
    · exact OnGrid.zero
    · simpa using within
  simpa [DecimalContext.sum] using total

end RQuant.Foundation
