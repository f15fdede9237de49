import Mathlib

/-!
# Lent capacity

A pool of fixed capacity lends amounts that lapse with time.  `owed time loan`
is what a loan takes out of the pool; it never grows.  The loans `Fit` when they
did so at the moment one of them was made.
-/

namespace RQuant.Foundation

variable {α τ : Type}

def outstanding (owed : τ → α → ℤ) (time : τ) (loans : List α) : ℤ := (loans.map (owed time)).sum

variable {owed : τ → α → ℤ} {time earlier later : τ} {loans : List α}

@[simp] theorem outstanding_append {left right : List α} : outstanding owed time (left ++ right) =
    outstanding owed time left + outstanding owed time right := by
  simp [outstanding]

@[simp] theorem outstanding_singleton {loan : α} :
    outstanding owed time [loan] = owed time loan := by
  simp [outstanding]

/-- The loans were within the capacity when one of them was made. -/
def Fits (owed : τ → α → ℤ) (since : α → τ) (capacity : ℤ) (loans : List α) : Prop :=
  loans = [] ∨ ∃ loan ∈ loans, outstanding owed (since loan) loans ≤ capacity

namespace Fits

variable {owed owedThen : τ → α → ℤ} {since : α → τ} {capacity : ℤ} {loans : List α}

theorem lend {loan : α}
    (room : outstanding owed (since loan) loans + owed (since loan) loan ≤ capacity) :
    Fits owed since capacity (loans ++ [loan]) :=
  Or.inr ⟨loan, by simp, by
    rwa [outstanding_append, outstanding_singleton]⟩

section

variable (fitted : Fits owed since capacity loans)

include fitted

/-- A change of the loans that asks for no more when a loan was made. -/
theorem map {change : α → α} (kept : ∀ loan ∈ loans, since (change loan) = since loan)
    (less : ∀ loan ∈ loans, ∀ other ∈ loans,
      owedThen (since other) (change loan) ≤ owed (since other) loan) :
    Fits owedThen since capacity (loans.map change) := by
  rcases fitted with rfl | ⟨latest, mem, within⟩
  · exact Or.inl rfl
  · refine Or.inr ⟨change latest, List.mem_map_of_mem mem, ?_⟩
    rw [kept latest mem]
    refine le_trans ?_ within
    unfold outstanding
    rw [List.map_map]
    exact List.sum_le_sum fun loan loanMem => less loan loanMem latest mem

theorem of_owed_le
    (less :
      ∀ loan ∈ loans, ∀ other ∈ loans, owedThen (since other) loan ≤ owed (since other) loan) :
    Fits owedThen since capacity loans := by
  have unchanged : Fits owedThen since capacity (loans.map id) := fitted.map (fun _ _ => rfl) less
  rwa [List.map_id] at unchanged

/-- Parts that each loan still has at the time of every other one fit too. -/
theorem sum_le {part : α → ℤ} (nonneg : 0 ≤ capacity)
    (lasting : ∀ loan ∈ loans, ∀ latest ∈ loans, part loan ≤ owed (since latest) loan) :
    (loans.map part).sum ≤ capacity := by
  rcases fitted with rfl | ⟨latest, latestMem, within⟩
  · simpa using nonneg
  · exact (List.sum_le_sum fun loan mem => lasting loan mem latest latestMem).trans within

end

end Fits

end RQuant.Foundation
