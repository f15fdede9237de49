import Mathlib

/-!
# Greedy allocation

A request is met from holdings in the order they are listed: each holding gives
what it has until the request is met.
-/

namespace RQuant.Foundation

variable {κ : Type}

/-- Take `requested` from the holdings in order.  Returns what was taken from
each touched holding and what could not be met. -/
def allocate (requested : ℕ) : List (κ × ℕ) → List (κ × ℕ) × ℕ
  | [] => ([], requested)
  | (key, held) :: rest =>
    if requested = 0 then ([], 0)
    else
      let taken := min requested held
      let tail := allocate (requested - taken) rest
      ((key, taken) :: tail.1, tail.2)

def quantityOf (holdings : List (κ × ℕ)) : ℕ := (holdings.map Prod.snd).sum

@[simp] theorem quantityOf_nil : quantityOf ([] : List (κ × ℕ)) = 0 := rfl

@[simp] theorem quantityOf_cons (holding : κ × ℕ) (rest : List (κ × ℕ)) :
    quantityOf (holding :: rest) = holding.2 + quantityOf rest := by
  simp [quantityOf]

theorem allocate_total (requested : ℕ) (holdings : List (κ × ℕ)) :
    quantityOf (allocate requested holdings).1 + (allocate requested holdings).2 = requested := by
  induction holdings generalizing requested with
  | nil => simp [allocate]
  | cons holding rest ih =>
    obtain ⟨_, held⟩ := holding
    unfold allocate
    split
    · simp_all
    · have tail := ih (requested - min requested held)
      simp only [quantityOf_cons]
      omega

theorem allocate_keys_sublist (requested : ℕ) (holdings : List (κ × ℕ)) :
    ((allocate requested holdings).1.map Prod.fst).Sublist (holdings.map Prod.fst) := by
  induction holdings generalizing requested with
  | nil => simp [allocate]
  | cons holding rest ih =>
    obtain ⟨_, held⟩ := holding
    unfold allocate
    split
    · simp
    · simpa using ih (requested - min requested held)

theorem allocate_map {κ' : Type} (rename : κ → κ') (requested : ℕ) (holdings : List (κ × ℕ)) :
    allocate requested (holdings.map fun holding => (rename holding.1, holding.2)) =
      ((allocate requested holdings).1.map fun taking => (rename taking.1, taking.2),
        (allocate requested holdings).2) := by
  induction holdings generalizing requested with
  | nil => rfl
  | cons holding rest ih =>
    obtain ⟨_, _⟩ := holding
    rw [List.map_cons]
    unfold allocate
    split
    · rfl
    · simp only [ih, List.map_cons]

variable {requested : ℕ} {holdings : List (κ × ℕ)} {taking : κ × ℕ}

/-- What every taking satisfies, by what is still requested when it is made. -/
theorem forall_mem_allocate (law : κ × ℕ → Prop) (asking : ℕ → Prop) (start : asking requested)
    (take : ∀ holding ∈ holdings, ∀ asked, asked ≠ 0 → asking asked →
      law (holding.1, min asked holding.2) ∧ asking (asked - min asked holding.2))
    (mem : taking ∈ (allocate requested holdings).1) : law taking := by
  induction holdings generalizing requested with
  | nil => simp [allocate] at mem
  | cons holding rest ih =>
    unfold allocate at mem
    split at mem
    · cases mem
    · rename_i asks
      obtain ⟨taken, left⟩ := take holding (by simp) requested asks start
      rcases List.mem_cons.mp mem with rfl | tailMem
      · exact taken
      · exact ih left (fun other otherMem => take other (List.mem_cons_of_mem _ otherMem)) tailMem

theorem exists_holding_of_mem_allocate (mem : taking ∈ (allocate requested holdings).1) :
    ∃ held, (taking.1, held) ∈ holdings ∧ taking.2 ≤ held :=
  forall_mem_allocate (fun taking => ∃ held, (taking.1, held) ∈ holdings ∧ taking.2 ≤ held)
    (fun _ => True) trivial
    (fun holding holds _ _ _ => ⟨⟨holding.2, holds, Nat.min_le_right _ _⟩, trivial⟩) mem

theorem pos_of_mem_allocate (nonempty : ∀ holding ∈ holdings, 0 < holding.2)
    (mem : taking ∈ (allocate requested holdings).1) :
    0 < taking.2 := by
  refine forall_mem_allocate (fun taking => 0 < taking.2) (fun _ => True) trivial ?_ mem
  intro holding holds asked asks _
  have held := nonempty holding holds
  exact ⟨by simp only; omega, trivial⟩

theorem dvd_of_mem_allocate {divisor : ℕ} (requestedDvd : divisor ∣ requested)
    (holdingsDvd : ∀ holding ∈ holdings, divisor ∣ holding.2)
    (mem : taking ∈ (allocate requested holdings).1) :
    divisor ∣ taking.2 := by
  refine forall_mem_allocate (fun taking => divisor ∣ taking.2) _ requestedDvd ?_ mem
  intro holding holds asked _ askedDvd
  have takenDvd : divisor ∣ min asked holding.2 := by
    rcases min_choice asked holding.2 with same | same <;> rw [same]
    · exact askedDvd
    · exact holdingsDvd holding holds
  exact ⟨takenDvd, Nat.dvd_sub askedDvd takenDvd⟩

end RQuant.Foundation
