import RQuant.Foundation.Checked
import Mathlib

/-!
# Bisection

Bisection of an interval with a test that can raise.  Nothing is assumed of the
answers: they need not be monotone.  What bisection does know afterwards is that
the places it looked at answer as if they were.
-/

namespace RQuant.Foundation

universe u

variable {ε : Type u}

/-- The first place of `[low, high)` that fails the test, if the answers are
monotone. -/
def bisect (probe : ℕ → Except ε Bool) : ℕ → ℕ → ℕ → Except ε ℕ
  | 0, low, _ => .ok low
  | fuel + 1, low, high =>
    if low < high then do
      let passed ← probe ((low + high) / 2)
      if passed then bisect probe fuel ((low + high) / 2 + 1) high
      else bisect probe fuel low ((low + high) / 2)
    else .ok low

def bisectProbes (answer : ℕ → Bool) : ℕ → ℕ → ℕ → List ℕ
  | 0, _, _ => []
  | fuel + 1, low, high =>
    if low < high then
      (low + high) / 2 ::
        if answer ((low + high) / 2) then
          bisectProbes answer fuel ((low + high) / 2 + 1) high
        else bisectProbes answer fuel low ((low + high) / 2)
    else []

/-- The places looked at pass below the result and fail from it on; the result
is next to one of them on either side, or at an end of the interval. -/
theorem bisect_spec {probe : ℕ → Except ε Bool} {answer : ℕ → Bool} {fuel low high result : ℕ}
    (answered : ∀ {place passed}, low ≤ place → probe place = .ok passed → passed = answer place)
    (ordered : low ≤ high) (enough : high - low ≤ fuel)
    (found : bisect probe fuel low high = .ok result) :
    low ≤ result ∧ result ≤ high ∧
      (∀ place ∈ bisectProbes answer fuel low high,
        low ≤ place ∧ place < high ∧ (answer place = true ↔ place < result)) ∧
      (result = low ∨ result - 1 ∈ bisectProbes answer fuel low high) ∧
      (result = high ∨ result ∈ bisectProbes answer fuel low high) := by
  induction fuel generalizing low high with
  | zero =>
    cases found
    exact ⟨le_rfl, ordered, by simp [bisectProbes], Or.inl rfl, Or.inl (by omega)⟩
  | succ fuel ih =>
    unfold bisect at found
    unfold bisectProbes
    by_cases wide : low < high
    · rw [if_pos wide] at found ⊢
      simp only [bind_eq_ok] at found
      obtain ⟨passed, probed, rest⟩ := found
      have isAnswer := answered (by omega) probed
      subst isAnswer
      set middle := (low + high) / 2 with middleEq
      by_cases passes : answer middle = true
      · rw [if_pos passes] at rest ⊢
        obtain ⟨above, below, places, left, right⟩ :=
          ih (fun lower => answered (by omega)) (by omega) (by omega) rest
        refine ⟨by omega, below, ?_, ?_, ?_⟩
        · intro place mem
          rcases List.mem_cons.mp mem with rfl | later
          · exact ⟨by omega, by omega, by simp [passes]; omega⟩
          · obtain ⟨lower, upper, same⟩ := places place later
            exact ⟨by omega, upper, same⟩
        · rcases left with atLow | visited
          · exact Or.inr (by simp [atLow])
          · exact Or.inr (List.mem_cons_of_mem _ visited)
        · exact right.imp_right (List.mem_cons_of_mem _)
      · rw [if_neg passes] at rest ⊢
        obtain ⟨above, below, places, left, right⟩ := ih answered (by omega) (by omega) rest
        refine ⟨above, by omega, ?_, ?_, ?_⟩
        · intro place mem
          rcases List.mem_cons.mp mem with rfl | later
          · exact ⟨by omega, by omega, by simp [passes]; omega⟩
          · obtain ⟨lower, upper, same⟩ := places place later
            exact ⟨lower, by omega, same⟩
        · exact left.imp_right (List.mem_cons_of_mem _)
        · rcases right with atHigh | visited
          · exact Or.inr (by simp [atHigh])
          · exact Or.inr (List.mem_cons_of_mem _ visited)
    · rw [if_neg wide] at found ⊢
      cases found
      exact ⟨le_rfl, ordered, by simp, Or.inl rfl, Or.inl (by omega)⟩

end RQuant.Foundation
