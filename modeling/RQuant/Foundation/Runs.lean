import Mathlib

/-!
# Runs of a transition system

A system answers calls; a run is a finite sequence of calls, each allowed in
the state it is made in.  Invariants are proved once per call and hold in every
state a run reaches.
-/

namespace RQuant.Foundation

variable {σ ι : Type}

/-- The states reached from a state by calls that are allowed where they are
made. -/
def Reaches (step : σ → ι → σ → Prop) (allowed : σ → ι → Prop) : σ → σ → Prop :=
  Relation.ReflTransGen fun source target => ∃ call, allowed source call ∧ step source call target

variable {step : σ → ι → σ → Prop} {allowed : σ → ι → Prop} {motive : σ → Prop} {start final : σ}
  {execute : σ → ι → Option σ} {apply : σ → ι → σ}

/-- A property that holds at the start and is kept by every allowed call holds
in every state reached. -/
theorem Reaches.invariant (run : Reaches step allowed start final) (initially : motive start)
    (kept : ∀ {source call target}, motive source → allowed source call →
      step source call target → motive target) :
    motive final := by
  induction run with
  | refl => exact initially
  | tail _ last ih =>
    obtain ⟨call, allowedCall, stepped⟩ := last
    exact kept ih allowedCall stepped

/-- A property that does not hold at the start and holds in the end was
established by one of the calls. -/
theorem Reaches.exists_first (run : Reaches step allowed start final)
    (initially : ¬ motive start) (finally_ : motive final) :
    ∃ source call target, Reaches step allowed start source ∧ allowed source call ∧
      step source call target ∧ Reaches step allowed target final ∧
      ¬ motive source ∧ motive target := by
  induction run with
  | refl => exact absurd finally_ initially
  | @tail middle last earlier stepped ih =>
    by_cases already : motive middle
    · obtain ⟨source, call, target, before, allowedCall, made, after, rest⟩ := ih already
      exact ⟨source, call, target, before, allowedCall, made, after.tail stepped, rest⟩
    · obtain ⟨call, allowedCall, made⟩ := stepped
      exact ⟨middle, call, last, earlier, allowedCall, made,
        Relation.ReflTransGen.refl, already, finally_⟩

def runCalls (execute : σ → ι → Option σ) : σ → List ι → Option σ
  | state, [] => some state
  | state, call :: rest =>
    match execute state call with
    | none => none
    | some next => runCalls execute next rest

section

variable (sound : ∀ {source call target}, execute source call = some target →
  allowed source call ∧ step source call target)

include sound

theorem reaches_of_runCalls {calls : List ι}
    (executed : runCalls execute start calls = some final) :
    Reaches step allowed start final := by
  induction calls generalizing start with
  | nil =>
    cases executed
    exact Relation.ReflTransGen.refl
  | cons call rest ih =>
    unfold runCalls at executed
    split at executed
    · cases executed
    · rename_i next stepped
      exact Relation.ReflTransGen.head ⟨call, sound stepped⟩ (ih executed)

/-- The state a list of calls leads to; the start when one of them fails. -/
def finalState (execute : σ → ι → Option σ) (start : σ) (calls : List ι) : σ :=
  (runCalls execute start calls).getD start

theorem reaches_finalState (start : σ) (calls : List ι) :
    Reaches step allowed start (finalState execute start calls) := by
  unfold finalState
  cases executed : runCalls execute start calls with
  | none => exact Relation.ReflTransGen.refl
  | some final => exact reaches_of_runCalls sound executed

end

def applyAllowed (apply : σ → ι → σ) (allowed : σ → ι → Prop)
    [∀ state call, Decidable (allowed state call)]
    (state : σ) (call : ι) : Option σ :=
  if allowed state call then some (apply state call) else none

theorem reaches_applyAllowed [∀ state call, Decidable (allowed state call)]
    (start : σ) (calls : List ι) :
    Reaches (fun source call target => apply source call = target) allowed
      start (finalState (applyAllowed apply allowed) start calls) := by
  refine reaches_finalState ?_ start calls
  intro source call target executed
  unfold applyAllowed at executed
  rw [Option.ite_none_right_eq_some] at executed
  exact ⟨executed.1, Option.some_inj.mp executed.2⟩

theorem reaches_foldl (everywhere : ∀ state call, allowed state call) (start : σ) (calls : List ι) :
    Reaches (fun source call target => apply source call = target) allowed
      start (calls.foldl apply start) := by
  induction calls generalizing start with
  | nil => exact Relation.ReflTransGen.refl
  | cons call rest ih => exact Relation.ReflTransGen.head ⟨call, everywhere start call, rfl⟩ (ih _)

end RQuant.Foundation
