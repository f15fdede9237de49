import RQuant.Foundation.Checked

/-!
# Traces of a labelled relation

A transaction is a sequence of moves, and each move may emit labels.  A trace
collects them.  Invariants may speak about everything that was emitted so far.
-/

namespace RQuant.Foundation

variable {σ ι α β ε : Type}

/-- A sequence of moves, with what they emitted. -/
inductive Trace (move : σ → List ι → σ → Prop) : σ → List ι → σ → Prop
  | refl (state : σ) : Trace move state [] state
  | tail {start middle final : σ} {emitted last : List ι} :
      Trace move start emitted middle → move middle last final →
      Trace move start (emitted ++ last) final

namespace Trace

variable {move : σ → List ι → σ → Prop} {start final middle : σ} {emitted : List ι}

theorem single (moved : move start emitted final) : Trace move start emitted final :=
  .tail (.refl start) moved

theorem append {first second : List ι} (before : Trace move start first middle)
    (after : Trace move middle second final) :
    Trace move start (first ++ second) final := by
  induction after with
  | refl =>
    rw [List.append_nil]
    exact before
  | tail _ moved ih =>
    rw [← List.append_assoc]
    exact .tail ih moved

theorem trans (before : Trace move start [] middle)
    (after : Trace move middle [] final) : Trace move start [] final :=
  append before after

/-- What every move keeps, given what was emitted before, every trace keeps. -/
theorem invariant {motive : σ → List ι → Prop} {history : List ι}
    (kept : ∀ {source target past label}, motive source past →
      move source label target → motive target (past ++ label))
    (trace : Trace move start emitted final)
    (initially : motive start history) :
    motive final (history ++ emitted) := by
  induction trace with
  | refl =>
    rw [List.append_nil]
    exact initially
  | tail _ moved ih =>
    rw [← List.append_assoc]
    exact kept ih moved

theorem keeps {motive : σ → Prop}
    (kept : ∀ {source target label}, motive source → move source label target → motive target)
    (trace : Trace move start emitted final) (initially : motive start) :
    motive final := by
  induction trace with
  | refl => exact initially
  | tail _ moved ih => exact kept ih moved

end Trace

def sweep (step : σ → α → Except ε (β × σ)) : List α → σ → Except ε (List β × σ)
  | [], state => .ok ([], state)
  | item :: rest, state => do
    let (answer, next) ← step state item
    let (answers, final) ← sweep step rest next
    pure (answer :: answers, final)

/-- A loop is a silent trace when each of its steps is; `ready` is what the
steps rely on about the items that are left. -/
theorem trace_of_sweep {move : σ → List ι → σ → Prop} {step : σ → α → Except ε (β × σ)}
    (ready : List α → σ → Prop)
    (stepped : ∀ {item rest state answer next}, ready (item :: rest) state →
      step state item = .ok (answer, next) →
      Trace move state [] next ∧ ready rest next)
    {items : List α} {start final : σ} {answers : List β}
    (initially : ready items start)
    (swept : sweep step items start = .ok (answers, final)) :
    Trace move start [] final := by
  induction items generalizing start answers with
  | nil =>
    cases swept
    exact .refl _
  | cons item rest ih =>
    unfold sweep at swept
    simp only [bind_eq_ok, pure_eq_ok, Prod.exists, Prod.mk.injEq] at swept
    obtain ⟨answer, next, stepDone, _, _, restDone, -, rfl⟩ := swept
    obtain ⟨first, remains⟩ := stepped initially stepDone
    exact first.trans (ih remains restDone)

end RQuant.Foundation
