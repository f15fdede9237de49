import Mathlib

/-!
# Checked computations

Code that raises is modelled in `Except`.  This module supplies the guard
`require`, and the inversion lemmas that turn a successful computation into the
list of facts its guards established.
-/

namespace RQuant.Foundation

open List

universe u

variable {ε : Type u} {α β : Type}

/-- A guard: continue when the condition holds, raise `error` otherwise. -/
def require (condition : Prop) [Decidable condition] (error : ε) : Except ε Unit :=
  if condition then .ok () else .error error

variable {condition : Prop} {error raised : ε} {first : Except ε α} {next step : α → Except ε β}
  {result value : α} {items : List α} {results : List β}

@[simp] theorem require_eq_ok [Decidable condition] {done : Unit} :
    require condition error = .ok done ↔ condition := by
  unfold require
  split <;> simp_all

theorem require_of [Decidable condition] (holds : condition) :
    require condition error = .ok () := by
  simp [require, holds]

theorem require_of_not [Decidable condition] (fails : ¬ condition) :
    require condition error = .error error := by
  simp [require, fails]

theorem bind_eq_ok {result : β} :
    (first >>= next) = .ok result ↔ ∃ value, first = .ok value ∧ next value = .ok result := by
  cases first with
  | error raised => simp [bind, Except.bind]
  | ok value => simp [bind, Except.bind]

@[simp] theorem exists_unit {property : Unit → Prop} : (∃ done, property done) ↔ property () :=
  ⟨fun ⟨_, holds⟩ => holds, fun holds => ⟨(), holds⟩⟩

theorem guard_bind_eq_ok {guard : Except ε Unit} {next : Unit → Except ε β} {result : β} :
    (guard >>= next) = .ok result ↔ guard = .ok () ∧ next () = .ok result := by
  rw [bind_eq_ok, exists_unit]

@[simp] theorem pure_eq_ok : (pure value : Except ε α) = .ok result ↔ value = result := by
  simp [pure, Except.pure]

@[simp] theorem throw_ne_ok : (throw raised : Except ε α) = .ok result ↔ False := by
  simp [throw, throwThe, MonadExceptOf.throw]

/-- The equations that take a successful run apart, as one argument of simp. -/
theorem run_eq_ok : (∀ {ε α β : Type} {first : Except ε α} {next : α → Except ε β} {result : β},
    (first >>= next) = .ok result ↔ ∃ value, first = .ok value ∧ next value = .ok result) ∧
    (∀ {ε : Type} {condition : Prop} [Decidable condition] {error : ε} {done : Unit},
      require condition error = .ok done ↔ condition) ∧
    (∀ {property : Unit → Prop}, (∃ done, property done) ↔ property ()) ∧
    ∀ {ε α : Type} {value result : α}, (pure value : Except ε α) = .ok result ↔ value = result :=
  ⟨bind_eq_ok, require_eq_ok, exists_unit, pure_eq_ok⟩

/-- The same for runs whose answers are pairs. -/
theorem pair_eq_ok :
    type_of% @run_eq_ok ∧ type_of% @Prod.exists.{0, 0} ∧ type_of% @Prod.mk.injEq.{0, 0} :=
  ⟨run_eq_ok, Prod.exists, Prod.mk.injEq⟩

def orRaise (error : ε) : Option α → Except ε α
  | some value => .ok value
  | none => .error error

@[simp] theorem orRaise_eq_ok {optional : Option α} :
    orRaise error optional = .ok result ↔ optional = some result := by
  cases optional <;> simp [orRaise]

/-- A computation whose result can be read has one. -/
theorem exists_of_map_toOption {read : α → β} {seen : β}
    (reads : first.toOption.map read = some seen) :
    ∃ result, first = .ok result ∧ read result = seen := by
  cases first with
  | error raised => cases reads
  | ok result => exact ⟨result, rfl, Option.some.inj reads⟩

theorem ok_bind : ((Except.ok value : Except ε α) >>= next) = next value :=
  rfl

theorem error_bind : ((Except.error raised : Except ε α) >>= next) = .error raised :=
  rfl

@[simp] theorem mapError_eq_ok {δ : Type} {translate : ε → δ} {computed : Except ε α} :
    computed.mapError translate = .ok result ↔ computed = .ok result := by
  cases computed <;> simp [Except.mapError]

/-- Two computations that proceed alike, up to a conversion of what they work
with. -/
theorem map_bind_map {α' β' : Type} {convert : α → α'} {next' : α' → Except ε β'} {result : β → β'}
    (alike : ∀ value, next' (convert value) = (next value).map result) :
    (first.map convert >>= next') = (first >>= next).map result := by
  cases first with
  | error raised => rfl
  | ok value => exact alike value

section

variable {β' γ δ : Type} {second : Except ε α} {next' : α → Except ε β'} {view : α → δ}
  {result : β → γ} {result' : β' → γ}

/-- Two computations that go on alike after values that agree. -/
theorem map_bind_congr (same : first.map view = second.map view)
    (alike :
      ∀ left right, view left = view right → (next left).map result = (next' right).map result') :
    (first >>= next).map result = (second >>= next').map result' := by
  cases first with
  | error raised =>
    cases second with
    | error other =>
      cases same
      rfl
    | ok right => cases same
  | ok left =>
    cases second with
    | error other => cases same
    | ok right => exact alike left right (Except.ok.inj same)

theorem map_bind_same (alike : ∀ value, (next value).map result = (next' value).map result') :
    (first >>= next).map result = (first >>= next').map result' := by
  cases first with
  | error raised => rfl
  | ok value => exact alike value

end

def reportUnless (consistent : Prop) [Decidable consistent] (message : String) : List String :=
  if consistent then [] else [message]

@[simp] theorem reportUnless_eq_nil {consistent : Prop} [Decidable consistent] {message : String} :
    reportUnless consistent message = [] ↔ consistent := by
  unfold reportUnless
  split <;> simp_all

theorem mapM_eq_ok {result : α → β} (succeeds : ∀ item ∈ items, step item = .ok (result item)) :
    items.mapM step = .ok (items.map result) := by
  induction items with
  | nil => rfl
  | cons head tail ih =>
    rw [mapM_cons, succeeds head (by simp),
      ih fun item mem => succeeds item (mem_cons_of_mem _ mem)]
    rfl

theorem map_of_mapM_eq_ok (succeeded : items.mapM step = .ok results) :
    items.map step = results.map .ok := by
  induction items generalizing results with
  | nil =>
    cases succeeded
    rfl
  | cons head tail ih =>
    rw [mapM_cons] at succeeded
    simp only [bind_eq_ok, pure_eq_ok] at succeeded
    obtain ⟨_, headSucceeded, _, tailSucceeded, rfl⟩ := succeeded
    rw [map_cons, map_cons, headSucceeded, ih tailSucceeded]

theorem exists_of_mapM_eq_ok {item : α}
    (succeeded : items.mapM step = .ok results) (mem : item ∈ items) :
    ∃ result ∈ results, step item = .ok result := by
  have stepped : step item ∈ results.map .ok :=
    map_of_mapM_eq_ok succeeded ▸ mem_map_of_mem mem
  obtain ⟨result, resultMem, same⟩ := mem_map.mp stepped
  exact ⟨result, resultMem, same.symm⟩

theorem mapM_congr {left right : α → Except ε β} (same : ∀ item ∈ items, left item = right item) :
    items.mapM left = items.mapM right := by
  induction items with
  | nil => rfl
  | cons head tail ih =>
    rw [mapM_cons, mapM_cons, same head (by simp),
      ih fun item mem => same item (mem_cons_of_mem _ mem)]

theorem forM_eq_ok {check : α → Except ε PUnit} :
    items.forM check = .ok () ↔ ∀ item ∈ items, check item = .ok () := by
  induction items with
  | nil => simp [pure, Except.pure]
  | cons head tail ih =>
    change (check head >>= fun _ => tail.forM check) = .ok () ↔ _
    rw [bind_eq_ok, forall_mem_cons, ← ih]
    exact exists_unit

theorem foldlM_keeps {motive : α → Prop} {step : α → β → Except ε α} {start final : α}
    {items : List β}
    (kept : ∀ {state item next}, motive state → step state item = .ok next → motive next)
    (initially : motive start) (done : items.foldlM step start = .ok final) : motive final := by
  induction items generalizing start with
  | nil =>
    cases done
    exact initially
  | cons item rest ih =>
    rw [foldlM_cons, bind_eq_ok] at done
    obtain ⟨_, first, done⟩ := done
    exact ih (kept initially first) done

def Avoids (bad : ε) (computed : Except ε α) : Prop := computed ≠ .error bad

section Avoids

variable {bad error : ε}

@[simp] theorem avoids_ok {value : α} : Avoids bad (.ok value : Except ε α) := by simp [Avoids]

@[simp] theorem avoids_pure {value : α} : Avoids bad (pure value : Except ε α) := avoids_ok

@[simp] theorem avoids_error : Avoids bad (.error error : Except ε α) ↔ error ≠ bad := by
  simp [Avoids]

@[simp] theorem avoids_throw : Avoids bad (throw error : Except ε α) ↔ error ≠ bad := avoids_error

@[simp] theorem avoids_require {condition : Prop} [Decidable condition] :
    Avoids bad (require condition error) ↔ condition ∨ error ≠ bad := by
  unfold require
  split <;> simp [*]

@[simp] theorem avoids_orRaise {optional : Option α} :
    Avoids bad (orRaise error optional) ↔ optional.isSome ∨ error ≠ bad := by
  cases optional <;> simp [orRaise]

@[simp] theorem avoids_bind {first : Except ε α} {next : α → Except ε β} :
    Avoids bad (first >>= next) ↔
      Avoids bad first ∧ ∀ value, first = .ok value → Avoids bad (next value) := by
  cases first with
  | ok value => simp [ok_bind]
  | error raised => simp [Avoids, error_bind]

@[simp] theorem avoids_map {first : Except ε α} {change : α → β} :
    Avoids bad (change <$> first) ↔ Avoids bad first := by
  cases first <;> simp [Avoids]

@[simp] theorem avoids_ite {condition : Prop} [Decidable condition] {left right : Except ε α} :
    Avoids bad (if condition then left else right) ↔
      (condition → Avoids bad left) ∧ (¬ condition → Avoids bad right) := by
  split <;> simp [*]

@[simp] theorem avoids_mapM {items : List α} {step : α → Except ε β}
    (stepAvoids : ∀ item, Avoids bad (step item)) : Avoids bad (items.mapM step) := by
  induction items with
  | nil => exact avoids_ok
  | cons head tail ih => simp [mapM_cons, stepAvoids, ih]

@[simp] theorem avoids_forM {items : List α} {step : α → Except ε PUnit}
    (stepAvoids : ∀ item, Avoids bad (step item)) : Avoids bad (forM items step) := by
  induction items with
  | nil => exact avoids_ok
  | cons head tail ih => exact avoids_bind.mpr ⟨stepAvoids head, fun _ _ => ih⟩

end Avoids

end RQuant.Foundation
