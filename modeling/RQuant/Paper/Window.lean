import RQuant.Paper.Conservation

/-!
# Execution windows

Every fill executes before its intent expires and within its limit.
`submit_intent` also waits for the intent's earliest execution time;
`apply_execution` does not, so a fill can precede it.  Runs whose incremental
executions respect the earliest time keep every fill in its window.
-/

namespace RQuant.Paper

open Foundation

variable {result : Ledger} {call : Call}

namespace PaperBrokerStore

/-- An incremental execution does not precede the earliest execution time of
its order's intent. -/
def RespectsEarliest (store : PaperBrokerStore) (ledger : Ledger) : Call → Prop
  | .apply request =>
    ∀ intent ∈ (store.preflightIntent ledger request.orderId).toOption,
      intent.earliestExecutionAt ≤ request.executedAt
  | .submit _ | .close _ => True

instance (store : PaperBrokerStore) (ledger : Ledger) :
    ∀ call, Decidable (RespectsEarliest store ledger call)
  | .apply _ => inferInstanceAs (Decidable (∀ _ ∈ _, _))
  | .submit _ => inferInstanceAs (Decidable True)
  | .close _ => inferInstanceAs (Decidable True)

/-- A fill lies in its intent's window and within its limit. -/
structure InWindow (intent : PaperOrderIntent) (fill : PaperFill) : Prop where
  afterEarliest : intent.earliestExecutionAt ≤ fill.executedAt
  beforeExpiry : fill.executedAt < intent.expiresAt
  buyLimit : intent.orderType = .limit → intent.side = .buy →
    ∀ limit ∈ intent.limitPrice, fill.price ≤ limit.toRat
  sellLimit : intent.orderType = .limit → intent.side = .sell →
    ∀ limit ∈ intent.limitPrice, limit.toRat ≤ fill.price

variable {fill : PaperFill} {ledger : Ledger}

variable {store : PaperBrokerStore}

/-- Every fill waits for its intent's earliest execution time. -/
def NoEarlyFill (ledger : Ledger) : Prop :=
  ∀ fill ∈ ledger.fills, ∃ order intent, FillOf ledger fill order intent ∧
    intent.payload.earliestExecutionAt ≤ fill.executedAt

theorem FillStep.not_early
    (step : FillStep store ledger call result before after order intent fill costs
      tradeDate availableDate)
    (respects : RespectsEarliest store ledger call) :
    intent.payload.earliestExecutionAt ≤ fill.executedAt := by
  have priced := step.pricing_eq
  cases call with
  | submit request => exact step.submitted request rfl
  | apply request =>
    have prepared : store.prepareExecution ledger request = .ok (intent.payload, costs) := by
      simp only [pricing] at priced
      split at priced
      · rename_i value preparedEq
        rw [preparedEq, Option.some.inj priced]
      · cases priced
    have found : store.preflightIntent ledger request.orderId = .ok intent.payload := by
      simp only [run_eq_ok, prepareExecution, Prod.mk.injEq] at prepared
      obtain ⟨-, _, found, -, -, -, rfl, -⟩ := prepared
      exact found
    rw [step.executedAt_eq]
    exact respects intent.payload (by rw [found]; rfl)
  | close request => cases priced

theorem NoEarlyFill.extends (noEarlyFill : NoEarlyFill ledger) (extended : Extends ledger result)
    {fill : FillRow} (mem : fill ∈ ledger.fills) :
    ∃ order intent, FillOf result fill order intent ∧
      intent.payload.earliestExecutionAt ≤ fill.executedAt := by
  obtain ⟨order, intent, belongs, notEarly⟩ := noEarlyFill fill mem
  obtain ⟨kept, -, keptBelongs⟩ := belongs.grows extended.intents extended.orders
  exact ⟨kept, intent, keptBelongs, notEarly⟩

/-- The books, with every fill late enough. -/
structure Windowed (store : PaperBrokerStore) (ledger : Ledger) : Prop where
  booked : Booked store ledger
  noEarlyFill : NoEarlyFill ledger

theorem Windowed.change (windowed : Windowed store ledger)
    (respects : RespectsEarliest store ledger call)
    (changed : Change store ledger call result) :
    Windowed store result := by
  refine ⟨windowed.booked.change changed, ?_⟩
  rcases changed.grows_or_fills windowed.booked.identities with
    grows | ⟨_, _, _, intent, _, _, _, _, step⟩
  · intro row mem
    rw [grows.fills] at mem
    exact windowed.noEarlyFill.extends grows.extends mem
  · intro row mem
    rw [step.fills_eq] at mem
    rcases List.mem_append.mp mem with old | new
    · exact windowed.noEarlyFill.extends step.extends old
    · rw [List.mem_singleton.mp new]
      obtain ⟨kept, belongs⟩ := step.fillOf_new
      exact ⟨kept, intent, belongs, step.not_early respects⟩

/-- In a run whose incremental executions respect the earliest execution time,
every fill lies in the window and within the limit of its intent. -/
theorem fills_inWindow {ledger : Ledger}
    (reachable : store.ReachableBy (RespectsEarliest store) ledger) :
    ∀ fill ∈ ledger.fills, (∃ order intent, FillOf ledger fill order intent) ∧
      ∀ order intent, FillOf ledger fill order intent →
        InWindow intent.payload fill.toPaperFill := by
  have windowed : Windowed store ledger := reachable.invariant
    ⟨⟨identities_openLedger, positions_openLedger⟩, nofun⟩
    fun windowed respects succeeds => windowed.change respects succeeds.change
  intro fill member
  obtain ⟨order, intent, belongs, facts⟩ := windowed.booked.positions.fills fill member
  refine ⟨⟨order, intent, belongs⟩, ?_⟩
  intro _ _ otherBelongs
  obtain ⟨-, rfl⟩ := belongs.unique otherBelongs windowed.booked.identities
  obtain ⟨_, _, earlyBelongs, notEarly⟩ := windowed.noEarlyFill fill member
  obtain ⟨-, rfl⟩ := belongs.unique earlyBelongs windowed.booked.identities
  refine ⟨notEarly, facts.beforeExpiry, ?_, ?_⟩
  · intro isLimit side limit mem
    exact not_lt.mp fun above => facts.withinLimit ⟨isLimit, limit, mem, .inl ⟨side, above⟩⟩
  · intro isLimit side limit mem
    exact not_lt.mp fun below => facts.withinLimit ⟨isLimit, limit, mem, .inr ⟨side, below⟩⟩

/-- An order accepted before its earliest time and executed at that time. -/
theorem fills_inWindow_sample :
    let store := Sample.store .exact ⟨5, 0⟩
    let ledger :=
      store.ledgerAfter (RespectsEarliest store)
        [Sample.submit (Sample.buyIntent 1 2 100) 1000 none 0 none,
          Sample.execute 1101 9 1000 2 100 none]
    ledger.fills.length = 1 ∧
      ∀ fill ∈ ledger.fills, (∃ order intent, FillOf ledger fill order intent) ∧
        ∀ order intent, FillOf ledger fill order intent →
          InWindow intent.payload fill.toPaperFill :=
  ⟨by decide +kernel, fills_inWindow (reachableBy_ledgerAfter _ _ _)⟩

/-- Without the condition, an incremental execution of an ACCEPTED order fills
before the intent's earliest execution time. -/
theorem incremental_fill_before_earliest :
    let store := Sample.store .exact ⟨5, 0⟩
    ∃ ledger, store.Reachable ledger ∧
      ∃ fill ∈ ledger.fills, ∃ order ∈ ledger.orders, order.orderId = fill.orderId ∧
        ∃ intent ∈ ledger.intents, intent.intentId = order.intentId ∧
          fill.executedAt < intent.payload.earliestExecutionAt :=
  ⟨_,
    reachable_ledgerOf _
      [Sample.submit (Sample.buyIntent 1 2 100) 1000 none 0 none,
        Sample.execute 1101 9 1000 2 50 none],
    by decide +kernel⟩

end PaperBrokerStore

end RQuant.Paper
