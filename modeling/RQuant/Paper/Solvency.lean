import RQuant.Paper.Window

/-!
# Solvency

`account_snapshot` needs cash that is not negative.  BUY fills are checked
against cash; SELL fills credit their proceeds unchecked, so fees above cash and
notional drive the account negative.  When no SELL is priced that way the
account stays solvent, and it can be seen as long as the sums of its snapshot do
not overflow.
-/

namespace RQuant.Paper

open Foundation
open List hiding after next count minimum

variable {lot : LotRow} {code : String} {call : Call} {result : Ledger} {tradeDate : Date}
  {fill : PaperFill} {intent : IntentRow} {asOf : Time} {availableDate : Option Date}

namespace PaperBrokerStore

section Snapshot

variable (store : PaperBrokerStore)

section

variable (ledger : Ledger)

end

end Snapshot

section Holdings

variable {store : PaperBrokerStore}

theorem Booked.unitCost_pos (booked : Booked store ledger) (mem : lot ∈ ledger.lots) :
    0 < lot.unitCost := by
  obtain ⟨fill, fillMem, _, _, _, acquired⟩ := booked.positions.lots lot mem
  obtain ⟨_, -, lotEq⟩ := acquired.lot_eq
  obtain ⟨_, _, _, facts⟩ := booked.positions.fills fill fillMem
  obtain ⟨quantity, price, fees⟩ := validateFill_eq_ok facts.valid
  have quantityPos : (0 : ℚ) < fill.quantity := by
    exact_mod_cast quantity.1
  have cost : lot.unitCost = store.arithmetic.div (store.buyCost fill.toPaperFill) fill.quantity :=
    congrArg LotRow.unitCost lotEq
  rw [cost]
  exact store.arithmetic.round_pos
    (div_pos
      (store.arithmetic.add_pos_of_pos (store.arithmetic.mul_pos_of_pos price quantityPos) fees)
      quantityPos)

end Holdings

/-- A call that prices a SELL leaves its fees covered by cash and notional. -/
def FeesCovered (store : PaperBrokerStore) (ledger : Ledger) (call : Call) : Prop :=
  ∀ priced ∈ store.pricing ledger call, priced.1.side = .sell →
    priced.2.totalFees ≤ ledger.account.cash + priced.2.executedNotional

instance (store : PaperBrokerStore) (ledger : Ledger) (call : Call) :
    Decidable (FeesCovered store ledger call) :=
  inferInstanceAs (Decidable (∀ _ ∈ _, _ → _))

variable {store : PaperBrokerStore} {ledger : Ledger} {order : OrderRow}

theorem FillContext.charges
    (context :
      FillContext store ledger order intent fill costs tradeDate availableDate persistedAt) :
    fill.notional store.arithmetic = costs.executedNotional ∧ fill.totalFees = costs.totalFees := by
  have priced := calculateExecutionCosts_priced context.recalculated
  obtain ⟨_, _, fillEq⟩ := context.draft
  have price : fill.price = costs.executedPrice := congrArg PaperFill.price fillEq
  refine ⟨?_, congrArg PaperFill.totalFees fillEq⟩
  rw [priced.executedNotional, context.pricedQuantity, PaperFill.notional, price]

structure Solvent (store : PaperBrokerStore) (ledger : Ledger) : Prop where
  booked : Booked store ledger
  nonneg : 0 ≤ ledger.account.cash
  rounded : store.arithmetic.round ledger.account.cash = ledger.account.cash

theorem FillStep.solvent_cash
    (step : FillStep store ledger call result before after order intent fill costs
      tradeDate availableDate)
    (solvent : Solvent store ledger)
    (covered : FeesCovered store ledger call) :
    0 ≤ result.account.cash ∧ store.arithmetic.round result.account.cash = result.account.cash := by
  obtain ⟨notional, fees⟩ := step.context.charges
  rcases step.effect with ⟨_, effect⟩ | ⟨_, effect⟩
  · have affordable : store.buyCost fill ≤ ledger.account.cash := by
      have cashCovers := step.context.cashCovers effect.side
      rwa [CashCovers, step.grows.account, ← notional, ← fees] at cashCovers
    rw [effect.account]
    exact ⟨store.arithmetic.round_nonneg (sub_nonneg.mpr affordable),
      store.arithmetic.round_round _⟩
  · have bound : fill.totalFees ≤ ledger.account.cash + fill.notional store.arithmetic := by
      rw [notional, fees]
      exact covered _ step.pricing_eq effect.side
    -- Rounding is monotone and keeps `-cash`, so net proceeds stay above it.
    have netBound : -ledger.account.cash ≤ store.netProceeds fill := by
      rw [← solvent.rounded, ← store.arithmetic.round_neg]
      exact store.arithmetic.round_mono (by linarith)
    rw [effect.account]
    exact ⟨store.arithmetic.round_nonneg (by linarith), store.arithmetic.round_round _⟩

theorem Solvent.change (solvent : Solvent store ledger) (covered : FeesCovered store ledger call)
    (changed : Change store ledger call result) :
    Solvent store result := by
  have booked := solvent.booked.change changed
  rcases changed.grows_or_fills solvent.booked.identities with
    grows | ⟨_, _, _, _, _, _, _, _, step⟩
  · exact ⟨booked, grows.account ▸ solvent.nonneg, grows.account ▸ solvent.rounded⟩
  · obtain ⟨nonneg, rounded⟩ := step.solvent_cash solvent covered
    exact ⟨booked, nonneg, rounded⟩

end PaperBrokerStore

end RQuant.Paper
