import RQuant.Paper.Conservation
import RQuant.Paper.Reconcile

/-!
# How balances accumulate

In every arithmetic, the stored cash and realized profit are what the fills add
up to one after the other, in the order they were applied.  What a SELL fill
consumed can be read from the consumption table at any later time.
-/

namespace RQuant.Paper

open Foundation
open List hiding after next count minimum

variable {after before result : Ledger} {call : Call} {tradeDate : Date} {order : OrderRow}
  {persistedAt : Time} {intent : PaperOrderIntent} {availableDate : Option Date}

namespace PaperBrokerStore

variable {store : PaperBrokerStore} {ledger : Ledger} {fill : PaperFill}

section

variable (positions : Positions store ledger)

include positions

theorem Positions.fillAllocations_fst (fillId : Digest) :
    (fillAllocations ledger fillId).map Prod.fst =
      ledger.consumptions.filter fun row => row.fillId = fillId := by
  apply map_filterMap_of_found
  intro row mem
  obtain ⟨_, _, _, _, _, lot, lotMem, consumed⟩ := positions.consumptions row (mem_filter.mp mem).1
  refine ⟨(row, lot), ?_, rfl⟩
  have found : findKey LotRow.lotId row.lotId ledger.lots = some lot := by
    rw [consumed.lotId]
    exact findKey_of_mem positions.lotIds lotMem
  rw [found]
  rfl

theorem Positions.consumedCost_eq (fillId : Digest) : store.consumedCost ledger fillId =
    store.arithmetic.sum
      ((ledger.consumptions.filter fun row => row.fillId = fillId).map
        fun row => store.arithmetic.mul row.unitCost row.quantity) := by
  rw [← positions.fillAllocations_fst fillId, map_map]
  rfl

theorem Positions.no_consumption (fresh : fillId ∉ ledger.fills.map (·.fillId)) :
    ledger.consumptions.filter (fun row => row.fillId = fillId) = [] := by
  refine filter_of_none fun row mem same => ?_
  obtain ⟨fill, fillMem, _, _, _, _, _, consumed⟩ := positions.consumptions row mem
  apply fresh
  rw [← same, consumed.fillId]
  exact fillId_mem fillMem

end

section

variable (effect : SellEffect store ledger result before intent fill tradeDate persistedAt
  allocations)

include effect

theorem SellEffect.consumptions_new (positions : Positions store ledger)
    (fresh : fill.fillId ∉ ledger.fills.map (·.fillId)) :
    (result.consumptions.filter fun row => row.fillId = fill.fillId) =
      consumptionRows fill persistedAt allocations := by
  have all_new :
      (consumptionRows fill persistedAt allocations).filter (fun row => row.fillId = fill.fillId) =
        consumptionRows fill persistedAt allocations := by
    rw [filter_eq_self]
    intro row mem
    obtain ⟨_, -, rfl⟩ := mem_map.mp mem
    exact decide_eq_true rfl
  rw [effect.consumptions, filter_append, positions.no_consumption fresh, all_new, nil_append]

theorem SellEffect.consumedCost_eq (positions : Positions store ledger)
    (resultPositions : Positions store result) (fresh : fill.fillId ∉ ledger.fills.map (·.fillId)) :
    store.consumedCost result fill.fillId = store.costBasis allocations := by
  rw [resultPositions.consumedCost_eq,
    effect.consumptions_new positions fresh, consumptionRows, map_map]
  rfl

end

section

variable (store : PaperBrokerStore) (ledger : Ledger)

def cashAfter (cash : ℚ) (fill : FillRow) : ℚ :=
  match ledger.fillSide fill with
  | some side => store.auditCash cash side fill.toPaperFill
  | none => cash

/-- The realized profit after a SELL fill, as `_apply_fill` computes it. -/
def realizedAfter (realizedPnl : ℚ)
    (fill : FillRow) : ℚ :=
  store.arithmetic.sub (store.arithmetic.add realizedPnl (store.netProceeds fill.toPaperFill))
    (store.consumedCost ledger fill.fillId)

/-- Both balances are accumulated over the fills in the order they were
applied. -/
structure Accumulated : Prop where
  booked : Booked store ledger
  cash : ledger.account.cash = ledger.fills.foldl (store.cashAfter ledger) store.initialCash.toRat
  realizedPnl :
    ledger.account.realizedPnl = (ledger.fillsOf .sell).foldl (store.realizedAfter ledger) 0

end

theorem accumulated_openLedger : Accumulated store store.openLedger where
  booked := ⟨identities_openLedger, positions_openLedger⟩
  cash := rfl
  realizedPnl := rfl

theorem cashAfter_extends (booked : Booked store ledger) (resultBooked : Booked store result)
    (extended : Extends ledger result) :
    ∀ cash, ∀ row ∈ ledger.fills,
      store.cashAfter result cash row = store.cashAfter ledger cash row := by
  intro cash row mem
  rw [cashAfter, cashAfter, booked.fillSide_extends resultBooked extended mem]

/-- Consumptions of new fills leave the cost of the earlier SELL fills. -/
theorem realizedAfter_appended (booked : Booked store ledger) (resultBooked : Booked store result)
    (appended : result.consumptions = ledger.consumptions ++ new)
    (fresh : ∀ other ∈ new, other.fillId ∉ ledger.fills.map (·.fillId)) :
    ∀ total, ∀ row ∈ ledger.fillsOf .sell,
      store.realizedAfter result total row = store.realizedAfter ledger total row := by
  intro total row mem
  rw [realizedAfter, realizedAfter, resultBooked.positions.consumedCost_eq,
    booked.positions.consumedCost_eq, appended, filter_append_of_none]
  exact fun other otherMem same =>
    fresh other otherMem (same ▸ mem_map_of_mem (mem_filter.mp mem).1)

theorem Accumulated.grows (accumulated : Accumulated store ledger)
    (resultBooked : Booked store result) (grows : Grows ledger result) :
    Accumulated store result := by
  have booked := accumulated.booked
  refine ⟨resultBooked, ?_, ?_⟩
  · rw [grows.account, grows.fills,
      foldl_ext _ _ _ (cashAfter_extends booked resultBooked grows.extends)]
    exact accumulated.cash
  · have sameCost :=
      realizedAfter_appended booked resultBooked (by rw [grows.consumptions, append_nil]) (by simp)
    rw [grows.account, fillsOf_grows booked resultBooked grows, foldl_ext _ _ _ sameCost]
    exact accumulated.realizedPnl

theorem FillStep.fresh {intent : IntentRow}
    (step : FillStep store ledger call result before after order intent fill costs
      tradeDate availableDate) :
    fill.fillId ∉ ledger.fills.map (·.fillId) := by
  have fresh := (applyFill_fills step.applied).1.fillId
  rwa [step.grows.fills] at fresh

theorem Accumulated.fillStep {intent : IntentRow} (accumulated : Accumulated store ledger)
    (resultBooked : Booked store result)
    (step : FillStep store ledger call result before after order intent fill costs
      tradeDate availableDate) :
    Accumulated store result := by
  have booked := accumulated.booked
  have cashFold : result.fills.foldl (store.cashAfter result) store.initialCash.toRat =
      store.auditCash ledger.account.cash intent.payload.side fill := by
    rw [step.fills_eq, foldl_append,
      foldl_ext _ _ _ (cashAfter_extends booked resultBooked step.extends),
      ← accumulated.cash, foldl_cons, foldl_nil, cashAfter, step.fillSide_new resultBooked]
    rfl
  have sides := step.fillsOf_eq booked resultBooked .sell
  rcases step.effect with ⟨_, effect⟩ | ⟨allocations, effect⟩
  · refine ⟨resultBooked, ?_, ?_⟩
    · rw [cashFold, effect.account, effect.side]
      rfl
    · have sameCost :=
        realizedAfter_appended booked resultBooked (by rw [effect.consumptions, append_nil])
          (by simp)
      rw [effect.account, sides, effect.side, if_neg (by decide),
        append_nil, foldl_ext _ _ _ sameCost]
      exact accumulated.realizedPnl
  · have fresh : ∀ other ∈ consumptionRows fill call.persistedAt allocations,
        other.fillId ∉ ledger.fills.map (·.fillId) := by
      intro other otherMem
      obtain ⟨_, -, rfl⟩ := mem_map.mp otherMem
      exact step.fresh
    have sameCost := realizedAfter_appended booked resultBooked effect.consumptions fresh
    have newCost := effect.consumedCost_eq booked.positions resultBooked.positions step.fresh
    refine ⟨resultBooked, ?_, ?_⟩
    · rw [cashFold, effect.account, effect.side]
      rfl
    · rw [effect.account, sides, effect.side, if_pos rfl, foldl_append,
        foldl_ext _ _ _ sameCost, ← accumulated.realizedPnl, foldl_cons, foldl_nil, realizedAfter]
      exact congrArg (store.arithmetic.sub _) newCost.symm

theorem Accumulated.change (accumulated : Accumulated store ledger)
    (changed : Change store ledger call result) :
    Accumulated store result := by
  have resultBooked := accumulated.booked.change changed
  rcases changed.grows_or_fills accumulated.booked.identities with
    grows | ⟨_, _, _, _, _, _, _, _, step⟩
  · exact accumulated.grows resultBooked grows
  · exact accumulated.fillStep resultBooked step

theorem accumulated_of_reachableBy (reachable : store.ReachableBy allowed ledger) :
    Accumulated store ledger :=
  reachable.invariant accumulated_openLedger
    fun accumulated _ succeeds => accumulated.change succeeds.change

end PaperBrokerStore

end RQuant.Paper
