import RQuant.Foundation.Grid
import RQuant.Paper.Reconciliation

/-!
# Realized profit in decimal arithmetic

`_apply_fill` adds up profits in the order of the calls, `reconcile` in the
order of the fill ids.  With 28 digits the totals can differ.  They agree when
all prices stay on one decimal grid and the turnover within its digits.
-/

namespace RQuant.Paper

open Foundation List

def Ledger.consumedValue (ledger : Ledger) : ℚ :=
  (ledger.consumptions.map fun row => row.unitCost * (row.quantity : ℚ)).sum

def Ledger.fillCost (ledger : Ledger) (fillId : Digest) : ℚ :=
  ((ledger.consumptions.filter fun row => row.fillId = fillId).map
    fun row => row.unitCost * (row.quantity : ℚ)).sum

variable {row : ConsumptionRow} {total value : ℚ}

namespace PaperBrokerStore

section Definitions

variable (store : PaperBrokerStore)

def turnoverOf (fill : PaperFill) : ℚ := fill.notional store.arithmetic + fill.totalFees

def turnover (ledger : Ledger) : ℚ :=
  (ledger.fills.map fun fill => store.turnoverOf fill.toPaperFill).sum

def soldTurnover (ledger : Ledger) : ℚ :=
  ((ledger.fillsOf .sell).map fun fill => store.turnoverOf fill.toPaperFill).sum

/-- A call that prices an execution does so on the grid, down to the cost of one
share bought, and keeps the turnover within the limit of the grid. -/
def GridPriced (exponent : ℤ) (ledger : Ledger) (call : Call) : Prop :=
  ∀ priced ∈ store.pricing ledger call,
    OnGrid exponent priced.2.executedNotional ∧ OnGrid exponent priced.2.totalFees ∧
      (priced.1.side = .buy →
        OnGrid exponent
          ((priced.2.executedNotional + priced.2.totalFees) / priced.2.orderInput.quantity)) ∧
      store.turnover ledger + (priced.2.executedNotional + priced.2.totalFees) ≤ gridLimit exponent

instance (exponent : ℤ) (ledger : Ledger) (call : Call) :
    Decidable (GridPriced store exponent ledger call) :=
  inferInstanceAs (Decidable (∀ _ ∈ _, _))

end Definitions

variable {store : PaperBrokerStore} {exponent : ℤ}

theorem round_onGrid (decimal : store.arithmetic = .decimal28) (grid : OnGrid exponent value)
    (within : |value| ≤ gridLimit exponent) :
    store.arithmetic.round value = value := by
  rw [decimal]
  exact grid.round_eq within

variable {ledger result : Ledger} {fill : FillRow}

section

variable (booked : Booked store ledger)

include booked

theorem Booked.fill_nonneg (mem : fill ∈ ledger.fills) :
    0 ≤ fill.toPaperFill.notional store.arithmetic ∧ 0 ≤ fill.totalFees := by
  obtain ⟨_, _, -, facts⟩ := booked.positions.fills fill mem
  obtain ⟨-, price, fees⟩ := validateFill_eq_ok facts.valid
  exact ⟨store.arithmetic.round_nonneg (mul_nonneg price.le (Nat.cast_nonneg _)), fees⟩

theorem Booked.turnoverOf_nonneg (mem : fill ∈ ledger.fills) :
    0 ≤ store.turnoverOf fill.toPaperFill :=
  add_nonneg (booked.fill_nonneg mem).1 (booked.fill_nonneg mem).2

theorem Booked.consumption_nonneg (mem : row ∈ ledger.consumptions) :
    0 ≤ row.unitCost * (row.quantity : ℚ) := by
  obtain ⟨_, _, _, _, _, _, lotMem, consumed⟩ := booked.positions.consumptions row mem
  rw [consumed.unitCost]
  exact mul_nonneg (booked.unitCost_pos lotMem).le (Nat.cast_nonneg _)

theorem Booked.holdingCost_nonneg : 0 ≤ ledger.holdingCost := by
  apply sum_nonneg
  intro _ mem
  obtain ⟨_, lotMem, rfl⟩ := mem_map.mp mem
  exact mul_nonneg (booked.unitCost_pos lotMem).le (Nat.cast_nonneg _)

theorem Booked.soldTurnover_nonneg : 0 ≤ store.soldTurnover ledger := by
  apply sum_nonneg
  intro _ mem
  obtain ⟨_, fillMem, rfl⟩ := mem_map.mp mem
  exact booked.turnoverOf_nonneg (mem_filter.mp fillMem).1

theorem Booked.fillCost_nonneg (fillId : Digest) : 0 ≤ ledger.fillCost fillId := by
  apply sum_nonneg
  intro _ mem
  obtain ⟨_, rowMem, rfl⟩ := mem_map.mp mem
  exact booked.consumption_nonneg (mem_filter.mp rowMem).1

theorem Booked.sum_fillCost_le {fills : List FillRow} (among : fills.Sublist ledger.fills) :
    (fills.map fun fill => ledger.fillCost fill.fillId).sum ≤ ledger.consumedValue := by
  have distinct : (fills.map (·.fillId)).Nodup := booked.positions.fillIds.sublist (among.map _)
  have grouped : ((fills.map (·.fillId)).map ledger.fillCost).sum ≤ ledger.consumedValue :=
    sum_filter_key_le distinct fun _ mem => booked.consumption_nonneg mem
  rwa [map_map] at grouped

end

/-- Everything booked lies on the grid, and what was bought is either sold or
held at cost. -/
structure Gridded (store : PaperBrokerStore) (exponent : ℤ) (ledger : Ledger) : Prop where
  audited : Audited store ledger
  fills : ∀ fill ∈ ledger.fills,
    OnGrid exponent (fill.toPaperFill.notional store.arithmetic) ∧ OnGrid exponent fill.totalFees
  lots : ∀ lot ∈ ledger.lots, OnGrid exponent lot.unitCost
  balance :
    ledger.consumedValue + ledger.holdingCost + store.soldTurnover ledger = store.turnover ledger
  within : store.turnover ledger ≤ gridLimit exponent

theorem gridded_openLedger : Gridded store exponent store.openLedger where
  audited := ⟨⟨identities_openLedger, positions_openLedger⟩, receipts_openLedger⟩
  fills := by simp [openLedger]
  lots := by simp [openLedger]
  balance := by
    simp [openLedger, Ledger.consumedValue, Ledger.holdingCost, soldTurnover,
      turnover, Ledger.fillsOf]
  within := by
    simp only [openLedger, turnover, map_nil, sum_nil, gridLimit]
    positivity

theorem Gridded.grows (gridded : Gridded store exponent ledger)
    (resultAudited : Audited store result) (grows : Grows ledger result) :
    Gridded store exponent result := by
  have sides := fillsOf_grows gridded.audited.toBooked resultAudited.toBooked grows
  have sameTurnover : store.turnover result = store.turnover ledger := by
    rw [turnover, grows.fills, ← turnover]
  refine ⟨resultAudited, ?_, ?_, ?_, ?_⟩
  · rw [grows.fills]
    exact gridded.fills
  · rw [grows.lots]
    exact gridded.lots
  · rw [sameTurnover, Ledger.consumedValue, grows.consumptions,
      Ledger.holdingCost, grows.lots, soldTurnover, sides]
    exact gridded.balance
  · rw [sameTurnover]
    exact gridded.within

section FillStep

variable {ledger result before after : Ledger} {call : Call}
  {order : OrderRow} {intent : IntentRow} {fill : PaperFill}
  {costs : ExecutionCostCalculation} {tradeDate : Date}
  {availableDate : Option Date}

section

variable (step : FillStep store ledger call result before after order intent fill costs tradeDate
  availableDate)

include step

theorem FillStep.gridPriced (priced : GridPriced store exponent ledger call) :
    OnGrid exponent (fill.notional store.arithmetic) ∧ OnGrid exponent fill.totalFees ∧
      (intent.payload.side = .buy → OnGrid exponent (store.turnoverOf fill / fill.quantity)) ∧
      store.turnover ledger + store.turnoverOf fill ≤ gridLimit exponent := by
  have conditions := priced _ step.pricing_eq
  obtain ⟨notional, fees⟩ := step.context.charges
  rw [← notional, ← fees, step.context.pricedQuantity] at conditions
  exact conditions

theorem FillStep.turnover_eq :
    store.turnover result = store.turnover ledger + store.turnoverOf fill := by
  rw [turnover, step.fills_eq, map_append, sum_append, ← turnover]
  simp [recordedFill]

end

theorem Booked.turnover_nonneg (booked : Booked store ledger) : 0 ≤ store.turnover ledger := by
  apply sum_nonneg
  intro _ mem
  obtain ⟨_, fillMem, rfl⟩ := mem_map.mp mem
  exact booked.turnoverOf_nonneg fillMem

theorem FillStep.unitCost_eq (decimal : store.arithmetic = .decimal28)
    (booked : Booked store ledger)
    (step : FillStep store ledger call result before after order intent fill costs
      tradeDate availableDate)
    (priced : GridPriced store exponent ledger call) (buys : intent.payload.side = .buy) :
    store.arithmetic.div (store.buyCost fill) fill.quantity =
      store.turnoverOf fill / fill.quantity := by
  obtain ⟨notionalGrid, feesGrid, perShare, _⟩ := step.gridPriced priced
  obtain ⟨quantity, price, fees⟩ := validateFill_eq_ok step.context.valid
  have quantityOne : (1 : ℚ) ≤ fill.quantity := by
    exact_mod_cast quantity.1
  have nonneg : 0 ≤ store.turnoverOf fill :=
    add_nonneg (store.arithmetic.round_nonneg (mul_nonneg price.le (Nat.cast_nonneg _))) fees
  have limit : store.turnoverOf fill ≤ gridLimit exponent := by
    have turnoverNonneg := booked.turnover_nonneg
    linarith
  have cost : store.buyCost fill = store.turnoverOf fill :=
    round_onGrid decimal (notionalGrid.add feesGrid) ((abs_of_nonneg nonneg).trans_le limit)
  rw [cost]
  refine round_onGrid decimal (perShare buys) ?_
  rw [abs_of_nonneg (div_nonneg nonneg (by linarith))]
  exact (div_le_self nonneg quantityOne).trans limit

/-- A fill priced on the grid leaves every amount on the grid, where sums are exact. -/
theorem Gridded.fillStep (decimal : store.arithmetic = .decimal28)
    (gridded : Gridded store exponent ledger) (resultAudited : Audited store result)
    (step : FillStep store ledger call result before after order intent fill costs
      tradeDate availableDate)
    (priced : GridPriced store exponent ledger call) :
    Gridded store exponent result := by
  have booked := gridded.audited.toBooked
  have sides := step.fillsOf_eq booked resultAudited.toBooked .sell
  obtain ⟨notionalGrid, feesGrid, perShare, within⟩ := step.gridPriced priced
  have fills : ∀ row ∈ result.fills, OnGrid exponent (row.toPaperFill.notional store.arithmetic) ∧
      OnGrid exponent row.totalFees := by
    intro row mem
    rw [step.fills_eq, mem_concat] at mem
    rcases mem with old | rfl
    · exact gridded.fills row old
    · exact ⟨notionalGrid, feesGrid⟩
  have resultWithin : store.turnover result ≤ gridLimit exponent := by
    rw [step.turnover_eq]
    exact within
  have balance := gridded.balance
  rcases step.effect with ⟨_, effect⟩ | ⟨allocations, effect⟩
  · have unitCost := step.unitCost_eq decimal booked priced effect.side
    have quantityNe : (fill.quantity : ℚ) ≠ 0 := by
      have quantityPos := (validateFill_eq_ok step.context.valid).1.1
      exact_mod_cast quantityPos.ne'
    refine ⟨resultAudited, fills, ?_, ?_, resultWithin⟩
    · intro lot mem
      rw [effect.lots, mem_concat] at mem
      rcases mem with old | rfl
      · exact gridded.lots lot old
      · rw [acquiredLot, unitCost]
        exact perShare effect.side
    · have sold : store.soldTurnover result = store.soldTurnover ledger := by
        rw [soldTurnover, sides, effect.side, if_neg (by decide), append_nil, ← soldTurnover]
      rw [step.turnover_eq, effect.holdingCost_add, unitCost,
        div_mul_cancel₀ _ quantityNe, sold, Ledger.consumedValue,
        effect.consumptions, ← Ledger.consumedValue]
      linarith
  · have lotIds := booked.positions.lotIds
    have holding := effect.holdingCost_add lotIds
    refine ⟨resultAudited, fills, ?_, ?_, resultWithin⟩
    · intro lot mem
      rw [effect.lots] at mem
      obtain ⟨old, oldMem, rfl⟩ := mem_consumeLots.mp mem
      exact gridded.lots old oldMem
    · have sold :
          store.soldTurnover result = store.soldTurnover ledger + store.turnoverOf fill := by
        rw [soldTurnover, sides, effect.side, if_pos rfl, map_append, sum_append, ← soldTurnover]
        simp [recordedFill]
      have consumed : result.consumedValue =
          ledger.consumedValue +
            (allocations.map fun allocation =>
              allocation.1.unitCost * (allocation.2 : ℚ)).sum := by
        rw [Ledger.consumedValue, effect.consumptions, map_append,
          sum_append, ← Ledger.consumedValue, consumptionRows, map_map]
        rfl
      rw [step.turnover_eq, sold, consumed]
      linarith

end FillStep

theorem Gridded.change (decimal : store.arithmetic = .decimal28)
    (gridded : Gridded store exponent ledger) (priced : GridPriced store exponent ledger call)
    (changed : Change store ledger call result) :
    Gridded store exponent result := by
  have resultAudited := gridded.audited.change changed
  rcases changed.grows_or_fills gridded.audited.identities with
    grows | ⟨_, _, _, _, _, _, _, _, step⟩
  · exact gridded.grows resultAudited grows
  · exact gridded.fillStep decimal resultAudited step priced

/-! ## Both totals are exact -/

section Totals

variable {ledger : Ledger}

section

variable (gridded : Gridded store exponent ledger)

include gridded

theorem Gridded.consumedValue_le :
    store.soldTurnover ledger + ledger.consumedValue ≤ gridLimit exponent := by
  have holding := gridded.audited.toBooked.holdingCost_nonneg
  have balance := gridded.balance
  have within := gridded.within
  linarith

theorem Gridded.consumption_grid (mem : row ∈ ledger.consumptions) :
    OnGrid exponent (row.unitCost * (row.quantity : ℚ)) := by
  obtain ⟨_, _, _, _, _, lot, lotMem, consumed⟩ := gridded.audited.positions.consumptions row mem
  rw [consumed.unitCost]
  exact (gridded.lots lot lotMem).mul_natCast row.quantity

theorem Gridded.fillCost_grid (fillId : Digest) : OnGrid exponent (ledger.fillCost fillId) := by
  apply OnGrid.sum
  intro _ mem
  obtain ⟨_, rowMem, rfl⟩ := mem_map.mp mem
  exact gridded.consumption_grid (mem_filter.mp rowMem).1

end

section

variable (decimal : store.arithmetic = .decimal28)

include decimal

theorem Gridded.consumedCost_eq (gridded : Gridded store exponent ledger) (fillId : Digest) :
    store.consumedCost ledger fillId = ledger.fillCost fillId := by
  have booked := gridded.audited.toBooked
  have limit : ledger.consumedValue ≤ gridLimit exponent := by
    have sold := booked.soldTurnover_nonneg
    have total := gridded.consumedValue_le
    linarith
  have nonneg :
      ∀ cost ∈ ledger.consumptions.map fun row => row.unitCost * (row.quantity : ℚ), 0 ≤ cost := by
    intro cost mem
    obtain ⟨row, rowMem, rfl⟩ := mem_map.mp mem
    exact booked.consumption_nonneg rowMem
  have products : ∀ row ∈ ledger.consumptions.filter fun row => row.fillId = fillId,
      store.arithmetic.mul row.unitCost row.quantity = row.unitCost * (row.quantity : ℚ) := by
    intro row mem
    have rowMem := (mem_filter.mp mem).1
    refine round_onGrid decimal (gridded.consumption_grid rowMem) ?_
    rw [abs_of_nonneg (booked.consumption_nonneg rowMem)]
    exact (single_le_sum nonneg _ (mem_map_of_mem rowMem)).trans limit
  rw [booked.positions.consumedCost_eq, map_congr_left products, decimal]
  have grid : ∀ cost ∈ (ledger.consumptions.filter fun row => row.fillId = fillId).map
        fun row => row.unitCost * (row.quantity : ℚ),
      OnGrid exponent cost ∧ 0 ≤ cost := by
    intro cost mem
    obtain ⟨row, rowMem, rfl⟩ := mem_map.mp mem
    have consumption := (mem_filter.mp rowMem).1
    exact ⟨gridded.consumption_grid consumption, booked.consumption_nonneg consumption⟩
  exact decimal28_sum_onGrid grid (((filter_sublist.map _).sum_le_sum nonneg).trans limit)

section

variable (store : PaperBrokerStore) (ledger : Ledger) (fill : FillRow)

def profitOf : ℚ :=
  fill.toPaperFill.notional store.arithmetic - fill.totalFees - ledger.fillCost fill.fillId

/-- The amounts that make up the profit of a SELL fill. -/
def profitWeight : ℚ :=
  store.turnoverOf fill.toPaperFill + ledger.fillCost fill.fillId

end

omit decimal in
theorem Gridded.profitOf_bound (gridded : Gridded store exponent ledger)
    (mem : fill ∈ ledger.fills) :
    OnGrid exponent (store.profitOf ledger fill) ∧
      |store.profitOf ledger fill| ≤ store.profitWeight ledger fill := by
  have booked := gridded.audited.toBooked
  obtain ⟨notionalGrid, feesGrid⟩ := gridded.fills fill mem
  obtain ⟨_, _⟩ := booked.fill_nonneg mem
  have cost := booked.fillCost_nonneg fill.fillId
  refine ⟨(notionalGrid.sub feesGrid).sub (gridded.fillCost_grid _), ?_⟩
  unfold profitOf profitWeight turnoverOf
  rw [abs_le]
  constructor <;> linarith

/-- Every operation on the profit of a fill is exact within the limit, in
either grouping. -/
theorem Gridded.realized_step (gridded : Gridded store exponent ledger)
    (totalGrid : OnGrid exponent total) (mem : fill ∈ ledger.fills)
    (within :
      |total| + store.profitWeight ledger fill ≤ gridLimit exponent) :
    store.realizedAfter ledger total fill = total + store.profitOf ledger fill ∧
      store.auditRealized ledger total .sell fill.toPaperFill =
        total + store.profitOf ledger fill := by
  have booked := gridded.audited.toBooked
  obtain ⟨notionalGrid, feesGrid⟩ := gridded.fills fill mem
  obtain ⟨notional, _⟩ := booked.fill_nonneg mem
  have costGrid := gridded.fillCost_grid fill.fillId
  have cost := booked.fillCost_nonneg fill.fillId
  have basis := gridded.consumedCost_eq decimal fill.fillId
  have netGrid := notionalGrid.sub feesGrid
  unfold profitWeight turnoverOf at within
  have lower := neg_abs_le total
  have upper := le_abs_self total
  have net : store.netProceeds fill.toPaperFill =
      fill.toPaperFill.notional store.arithmetic - fill.totalFees :=
    round_onGrid decimal netGrid (by rw [abs_le]; constructor <;> linarith [abs_nonneg total])
  unfold realizedAfter auditRealized profitOf
  simp only [net, basis]
  constructor
  · have added := round_onGrid decimal (totalGrid.add netGrid)
      (by rw [abs_le]; constructor <;> linarith)
    rw [DecimalContext.add, added]
    refine (round_onGrid decimal ((totalGrid.add netGrid).sub costGrid)
      (by rw [abs_le]; constructor <;> linarith)).trans ?_
    ring
  · have profit := round_onGrid decimal (netGrid.sub costGrid)
      (by rw [abs_le]; constructor <;> linarith [abs_nonneg total])
    rw [DecimalContext.sub, profit]
    exact round_onGrid decimal (totalGrid.add (netGrid.sub costGrid))
      (by rw [abs_le]; constructor <;> linarith)

omit decimal in
theorem Gridded.foldl_profit (gridded : Gridded store exponent ledger)
    {fills : List FillRow} (among : fills.Perm (ledger.fillsOf .sell))
    (exact : ∀ total, OnGrid exponent total → ∀ fill ∈ ledger.fills,
      |total| + store.profitWeight ledger fill ≤ gridLimit exponent →
        step total fill = total + store.profitOf ledger fill) :
    fills.foldl step 0 = ((ledger.fillsOf .sell).map (store.profitOf ledger)).sum := by
  have booked := gridded.audited.toBooked
  have members : ∀ fill ∈ fills, fill ∈ ledger.fills := fun fill mem =>
    (mem_filter.mp (among.subset mem)).1
  have weights :
      |(0 : ℚ)| + (fills.map (store.profitWeight ledger)).sum ≤ gridLimit exponent := by
    have costs : ((ledger.fillsOf .sell).map
        fun fill => ledger.fillCost fill.fillId).sum ≤ ledger.consumedValue :=
      booked.sum_fillCost_le filter_sublist
    have limit := gridded.consumedValue_le
    rw [(among.map _).sum_eq]
    unfold profitWeight
    rw [sum_map_add, ← soldTurnover, abs_zero]
    linarith
  have total := foldl_onGrid (store.profitOf ledger) (store.profitWeight ledger)
    (fun fill mem => gridded.profitOf_bound (members fill mem))
    (fun total totalGrid fill mem => exact total totalGrid fill (members fill mem))
    OnGrid.zero weights
  rw [total, zero_add, (among.map _).sum_eq]

theorem Gridded.realizedPnl_eq (gridded : Gridded store exponent ledger)
    (accumulated : Accumulated store ledger) :
    ledger.account.realizedPnl = ((ledger.fillsOf .sell).map (store.profitOf ledger)).sum := by
  rw [accumulated.realizedPnl]
  exact gridded.foldl_profit (List.Perm.refl _)
    fun total totalGrid fill mem within => (gridded.realized_step decimal totalGrid mem within).1

theorem Gridded.auditRealized_eq (gridded : Gridded store exponent ledger) :
    (store.auditFills ledger).foldl
        (fun realizedPnl item =>
          store.auditRealized ledger realizedPnl item.order.side item.row.toPaperFill) 0 =
      ((ledger.fillsOf .sell).map (store.profitOf ledger)).sum := by
  have booked := gridded.audited.toBooked
  have sellsOnly : ∀ total, ∀ fill ∈ (store.auditFills ledger).map AuditFill.row,
      store.realizedAfterFill ledger total fill =
        if ledger.fillSide fill = some .sell then
          store.auditRealized ledger total .sell fill.toPaperFill
        else total := by
    intro total fill _
    unfold realizedAfterFill
    rcases ledger.fillSide fill with _ | _ | _ <;> rfl
  rw [booked.auditRealized_fold, foldl_ext _ _ _ sellsOnly]
  have filtered := gridded.foldl_profit (booked.auditFills_perm.filter _)
    fun total totalGrid fill mem within => (gridded.realized_step decimal totalGrid mem within).2
  rw [foldl_filter] at filtered
  simpa only [decide_eq_true_eq] using filtered

end

end Totals

/-- In every run whose executions are priced on one decimal grid, with the
turnover within its digits, the stored realized profit is the one `reconcile`
computes again from the fills. -/
theorem decimal_realizedPnl_reconciles {ledger : Ledger} (decimal : store.arithmetic = .decimal28)
    (reachable : store.ReachableBy (GridPriced store exponent) ledger) :
    ∃ audit,
      store.auditAllFills ledger = .ok audit ∧ audit.realizedPnl = ledger.account.realizedPnl := by
  have gridded : Gridded store exponent ledger := reachable.invariant gridded_openLedger
    fun gridded priced succeeds => gridded.change decimal priced succeeds.change
  have accumulated := accumulated_of_reachableBy reachable
  choose! costs recalculated using
    fun (item : AuditFill) (member : item ∈ store.auditFills ledger) =>
      gridded.audited.auditCosts_ok member
  have passes := fun (item : AuditFill) (member : item ∈ store.auditFills ledger) =>
      gridded.audited.auditedWith member (recalculated item member)
  refine ⟨_, foldlM_auditFill passes _, ?_⟩
  rw [gridded.realizedPnl_eq decimal accumulated]
  exact gridded.auditRealized_eq decimal

/-- 200 shares at 10.00 with 5.00 of fees cost 10.025 each: three decimals are
enough for the BUY and the SELL of half of them. -/
theorem decimal_realizedPnl_reconciles_sample :
    let store := Sample.store .decimal28 ⟨5, 0⟩
    let ledger :=
      store.ledgerAfter (GridPriced store (-3))
        [Sample.submit (Sample.buyIntent 1 2 0) 1000 none 0 none,
          Sample.submit (Sample.halfIntent 2 1 Sample.day) 1100 none Sample.day none]
    ledger.fills.length = 2 ∧
      ∃ audit,
        store.auditAllFills ledger = .ok audit ∧ audit.realizedPnl = ledger.account.realizedPnl :=
  ⟨by decide +kernel, decimal_realizedPnl_reconciles rfl (reachableBy_ledgerAfter _ _ _)⟩

/-- 300 shares for 305.00 cost 1.01666... each.  Selling 100 at 1000.00 and then
100 at 2.00 stores a realized profit that ends in 3; computed again from the
fills it ends in 6. -/
theorem decimal_realizedPnl_differs :
    let store := Sample.store .decimal28 ⟨5, 0⟩
    ∃ ledger, store.Reachable ledger ∧
      ledger.account.realizedPnl = 9998666666666666666666666663 / 10 ^ 23 ∧
      (store.auditAllFills ledger).map FillAudit.realizedPnl =
        .ok (9998666666666666666666666666 / 10 ^ 23) :=
  ⟨_,
    reachable_ledgerOf _
      [Sample.submit (Sample.buyIntent 1 3 0) 100 none 0 none,
        Sample.submit (Sample.exitIntent 2 1 3 Sample.day) 100000 (some 1) Sample.day none,
        Sample.execute 1102 8 200 1 (Sample.day + 1) none],
    by decide +kernel⟩

end PaperBrokerStore

end RQuant.Paper
