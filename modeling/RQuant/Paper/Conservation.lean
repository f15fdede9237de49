import RQuant.Paper.Positions

/-!
# Conservation

In exact arithmetic every reachable ledger conserves value.  Cash is the initial
cash less what BUY fills cost plus what SELL fills brought in, and cash together
with the cost of the remaining lots is the initial cash plus the realized
profit.
-/

namespace RQuant.Paper

open Foundation DecimalContext
open List hiding after next count minimum

/-- What a BUY fill takes out of cash, in exact arithmetic. -/
def FillRow.outlay (fill : FillRow) : ℚ := fill.price * fill.quantity + fill.totalFees

/-- What a SELL fill brings into cash, in exact arithmetic. -/
def FillRow.proceeds (fill : FillRow) : ℚ := fill.price * fill.quantity - fill.totalFees

namespace Ledger

def fillsOf (ledger : Ledger) (side : Side) : List FillRow :=
  ledger.fills.filter fun fill => ledger.fillSide fill = some side

def spent (ledger : Ledger) : ℚ := ((ledger.fillsOf .buy).map FillRow.outlay).sum

def received (ledger : Ledger) : ℚ := ((ledger.fillsOf .sell).map FillRow.proceeds).sum

def holdingCost (ledger : Ledger) : ℚ :=
  (ledger.lots.map fun lot => lot.unitCost * (lot.remainingQuantity : ℚ)).sum

end Ledger

variable {after before result : Ledger} {call : Call} {tradeDate : Date} {persistedAt : Time}
  {availableDate : Option Date}

namespace PaperBrokerStore

variable {store : PaperBrokerStore}
  {ledger : Ledger} {order : OrderRow} {intent : IntentRow} {fill : PaperFill}

theorem fillsOf_grows (booked : Booked store ledger) (resultBooked : Booked store result)
    (grows : Grows ledger result) (side : Side) :
    result.fillsOf side = ledger.fillsOf side := by
  unfold Ledger.fillsOf
  rw [grows.fills]
  apply filter_congr
  intro _ mem
  rw [booked.fillSide_extends resultBooked grows.extends mem]

theorem FillStep.fillsOf_eq
    (step : FillStep store ledger call result before after order intent fill costs
      tradeDate availableDate)
    (booked : Booked store ledger) (resultBooked : Booked store result) (side : Side) :
    result.fillsOf side =
      ledger.fillsOf side ++
        if intent.payload.side = side then
          [recordedFill fill call.persistedAt]
        else [] := by
  have old :
      ledger.fills.filter (fun fill => result.fillSide fill = some side) = ledger.fillsOf side := by
    apply filter_congr
    intro _ mem
    rw [booked.fillSide_extends resultBooked step.extends mem]
  unfold Ledger.fillsOf at old ⊢
  rw [step.fills_eq, filter_append, old]
  congr 1
  simp only [filter_cons, filter_nil,
    step.fillSide_new resultBooked, Option.some.injEq, decide_eq_true_eq]

theorem sum_takenFrom {lots : List LotRow} (lotIds : (lots.map LotRow.lotId).Nodup)
    (members : ∀ allocation ∈ allocations, allocation.1 ∈ lots) :
    (lots.map fun lot => lot.unitCost * (takenFrom allocations lot.lotId : ℚ)).sum =
      (allocations.map fun allocation => allocation.1.unitCost * (allocation.2 : ℚ)).sum := by
  induction allocations with
  | nil => simp [takenFrom]
  | cons allocation rest ih =>
    have head :=
      sum_map_ite_key lotIds (members allocation (by simp)) fun lot =>
        lot.unitCost * (allocation.2 : ℚ)
    have tail := ih fun other mem => members other (mem_cons_of_mem _ mem)
    rw [map_cons, sum_cons, ← head, ← tail, ← sum_map_add]
    congr 1
    apply map_congr_left
    intro lot _
    rw [takenFrom_cons]
    split <;> push_cast <;> ring

theorem SellEffect.holdingCost_add {intent : PaperOrderIntent}
    (effect : SellEffect store ledger result before intent fill tradeDate persistedAt allocations)
    (lotIds : (ledger.lots.map LotRow.lotId).Nodup) :
    result.holdingCost +
        (allocations.map fun allocation => allocation.1.unitCost * (allocation.2 : ℚ)).sum =
      ledger.holdingCost := by
  have lot_mem : ∀ allocation ∈ allocations, allocation.1 ∈ ledger.lots := by
    intro allocation mem
    rw [← effect.beforeLots]
    exact (mem_eligibleLots.mp ((effect.facts lotIds).eligible allocation mem)).1
  rw [← sum_takenFrom lotIds lot_mem,
    Ledger.holdingCost, Ledger.holdingCost, effect.lots, consumeLots_eq_map, map_map, ← sum_map_add]
  congr 1
  apply map_congr_left
  intro lot mem
  have bound : takenFrom allocations lot.lotId ≤ lot.remainingQuantity :=
    (effect.facts lotIds).takenFrom_le (by rw [effect.beforeLots]; exact lotIds)
      (by rw [effect.beforeLots]; exact mem)
  simp only [Function.comp_apply]
  push_cast [Nat.cast_sub bound]
  ring

theorem BuyEffect.holdingCost_add {intent : PaperOrderIntent} {availableDate : Date}
    (effect : BuyEffect store ledger result intent fill tradeDate persistedAt availableDate) :
    result.holdingCost =
      ledger.holdingCost +
        store.arithmetic.div (store.buyCost fill) fill.quantity * fill.quantity := by
  rw [Ledger.holdingCost, effect.lots, map_append, sum_append, ← Ledger.holdingCost]
  simp [acquiredLot]

structure Conserved (store : PaperBrokerStore) (ledger : Ledger) : Prop where
  cash : ledger.account.cash = store.initialCash.toRat - ledger.spent + ledger.received
  value :
    ledger.account.cash + ledger.holdingCost = store.initialCash.toRat + ledger.account.realizedPnl

theorem conserved_openLedger : Conserved store store.openLedger := by
  constructor <;>
    simp [openLedger, Ledger.spent, Ledger.received, Ledger.fillsOf, Ledger.holdingCost]

theorem Conserved.grows (conserved : Conserved store ledger)
    (booked : Booked store ledger) (resultBooked : Booked store result)
    (grows : Grows ledger result) :
    Conserved store result := by
  have sides := fillsOf_grows booked resultBooked grows
  constructor
  · rw [grows.account, Ledger.spent, Ledger.received, sides, sides]
    exact conserved.cash
  · rw [grows.account, Ledger.holdingCost, grows.lots]
    exact conserved.value

/-- A fill moves value between cash, lots and realized profit and loses none. -/
theorem Conserved.fillStep (conserved : Conserved store ledger) (exact : store.arithmetic = .exact)
    (booked : Booked store ledger) (resultBooked : Booked store result)
    (step : FillStep store ledger call result before after order intent fill costs
      tradeDate availableDate) :
    Conserved store result := by
  have sides := step.fillsOf_eq booked resultBooked
  have quantity_pos := (validateFill_eq_ok step.context.valid).1.1
  have cash := conserved.cash
  have value := conserved.value
  rcases step.effect with ⟨_, effect⟩ | ⟨allocations, effect⟩
  · have spent : result.spent = ledger.spent + store.buyCost fill := by
      rw [Ledger.spent, sides, effect.side]
      simp [Ledger.spent, buyCost, PaperFill.notional, exact, FillRow.outlay, recordedFill]
    have received : result.received = ledger.received := by
      rw [Ledger.received, sides, effect.side]
      simp [Ledger.received]
    have quantity_ne : (fill.quantity : ℚ) ≠ 0 := by
      exact_mod_cast quantity_pos.ne'
    have holding : result.holdingCost = ledger.holdingCost + store.buyCost fill := by
      rw [effect.holdingCost_add, exact, exact_div, div_mul_cancel₀ _ quantity_ne]
    have account := effect.account
    rw [exact] at account
    constructor
    · rw [account, spent, received]
      simp only [exact_sub]
      linarith
    · rw [account, holding]
      simp only [exact_sub]
      linarith
  · have spent : result.spent = ledger.spent := by
      rw [Ledger.spent, sides, effect.side]
      simp [Ledger.spent]
    have received : result.received = ledger.received + store.netProceeds fill := by
      rw [Ledger.received, sides, effect.side]
      simp [Ledger.received, netProceeds, PaperFill.notional, exact, FillRow.proceeds, recordedFill]
    have holding : result.holdingCost + store.costBasis allocations = ledger.holdingCost := by
      simpa [costBasis, exact] using effect.holdingCost_add booked.positions.lotIds
    have account := effect.account
    rw [exact] at account
    constructor
    · rw [account, spent, received]
      simp only [exact_add]
      linarith
    · rw [account]
      simp only [exact_add, exact_sub]
      linarith

structure Balanced (store : PaperBrokerStore) (ledger : Ledger) : Prop where
  booked : Booked store ledger
  conserved : Conserved store ledger

theorem Balanced.change (balanced : Balanced store ledger) (exact : store.arithmetic = .exact)
    (changed : Change store ledger call result) :
    Balanced store result := by
  have resultBooked := balanced.booked.change changed
  refine ⟨resultBooked, ?_⟩
  rcases changed.grows_or_fills balanced.booked.identities with
    grows | ⟨_, _, _, _, _, _, _, _, step⟩
  · exact balanced.conserved.grows balanced.booked resultBooked grows
  · exact balanced.conserved.fillStep exact balanced.booked resultBooked step

theorem balanced_of_reachableBy (exact : store.arithmetic = .exact)
    (reachable : store.ReachableBy allowed ledger) :
    Balanced store ledger :=
  reachable.invariant ⟨⟨identities_openLedger, positions_openLedger⟩, conserved_openLedger⟩
    fun balanced _ succeeds => balanced.change exact succeeds.change

/-- Every reachable ledger conserves cash, lot quantities, sold quantities and
value. -/
theorem reachable_conserves {ledger : Ledger} (exact : store.arithmetic = .exact)
    (reachable : store.Reachable ledger) :
    ledger.account.cash = store.initialCash.toRat - ledger.spent + ledger.received ∧
      (∀ lot ∈ ledger.lots, 0 ≤ lot.remainingQuantity ∧
        lot.remainingQuantity + consumedFrom ledger.consumptions lot.lotId = lot.originalQuantity) ∧
      (∀ fill ∈ ledger.fillsOf .sell, consumedBy ledger.consumptions fill.fillId = fill.quantity) ∧
      ledger.account.cash + ledger.holdingCost =
        store.initialCash.toRat + ledger.account.realizedPnl := by
  have balanced := balanced_of_reachableBy exact reachable
  refine ⟨balanced.conserved.cash, ?_, ?_, balanced.conserved.value⟩
  · intro lot member
    exact ⟨Nat.zero_le _, balanced.booked.positions.remaining lot member⟩
  · intro fill member
    rw [Ledger.fillsOf, mem_filter, decide_eq_true_eq] at member
    obtain ⟨_, _, belongs, facts⟩ := balanced.booked.positions.fills fill member.1
    have side := belongs.fillSide balanced.booked.identities
    rw [member.2, Option.some.injEq] at side
    exact facts.sells side.symm

end PaperBrokerStore

/-! ## A sample account

One account, its quotes and its intents, on which the results about runs are
instantiated. -/

namespace Sample

def instrument : InstrumentContext :=
  { tsCode := "600000.SH"
    market := "CN"
    exchange := "SSE"
    instrumentClass := "EQUITY"
    securityClass := "A_SHARE"
    classificationProvenance := some
      { referenceDataset := .securityListingStatus, referenceRecordId := 1,
        referenceGenerationId := 1 } }

def feeRule (ruleId : String) (minimumAmount : Decimal) : ExecutionCostFeeRule :=
  { ruleId := ruleId
    selectorId := "a-share"
    rateBps := ⟨0, 0⟩
    minimumAmount := minimumAmount
    appliesTo := .both }

def costSpec (commission : Decimal) : ExecutionCostSpec :=
  { costEngineVersion := "v3"
    instrumentSelectors :=
      [{ selectorId := "a-share"
         market := "CN"
         exchange := "SSE"
         instrumentClass := "EQUITY"
         securityClass := "A_SHARE" }]
    commissionRules := [feeRule "commission" commission]
    transferFeeRules := [feeRule "transfer" ⟨0, 0⟩]
    stampDutyRules := [feeRule "stamp" ⟨0, 0⟩]
    slippage := { buyBps := ⟨0, 0⟩, sellBps := ⟨0, 0⟩, priceTick := ⟨1, -2⟩ }
    money := { quantum := ⟨1, -2⟩ } }

def costPolicy (commission : Decimal) : BrokerCostPolicy where
  executionCostSpec := costSpec commission
  valid := by
    simp [ExecutionCostSpec.validateVersionedContract, costSpec, feeRule,
      validateV3RuleSet, ExecutionCostFeeRule.InRange, bind_eq_ok, Decimal.toRat]

/-- Digests that keep the identities of the sample apart. -/
def digests : LedgerDigests where
  costSpecId _ := 1
  costContextFingerprint _ := 2
  resolvedCalculationFingerprint _ := 3
  intentId fields := fields.signalId + 100
  orderId _ intentId := intentId + 1000
  fillId orderId executionId := orderId * 100000 + executionId
  initialExecutionId key := key.intentId + 10000
  requestFingerprint
    | .initial request => request.executionId * 10
    | .incremental request => request.executionId * 10 + 1
  sourceLotFingerprint _ := 4

/-- An account with 100000.00 in cash and a flat commission per fill. -/
def store (arithmetic : DecimalContext) (commission : Decimal) : PaperBrokerStore where
  accountId := "paper"
  initialCash := ⟨10000000, -2⟩
  costPolicy := costPolicy commission
  arithmetic := arithmetic
  digests := digests
  calendar := .standard
  normalizeCode code := code
  accountId_ne := by decide
  initialCash_pos := by decide

def day : Time := 86400000000

def quote (cents : ℕ+) (lots : Option ℕ) (availableDate : Option Date) :
    BrokerExecutionContext where
  executablePrice := ⟨cents, -2⟩
  instrumentContext := instrument
  executableQuantity := lots.map (100 * ·)
  acquisitionAvailableDate := availableDate
  suspended := false
  limitLocked := false
  riskRejected := false
  executablePrice_pos := cents.pos
  executableQuantity_lot := by
    intro quantity member
    obtain ⟨lots, -, rfl⟩ := Option.mem_map.mp member
    exact Nat.mul_mod_right 100 lots

def buyIntent (signalId : Digest) (lots : ℕ+) (earliest : ℕ) : PaperOrderIntent where
  signalId := signalId
  entrySignalId := none
  sellQuantityAuthority := none
  accountId := "paper"
  tsCode := "600000.SH"
  side := .buy
  orderType := .market
  quantity := 100 * lots
  limitPrice := none
  eventTime := 0
  availableAt := 0
  expiresAt := earliest + 10 * day
  earliestExecutionAt := earliest
  priceSnapshotId := 5
  producerCommit := "sample"
  valid := by
    have lotsPos := lots.pos
    simp [IntentFields.validateIntent, bind_eq_ok, IsPositiveLot, IsLot, day]
    exact require_of (by positivity)

/-- The authority of a SELL intent over a whole position. -/
def authority (signalId entrySignalId : Digest) (action : SellAction)
    (trancheFraction : Decimal) (remaining requested : ℕ) (cutoff : Time) :
    PaperSellQuantityAuthority :=
  { exitSignalId := signalId
    entrySignalId := entrySignalId
    accountId := "paper"
    tsCode := "600000.SH"
    action := action
    decisionCutoff := cutoff
    remainingQuantity := remaining
    availableQuantity := remaining
    trancheFraction := trancheFraction
    requestedQuantity := requested
    sourceLotFingerprint := 4 }

def sellFields (authority : PaperSellQuantityAuthority) : IntentFields :=
  { signalId := authority.exitSignalId
    entrySignalId := some authority.entrySignalId
    sellQuantityAuthority := some authority
    accountId := "paper"
    tsCode := "600000.SH"
    side := .sell
    orderType := .market
    quantity := authority.requestedQuantity
    limitPrice := none
    eventTime := 0
    availableAt := 0
    expiresAt := 10 * day
    earliestExecutionAt := 0
    priceSnapshotId := 6
    producerCommit := "sample" }

/-- A SELL intent for everything that is left of a position. -/
def exitIntent (signalId entrySignalId : Digest) (lots : ℕ+) (cutoff : Time) :
    PaperOrderIntent where
  toIntentFields :=
    sellFields (authority signalId entrySignalId .sIntent ⟨1, 0⟩ (100 * lots) (100 * lots) cutoff)
  valid := by
    have lotsPos := lots.pos
    simp [IntentFields.validateIntent, sellFields, authority, bind_eq_ok,
      PaperSellQuantityAuthority.validateQuantitySemantics,
      PaperSellQuantityAuthority.Matches, IsPositiveLot, IsLot, day, Decimal.toRat]

def halfIntent (signalId entrySignalId : Digest) (cutoff : Time) : PaperOrderIntent where
  toIntentFields := sellFields (authority signalId entrySignalId .reduce ⟨5, -1⟩ 200 100 cutoff)
  valid := by
    have tranche : trancheLots 200 ⟨5, -1⟩ = 100 := by decide +kernel
    simp [IntentFields.validateIntent, sellFields, authority, bind_eq_ok,
      PaperSellQuantityAuthority.validateQuantitySemantics,
      PaperSellQuantityAuthority.Matches, IsPositiveLot, IsLot, day, Decimal.toRat, tranche]
    norm_num

/-- Submit an intent, executing the given whole lots at once. -/
def submit (intent : PaperOrderIntent) (cents : ℕ+) (lots : Option ℕ)
    (decisionTime : Time) (persistedAt : Option Time) : Call :=
  let tradeDate := Calendar.standard.shanghaiDate decisionTime
  .submit
    { intent, executionId := none, decisionTime, persistedAt, tradeDate,
      quote := quote cents lots (some (tradeDate + 1)) }

def execute (orderId executionId : Digest) (cents : ℕ+) (lots : ℕ)
    (executedAt : Time) (persistedAt : Option Time) : Call :=
  let tradeDate := Calendar.standard.shanghaiDate executedAt
  .apply
    { orderId, executionId, executedAt, tradeDate, quantity := 100 * lots,
      quote := quote cents none (some (tradeDate + 1)), priceSnapshotId := 7, persistedAt }

end Sample

namespace PaperBrokerStore

/-- Two lots bought at 10.00, one of them sold at 11.00 the next day. -/
theorem reachable_conserves_sample :
    let store := Sample.store .exact ⟨5, 0⟩
    let ledger :=
      store.ledgerOf
        [Sample.submit (Sample.buyIntent 1 2 0) 1000 none 0 none,
          Sample.submit (Sample.halfIntent 2 1 Sample.day) 1100 none Sample.day none]
    ledger.fills.length = 2 ∧
      ledger.account.cash = store.initialCash.toRat - ledger.spent + ledger.received ∧
        (∀ lot ∈ ledger.lots, 0 ≤ lot.remainingQuantity ∧
          lot.remainingQuantity + consumedFrom ledger.consumptions lot.lotId =
            lot.originalQuantity) ∧
        (∀ fill ∈ ledger.fillsOf .sell,
          consumedBy ledger.consumptions fill.fillId = fill.quantity) ∧
        ledger.account.cash + ledger.holdingCost =
          store.initialCash.toRat + ledger.account.realizedPnl :=
  ⟨by decide +kernel, reachable_conserves rfl (reachable_ledgerOf _ _)⟩

end PaperBrokerStore

end RQuant.Paper
