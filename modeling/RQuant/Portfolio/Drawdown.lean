import RQuant.Portfolio.Exposure
import RQuant.Runtime

/-!
# Drawdown

`evaluate_drawdown` carries the peak of a NAV series and whether the
restriction is on.  The state it builds is validated by conditions derived again
from the peak, the last NAV and the flag.  The drawdown that it shows is divided
out with a precision taken from the texts of the terms, which `str` refuses to
write beyond 4300 digits.
-/

namespace RQuant.Portfolio

open Foundation List

inductive DrawdownAction
  | blockNewPositions
  | capTotalRiskWeight
  deriving DecidableEq

/-- A rule that its validators accept. -/
structure DrawdownRule where
  (triggerDrawdown releaseDrawdown : ℚ)
  action : DrawdownAction
  totalRiskWeightCap : Option ℚ
  trigger_lt : triggerDrawdown < 1
  release_nonneg : 0 ≤ releaseDrawdown
  release_lt : releaseDrawdown < triggerDrawdown
  cap_range : ∀ cap ∈ totalRiskWeightCap, 0 ≤ cap ∧ cap < 1
  cap_iff : totalRiskWeightCap.isSome ↔ action = .capTotalRiskWeight
  deriving DecidableEq

structure DrawdownState where
  rule : DrawdownRule
  peakNav : ℚ
  peakAt : Time
  lastNav : ℚ
  lastAt : Time
  active : Bool

structure DrawdownDecision where
  state : DrawdownState
  drawdown : ℚ
  allowNewPositions : Bool
  maxTotalRiskWeight : Option ℚ

inductive DrawdownError
  | validation (message : String)
  | input (message : String)
  | overflow (message : String)
  | value (message : String)

/-- The instants of `datetime`, in microseconds since 1970. -/
def InRange (time : Time) : Prop := -62135596800000000 ≤ time ∧ time ≤ 253402300799999999
deriving Decidable

/-- `_utc_instant`; an offset may lead out of the range. -/
def utcInstant (time : Time) : Except DrawdownError Unit :=
  require (InRange time) (.overflow "date value out of range")

def DrawdownState.exactDrawdown (state : DrawdownState) : ℚ :=
  (state.peakNav - state.lastNav) / state.peakNav

def DrawdownState.validatePeak (state : DrawdownState) : Except DrawdownError Unit := do
  require (0 < state.peakNav ∧ 0 < state.lastNav) (.validation "greater_than")
  require (state.lastNav ≤ state.peakNav) (.validation "峰值净值不能低于末次净值")
  utcInstant state.peakAt
  utcInstant state.lastAt
  require (state.peakAt ≤ state.lastAt) (.validation "峰值时间不能晚于末次观测时间")
  require (state.peakAt = state.lastAt → state.peakNav = state.lastNav)
    (.validation "峰值与末次观测同刻时净值必须一致")
  require (¬ (state.active ∧ state.exactDrawdown ≤ state.rule.releaseDrawdown))
    (.validation "回撤状态已达到恢复边界，不能仍标记为限制中")
  require (¬ (¬ state.active ∧ state.rule.triggerDrawdown ≤ state.exactDrawdown))
    (.validation "回撤状态已达到触发边界，不能标记为未限制")

/-- Rounded down to 18 places; the working precision of the division is enough
for that. -/
def displayDrawdown (exact : ℚ) : Except DrawdownError ℚ :=
  if exact = 0 then pure 0
  else do
    require (digitCount exact.num.natAbs ≤ 4300 ∧ digitCount exact.den ≤ 4300)
      (.value "Exceeds the limit (4300 digits) for integer string conversion")
    pure (⌊exact * 10 ^ 18⌋ / 10 ^ 18)

def checkPrevious (observedAt : Time) (rule : DrawdownRule) :
    Option DrawdownState → Except DrawdownError Unit
  | none => pure ()
  | some previous => do
    require (previous.rule = rule) (.input "回撤规则变化须从历史重算或开启新序列")
    utcInstant observedAt
    require (previous.lastAt < observedAt) (.input "观测时间必须严格晚于前次观测")

/-- The state that `evaluate_drawdown` builds. -/
def nextState (nav : ℚ) (observedAt : Time) (rule : DrawdownRule)
    (previous : Option DrawdownState) : DrawdownState :=
  let peak := match previous with
    | none => (nav, observedAt)
    | some state =>
      if state.peakNav < nav then (nav, observedAt) else (state.peakNav, state.peakAt)
  let exactDrawdown := (peak.1 - nav) / peak.1
  { rule, peakNav := peak.1, peakAt := peak.2, lastNav := nav, lastAt := observedAt,
    active := if previous.any (·.active) then rule.releaseDrawdown < exactDrawdown
      else rule.triggerDrawdown ≤ exactDrawdown }

def evaluateDrawdown (nav : ℚ) (observedAt : Time) (rule : DrawdownRule)
    (previous : Option DrawdownState) : Except DrawdownError DrawdownDecision := do
  require (0 < nav) (.input "净值必须是有限正数")
  checkPrevious observedAt rule previous
  let state := nextState nav observedAt rule previous
  state.validatePeak
  let drawdown ← displayDrawdown state.exactDrawdown
  pure
    { state, drawdown,
      allowNewPositions := ¬ (state.active ∧ rule.action = .blockNewPositions),
      maxTotalRiskWeight :=
        if state.active ∧ rule.action = .capTotalRiskWeight then rule.totalRiskWeightCap
        else none }

/-- The caller saves each state for the next observation. -/
def foldDrawdown (rule : DrawdownRule) (observations : List (ℚ × Time)) :
    Except DrawdownError (Option DrawdownState) :=
  observations.foldlM
    (fun previous observation => do
      let decision ← evaluateDrawdown observation.1 observation.2 rule previous
      pure (some decision.state))
    none

/-- The highest NAV of a series. -/
def highest (observations : List (ℚ × Time)) : ℚ :=
  observations.foldl (fun peak observation => max peak observation.1) 0

def drawdownOf (observations : List (ℚ × Time)) : ℚ :=
  (highest observations - (observations.getLast?.map Prod.fst).getD 0) / highest observations

/-- Some step reached the trigger, and none after it the release; a step is the
series up to it. -/
def Restricted (rule : DrawdownRule) (observations : List (ℚ × Time)) : Prop :=
  ∃ past, past <+: observations ∧ rule.triggerDrawdown ≤ drawdownOf past ∧
    ∀ longer, longer <+: observations → past.length < longer.length →
      rule.releaseDrawdown < drawdownOf longer

/-- The terms of a drawdown can be written. -/
def Displayable (exact : ℚ) : Prop :=
  exact ≠ 0 → digitCount exact.num.natAbs ≤ 4300 ∧ digitCount exact.den ≤ 4300
deriving Decidable

variable {rule : DrawdownRule} {previous : Option DrawdownState} {observations : List (ℚ × Time)}
  {exact nav : ℚ}

/-- A drawdown is shown exactly when its terms can be written. -/
theorem displayDrawdown_eq_ok_iff :
    (∃ shown, displayDrawdown exact = .ok shown) ↔ Displayable exact := by
  unfold displayDrawdown Displayable
  by_cases zero : exact = 0
  · simp [zero]
  · simp only [if_neg zero, run_eq_ok]
    simp [zero]

structure Follows (rule : DrawdownRule) (observations : List (ℚ × Time)) (state : DrawdownState) :
    Prop where
  rule_eq : state.rule = rule
  peak_eq : state.peakNav = highest observations
  peak_mem : (state.peakNav, state.peakAt) ∈ observations
  peak_first : ∀ observation ∈ observations, observation.1 ≤ state.peakNav ∧
    (observation.1 = state.peakNav → state.peakAt ≤ observation.2)
  last : observations.getLast? = some (state.lastNav, state.lastAt)
  active : state.active = true ↔ Restricted rule observations

def Tracks (rule : DrawdownRule) (observations : List (ℚ × Time)) : Option DrawdownState → Prop
  | none => observations = []
  | some state => Follows rule observations state

/-- The flag after a step, from the flag before it. -/
theorem restricted_append (rule : DrawdownRule) : Restricted rule (observations ++ [observation]) ↔
    rule.triggerDrawdown ≤ drawdownOf (observations ++ [observation]) ∨
      Restricted rule observations ∧
        rule.releaseDrawdown < drawdownOf (observations ++ [observation]) := by
  constructor
  · rintro ⟨past, within, triggered, held⟩
    rcases prefix_concat_iff.mp within with rfl | old
    · exact .inl triggered
    · refine .inr ⟨⟨past, old, triggered, ?_⟩, held _ prefix_rfl ?_⟩
      · exact fun longer sooner => held longer (sooner.trans (prefix_append ..))
      · simpa [Nat.lt_succ_iff] using old.length_le
  · rintro (triggered | ⟨⟨past, old, triggered, held⟩, kept⟩)
    · exact ⟨_, prefix_rfl, triggered, fun longer within after =>
        absurd within.length_le after.not_ge⟩
    · refine ⟨past, old.trans (prefix_append ..), triggered, ?_⟩
      intro longer within after
      rcases prefix_concat_iff.mp within with rfl | sooner
      · exact kept
      · exact held longer sooner after

theorem nextState_active_iff : (nextState nav observedAt rule previous).active ↔
    if previous.any (·.active) then
      rule.releaseDrawdown < (nextState nav observedAt rule previous).exactDrawdown
    else rule.triggerDrawdown ≤ (nextState nav observedAt rule previous).exactDrawdown := by
  unfold nextState DrawdownState.exactDrawdown
  split <;> simp [*]

section

variable {nav : ℚ} {observedAt : Time} (tracks : Tracks rule observations previous)
  (positive : 0 < nav) (later : ∀ observation ∈ observations, observation.2 < observedAt)
  (ranged : ∀ observation ∈ observations ++ [(nav, observedAt)], InRange observation.2)

include tracks

theorem Tracks.any_active : previous.any (·.active) ↔ Restricted rule observations := by
  cases previous with
  | none =>
    cases tracks
    have below := rule.release_nonneg.trans_lt rule.release_lt
    simp [Restricted, drawdownOf, highest, below]
  | some state => exact tracks.active

include positive

theorem Tracks.nextState_peakNav :
    (nextState nav observedAt rule previous).peakNav = max (highest observations) nav := by
  cases previous with
  | none =>
    cases tracks
    exact (max_eq_right positive.le).symm
  | some state =>
    rw [← tracks.peak_eq]
    by_cases higher : state.peakNav < nav
    · simp [nextState, higher, higher.le]
    · simp [nextState, higher, not_lt.mp higher]

theorem Tracks.exactDrawdown_nextState : (nextState nav observedAt rule previous).exactDrawdown =
    drawdownOf (observations ++ [(nav, observedAt)]) := by
  rw [DrawdownState.exactDrawdown, tracks.nextState_peakNav positive]
  simp [drawdownOf, highest, nextState]

/-- The release is below the trigger, so the two thresholds agree with the history. -/
theorem Tracks.nextState_active : (nextState nav observedAt rule previous).active ↔
    Restricted rule (observations ++ [(nav, observedAt)]) := by
  have below := rule.release_lt
  rw [nextState_active_iff, restricted_append, tracks.exactDrawdown_nextState positive,
    ← tracks.any_active]
  split <;> grind

include later

theorem Tracks.follows : Follows rule (observations ++ [(nav, observedAt)])
    (nextState nav observedAt rule previous) where
  rule_eq := rfl
  peak_eq := by simp [tracks.nextState_peakNav positive, highest]
  peak_mem := by
    cases previous with
    | none => simp [nextState]
    | some state =>
      have member := tracks.peak_mem
      by_cases higher : state.peakNav < nav <;> simp [nextState, higher, member]
  peak_first := by
    cases previous with
    | none =>
      cases tracks
      simp [nextState]
    | some state =>
      have first := tracks.peak_first
      have old := later _ tracks.peak_mem
      by_cases higher : state.peakNav < nav <;> grind [nextState]
  last := by simp [nextState]
  active := tracks.nextState_active positive

include ranged

/-- The validator derives nothing that the step did not establish. -/
theorem Tracks.validatePeak_nextState :
    (nextState nav observedAt rule previous).validatePeak = .ok () := by
  have peakRanged := ranged _ (tracks.follows positive later).peak_mem
  have lastRanged := ranged _ (mem_of_getLast? (tracks.follows positive later).last)
  have peak := (mem_append.mp (tracks.follows positive later).peak_mem).imp_left (later _)
  rw [mem_singleton, Prod.mk.injEq] at peak
  have reached : nav ≤ (nextState nav observedAt rule previous).peakNav :=
    tracks.nextState_peakNav positive ▸ le_max_right ..
  have below := rule.release_lt
  simp only [DrawdownState.validatePeak, guard_bind_eq_ok, require_eq_ok, utcInstant,
    nextState_active_iff]
  refine ⟨⟨positive.trans_le reached, positive⟩, reached, peakRanged, lastRanged, ?_, ?_, ?_, ?_⟩
  · exact peak.elim le_of_lt fun new => new.2.le
  · exact fun same => peak.elim (fun old => absurd same old.ne) And.left
  · rintro ⟨active, released⟩
    split at active
    · exact absurd active released.not_gt
    · exact absurd (below.trans_le active) released.not_gt
  · rintro ⟨inactive, triggered⟩
    split at inactive
    · exact inactive (below.trans_le triggered)
    · exact inactive triggered

theorem Tracks.evaluateDrawdown_eq_ok_iff {next : Option DrawdownState} :
    (∃ decision, evaluateDrawdown nav observedAt rule previous = .ok decision ∧
      some decision.state = next) ↔
    Displayable (drawdownOf (observations ++ [(nav, observedAt)])) ∧
      some (nextState nav observedAt rule previous) = next := by
  have checked : checkPrevious observedAt rule previous = .ok () := by
    cases previous with
    | none => rfl
    | some state =>
      have last := later _ (mem_of_getLast? tracks.last)
      rw [checkPrevious, require_of tracks.rule_eq, ok_bind, utcInstant,
        require_of (ranged (nav, observedAt) (by simp)), ok_bind, require_of last]
  have valid := tracks.validatePeak_nextState positive later ranged
  rw [← tracks.exactDrawdown_nextState positive, ← displayDrawdown_eq_ok_iff]
  simp only [evaluateDrawdown, require_of positive, checked, valid, ok_bind, bind_eq_ok]
  constructor
  · rintro ⟨decision, ⟨shown, isShown, ⟨⟩⟩, kept⟩
    exact ⟨⟨shown, isShown⟩, kept⟩
  · rintro ⟨⟨shown, isShown⟩, kept⟩
    exact ⟨_, ⟨shown, isShown, rfl⟩, kept⟩

end

/-- By induction on the series: a step is taken when its drawdown can be shown,
and what it takes over tracks the longer series. -/
theorem foldDrawdown_eq_ok_iff (rule : DrawdownRule) (observations : List (ℚ × Time))
    (positive : ∀ observation ∈ observations, 0 < observation.1)
    (increasing : observations.Pairwise (·.2 < ·.2))
    (ranged : ∀ observation ∈ observations, InRange observation.2) :
    (∀ previous, foldDrawdown rule observations = .ok previous →
      Tracks rule observations previous) ∧
    ((∃ previous, foldDrawdown rule observations = .ok previous) ↔
      ∀ past, past <+: observations → Displayable (drawdownOf past)) := by
  induction observations using reverseRecOn with
  | nil =>
    refine ⟨fun previous folded => ?_, fun _ past within => ?_, fun _ => ⟨none, rfl⟩⟩
    · cases folded
      rfl
    · cases prefix_nil.mp within
      exact fun nonzero => absurd (by simp [drawdownOf, highest]) nonzero
  | append_singleton observations observation ih =>
    obtain ⟨before, _, later⟩ := pairwise_append.mp increasing
    obtain ⟨tracked, folds⟩ := ih (fun other member => positive other (by simp [member])) before
      fun other member => ranged other (by simp [member])
    have after : ∀ other ∈ observations, other.2 < observation.2 :=
      fun other member => later other member observation (by simp)
    have step : ∀ next, foldDrawdown rule (observations ++ [observation]) = .ok next ↔
        ∃ previous, foldDrawdown rule observations = .ok previous ∧
          Displayable (drawdownOf (observations ++ [observation])) ∧
          some (nextState observation.1 observation.2 rule previous) = next := by
      intro next
      unfold foldDrawdown
      rw [foldlM_append, bind_eq_ok]
      refine exists_congr fun previous => and_congr_right fun folded => ?_
      rw [← (tracked previous folded).evaluateDrawdown_eq_ok_iff
        (positive observation (by simp)) after ranged]
      simp only [foldlM_cons, foldlM_nil, run_eq_ok, exists_eq_right]
    refine ⟨fun next folded => ?_, ?_⟩
    · obtain ⟨previous, before, _, rfl⟩ := (step next).mp folded
      exact (tracked previous before).follows (positive observation (by simp)) after
    · simp only [step, exists_comm, exists_and_left, exists_eq', and_true, exists_and_right]
      rw [folds]
      constructor
      · rintro ⟨old, new⟩ past within
        rcases prefix_concat_iff.mp within with rfl | sooner
        · exact new
        · exact old past sooner
      · intro shown
        exact ⟨fun past within => shown past (within.trans (prefix_append ..)), shown _ prefix_rfl⟩

/-- The fold returns, with the peak and the flag of the series, when every
drawdown on the way can be shown, and only then. -/
theorem drawdown_hysteresis (rule : DrawdownRule) (observations : List (ℚ × Time))
    (nonempty : observations ≠ [])
    (positive : ∀ observation ∈ observations, 0 < observation.1)
    (increasing : observations.Pairwise (·.2 < ·.2))
    (ranged : ∀ observation ∈ observations, InRange observation.2) :
    (∃ state, foldDrawdown rule observations = .ok (some state) ∧
      Follows rule observations state) ↔
      ∀ past, past <+: observations → Displayable (drawdownOf past) := by
  obtain ⟨tracked, folds⟩ := foldDrawdown_eq_ok_iff rule observations positive increasing ranged
  rw [← folds]
  constructor
  · rintro ⟨state, folded, _⟩
    exact ⟨_, folded⟩
  · rintro ⟨_ | state, folded⟩
    · exact absurd (tracked _ folded) nonempty
    · exact ⟨state, folded, tracked _ folded⟩

/-- Trigger 10%, release 5%. -/
def sampleDrawdownRule : DrawdownRule where
  triggerDrawdown := 1 / 10
  releaseDrawdown := 1 / 20
  action := .blockNewPositions
  totalRiskWeightCap := none
  trigger_lt := by norm_num
  release_nonneg := by norm_num
  release_lt := by norm_num
  cap_range := nofun
  cap_iff := by decide

/-- A fall by a fifth. -/
theorem drawdown_hysteresis_fall :
    ∃ state, foldDrawdown sampleDrawdownRule [(1, 0), (4 / 5, 1)] = .ok (some state) ∧
      Follows sampleDrawdownRule [(1, 0), (4 / 5, 1)] state := by
  have shown : ∀ past ∈ inits [((1 : ℚ), (0 : Time)), (4 / 5, 1)],
      Displayable (drawdownOf past) := by decide +kernel
  exact (drawdown_hysteresis _ _ (by simp) (by norm_num) (by simp) (by decide)).mpr
    fun past within => shown past ((mem_inits ..).mpr within)

/-- A fall by 5000 orders of magnitude cannot be shown. -/
theorem drawdown_refused_deep_fall :
    (foldDrawdown sampleDrawdownRule [(10 ^ 5000, 0), (1, 1)]).toOption.isNone = true := by
  decide +kernel

end RQuant.Portfolio
