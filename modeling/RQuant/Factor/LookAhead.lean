import RQuant.Factor.Evaluate

/-!
# No look-ahead

Evaluation commutes with cutting a panel off after a number of rows.  Two
panels that agree up to a date thus lead to frames that agree up to it, or to
the same error.
-/

namespace RQuant.Factor

open Foundation List

variable {size : Literal}

section Truncation

variable {C κ ν ε : Type} (numerics : Numerics C κ ν ε)

/-- The first rows of a frame; a number stays as it is. -/
def Value.take (count : ℕ) : Value C κ ν → Value C κ ν
  | .frame rows => .frame (rows.take count)
  | .scalar value => .scalar value

theorem combine_take (op : Operator) (left right : Value C κ ν) (count : ℕ) :
    combine numerics op (left.take count) (right.take count) =
      (combine numerics op left right).map (Value.take count) := by
  cases left with
  | scalar first =>
    cases right with
    | scalar second =>
      simp only [Value.take, combine]
      cases numerics.scalar op first second <;> rfl
    | frame second =>
      simp only [Value.take, combine, map_take]
      cases numerics.broadcast op first <;> rfl
  | frame first =>
    cases right with
    | scalar second =>
      simp only [Value.take, combine, map_take]
      cases numerics.broadcast op second <;> rfl
    | frame second =>
      simp only [Value.take, combine, ← take_zipWith]
      rfl

theorem negate_take (value : Value C κ ν) (count : ℕ) :
    negate numerics (value.take count) = (negate numerics value).map (Value.take count) := by
  cases value with
  | scalar number =>
    simp only [Value.take, negate]
    cases numerics.negateScalar number <;> rfl
  | frame rows =>
    simp only [Value.take, negate, map_take]
    rfl

theorem applyUnary_take (op : UnaryOp) (value : Value C κ ν) (count : ℕ) :
    applyUnary numerics op (value.take count) =
      (applyUnary numerics op value).map (Value.take count) := by
  cases op with
  | not => exact combine_take numerics .complement (.scalar (.literal (.float "1.0"))) value count
  | _ => exact negate_take numerics value count

theorem whereNotna_take (side part : Value C κ ν) (count : ℕ) :
    whereNotna numerics (side.take count) (part.take count) =
      (whereNotna numerics side part).take count := by
  cases side with
  | scalar number => rfl
  | frame rows =>
    cases part with
    | scalar number => rfl
    | frame cells => exact congrArg Value.frame take_zipWith.symm

theorem compareOnce_take (op : CmpOp) (left right : Value C κ ν) (count : ℕ) :
    compareOnce numerics op (left.take count) (right.take count) =
      (compareOnce numerics op left right).map (Value.take count) := by
  simp only [compareOnce, combine_take]
  cases cmpOperator (ε := ε) op with
  | error raised => rfl
  | ok operator =>
    apply map_bind_map
    intro _
    rw [whereNotna_take, whereNotna_take]
    rfl

theorem conjoin_take (soFar : Option (Value C κ ν)) (part : Value C κ ν) (count : ℕ) :
    conjoin numerics (soFar.map (Value.take count)) (part.take count) =
      (conjoin numerics soFar part).map (Value.take count) := by
  cases soFar with
  | none => rfl
  | some out => exact combine_take numerics .product out part count

theorem connect_take (op : BoolOp) (first : Value C κ ν) (values : List (Value C κ ν)) (count : ℕ) :
    connect numerics op (first.take count) (values.map (Value.take count)) =
      (connect numerics op first values).map (Value.take count) := by
  induction values generalizing first with
  | nil => rfl
  | cons value rest ih =>
    simp only [connect, map_cons, combine_take]
    apply map_bind_map
    intro joined
    exact ih joined

theorem nonneg_of_window (passed : window (ε := ε) value = .ok size) : 0 ≤ size.asInt.getD 0 := by
  unfold window at passed
  split at passed
  · split at passed
    · rename_i literal count isCount
      split at passed
      · rename_i within
        cases passed
        rw [isCount]
        exact le_trans zero_le_one within.1
      · cases passed
    · cases passed
  · cases passed

theorem window_take (value : Value C κ ν) (count : ℕ) :
    window (ε := ε) (value.take count) = window value := by
  cases value <;> rfl

section

variable (func : Func) (rows : Frame C κ)

theorem rolling_take (size : Literal) (count : ℕ) : rolling numerics func (rows.take count) size =
    (rolling numerics func rows size).map (take count) := by
  cases size with
  | int places =>
    simp only [rolling, overPrefixes_take]
    rfl
  | _ => rfl

theorem callWindowed_take (backward : 0 ≤ size.asInt.getD 0) (count : ℕ) :
    callWindowed numerics func (rows.take count) size =
      (callWindowed numerics func rows size).map (take count) := by
  have lagged : shift numerics (size.asInt.getD 0) (rows.take count) =
      (shift numerics (size.asInt.getD 0) rows).take count :=
    shifted_take backward _ rows count
  cases func with
  | tsDelta =>
    simp only [callWindowed, lagged, ← take_zipWith]
    rfl
  | delay =>
    simp only [callWindowed, lagged]
    rfl
  | tsEma =>
    simp only [callWindowed, overPrefixes_take]
    rfl
  | _ => exact rolling_take numerics _ rows size count

theorem callPlain_take (count : ℕ) :
    callPlain numerics func (rows.take count) = (callPlain numerics func rows).take count := by
  cases func <;> exact map_take

end

theorem callOne_take (id : String) (first : Value C κ ν) (count : ℕ) :
    callOne numerics id (first.take count) =
      (callOne numerics id first).map (Value.take count) := by
  unfold callOne
  cases funcOf id with
  | none => rfl
  | some func =>
    cases first with
    | scalar number => rfl
    | frame rows =>
      simp only [Value.take, callPlain_take]
      split <;> rfl

theorem callTwo_take (id : String) (first : Value C κ ν)
    (backward : 0 ≤ size.asInt.getD 0) (count : ℕ) :
    callTwo numerics id (first.take count) size =
      (callTwo numerics id first size).map (Value.take count) := by
  unfold callTwo
  cases funcOf id with
  | none => rfl
  | some func =>
    cases first with
    | scalar number => rfl
    | frame rows =>
      simp only [Value.take, callWindowed_take numerics func rows backward]
      split
      · cases callWindowed numerics func rows size <;> rfl
      · rfl

theorem callFunc_take (id : String) (args : List (Value C κ ν)) (count : ℕ) :
    callFunc numerics id (args.map (Value.take count)) =
      (callFunc numerics id args).map (Value.take count) := by
  match args with
  | [] => rfl
  | [first] => exact callOne_take numerics id first count
  | [first, second] =>
    simp only [map_cons, map_nil, callFunc, window_take]
    cases passed : window (ε := ε) second with
    | error raised => rfl
    | ok size => exact callTwo_take numerics id first (nonneg_of_window passed) count
  | _ :: _ :: _ :: _ => rfl

variable (lookup : String → Option (Frame C κ)) (count : ℕ)

theorem descend_map {ε α β : Type} (convert : α → β) (raised : ε) (frames : ℕ)
    (run : ℕ → Except ε α) :
    descend raised frames (fun below => (run below).map convert) =
      (descend raised frames run).map convert := by
  cases frames <;> rfl

mutual

/-- Evaluation and restriction to the first rows commute: by induction on the tree. -/
theorem ev_take : ∀ (frames : ℕ) (node : Node),
    ev numerics (fun id => (lookup id).map (take count)) frames node =
      (ev numerics lookup frames node).map (Value.take count)
  | _, .constant value => rfl
  | _, .name id => by
      simp only [ev]
      cases lookup id <;> rfl
  | frames, .unaryOp op operand => by
      simp only [ev, fun below => ev_take below operand, descend_map]
      apply map_bind_map
      intro value
      exact applyUnary_take numerics op value count
  | frames, .binOp op left right => by
      simp only [ev, fun below => ev_take below left, fun below => ev_take below right, descend_map]
      cases binOperator (ε := ε) op with
      | error raised => rfl
      | ok operator =>
        apply map_bind_map
        intro first
        apply map_bind_map
        intro second
        exact combine_take numerics operator first second count
  | frames, .boolOp op first rest => by
      simp only [ev, fun below => ev_take below first, evNodes_take frames rest, descend_map]
      apply map_bind_map
      intro value
      apply map_bind_map
      intro values
      exact connect_take numerics op value values count
  | frames, .compare left links => by
      simp only [ev, fun below => ev_take below left, descend_map]
      apply map_bind_map
      intro value
      exact evLinks_take frames links value none
  | frames, .call func args keywords => by
      simp only [ev, evNodes_take frames args]
      cases calledName (ε := ε) func with
      | error raised => rfl
      | ok id =>
        apply map_bind_map
        intro values
        exact callFunc_take numerics id values count
  | _, .other kind children => rfl

theorem evNodes_take : ∀ (frames : ℕ) (nodes : Nodes),
    evNodes numerics (fun id => (lookup id).map (take count)) frames nodes =
      (evNodes numerics lookup frames nodes).map (map (Value.take count))
  | _, .nil => rfl
  | frames, .cons head tail => by
      simp only [evNodes, fun below => ev_take below head, evNodes_take frames tail, descend_map]
      apply map_bind_map
      intro _
      apply map_bind_map
      intro _
      rfl

theorem evLinks_take : ∀ (frames : ℕ) (links : Links) (left : Value C κ ν)
    (soFar : Option (Value C κ ν)),
    evLinks numerics (fun id => (lookup id).map (take count)) frames links
        (left.take count) (soFar.map (Value.take count)) =
      (evLinks numerics lookup frames links left soFar).map (Value.take count)
  | frames, .last op right, left, soFar => by
      simp only [evLinks, fun below => ev_take below right, descend_map]
      apply map_bind_map
      intro value
      rw [compareOnce_take]
      apply map_bind_map
      intro part
      exact conjoin_take numerics soFar part count
  | frames, .cons op right rest, left, soFar => by
      simp only [evLinks, fun below => ev_take below right, descend_map]
      apply map_bind_map
      intro value
      rw [compareOnce_take]
      apply map_bind_map
      intro part
      rw [conjoin_take]
      apply map_bind_map
      intro joined
      exact evLinks_take frames rest value (some joined)

end

end Truncation

section UpTo

variable {C κ ν ε : Type}

def Panel.upTo (panel : Panel C κ) (last : Date) (rows : Frame C κ) : List (Date × (C → κ)) :=
  (panel.dates.zip rows).filter fun row => row.1 ≤ last

structure AgreeUpTo (last : Date) (left right : Panel C κ) : Prop where
  dates : left.dates.filter (· ≤ last) = right.dates.filter (· ≤ last)
  fields : ∀ id, (left.field id).map (left.upTo last) = (right.field id).map (right.upTo last)

theorem filter_zip_eq_take {dates : List Date} (sorted : dates.Pairwise (· < ·)) (last : Date)
    (rows : Frame C κ) :
    (dates.zip rows).filter (fun row => row.1 ≤ last) =
      (dates.filter (· ≤ last)).zip (rows.take (dates.filter (· ≤ last)).length) := by
  induction dates generalizing rows with
  | nil => rfl
  | cons date later ih =>
    obtain ⟨before, sorted⟩ := pairwise_cons.mp sorted
    cases rows with
    | nil => simp
    | cons row rest =>
      by_cases early : date ≤ last
      · simp only [zip_cons_cons, filter_cons, early,
          decide_true, if_true, length_cons, take_succ_cons]
        rw [ih sorted rest]
      · -- Every later date is beyond the last one as well.
        have none : later.filter (· ≤ last) = [] := by
          refine filter_eq_nil_iff.mpr ?_
          intro other mem
          simpa using lt_trans (not_le.mp early) (before other mem)
        have noRows := ih sorted rest
        rw [none, zip_nil_left] at noRows
        simp [early, none, noRows]

section

variable (panel : Panel C κ) (last : Date)

def Panel.cut : ℕ := (panel.dates.filter (· ≤ last)).length

theorem Panel.upTo_eq (rows : Frame C κ) :
    panel.upTo last rows = (panel.dates.filter (· ≤ last)).zip (rows.take (panel.cut last)) :=
  filter_zip_eq_take panel.sorted last rows

theorem Panel.take_field (id : String) : (panel.field id).map (take (panel.cut last)) =
    ((panel.field id).map (panel.upTo last)).map (map Prod.snd) := by
  cases found : panel.field id with
  | none => rfl
  | some rows =>
    have shaped := panel.shaped id rows found
    have filtered : panel.cut last ≤ panel.dates.length := length_filter_le _ _
    simp only [Option.map_some, Panel.upTo_eq, Option.some.injEq]
    rw [map_snd_zip]
    rw [length_take]
    change min (panel.cut last) rows.length ≤ panel.cut last
    omega

end

/-- Two panels that agree up to a date lead to frames that agree up to it, or
to the same error. -/
theorem factor_no_look_ahead (grammar : Grammar) (numerics : Numerics C κ ν ε) (frames : ℕ)
    (expression : String) (tree : Node) (accepted : validate grammar expression = .ok tree)
    (left right : Panel C κ) (last : Date)
    (agree : AgreeUpTo last left right) :
    (evaluate grammar numerics frames expression left).map (left.upTo last) =
      (evaluate grammar numerics frames expression right).map (right.upTo last) := by
  have sameCut : left.cut last = right.cut last := congrArg length agree.dates
  have sameFields : (fun id => (left.field id).map (take (left.cut last))) =
      fun id => (right.field id).map (take (left.cut last)) := by
    funext id
    rw [Panel.take_field, agree.fields id, sameCut, ← Panel.take_field]
  have cutOff : (descend .recursion frames fun below => ev numerics left.field below tree).map
        (Value.take (left.cut last)) =
      (descend .recursion frames fun below => ev numerics right.field below tree).map
        (Value.take (left.cut last)) := by
    simp only [← descend_map, ← ev_take, sameFields]
  have sameRows : ∀ first second : Frame C κ,
      first.take (left.cut last) = second.take (left.cut last) →
        left.upTo last first = right.upTo last second := by
    intro first second same
    rw [Panel.upTo_eq, Panel.upTo_eq, same, agree.dates, sameCut]
  unfold evaluate
  simp only [accepted, Except.mapError, ok_bind]
  cases leftOut : descend .recursion frames fun below => ev numerics left.field below tree with
  | error raised =>
    cases rightOut : descend .recursion frames fun below => ev numerics right.field below tree with
    | error other =>
      rw [leftOut, rightOut] at cutOff
      cases cutOff
      rfl
    | ok value =>
      rw [leftOut, rightOut] at cutOff
      cases cutOff
  | ok value =>
    cases rightOut : descend .recursion frames fun below => ev numerics right.field below tree with
    | error other =>
      rw [leftOut, rightOut] at cutOff
      cases cutOff
    | ok other =>
      rw [leftOut, rightOut] at cutOff
      have same := Except.ok.inj cutOff
      cases value with
      | scalar number =>
        cases other with
        | scalar number => rfl
        | frame rows => cases same
      | frame rows =>
        cases other with
        | scalar number => cases same
        | frame others =>
          refine congrArg Except.ok (sameRows _ _ ?_)
          rw [← map_take, ← map_take, Value.frame.inj same]

end UpTo

/-! ## A lagged field -/

/-- `delay(close, 1)`. -/
def lagTree : Node :=
  .call (.name "delay") (.cons (.name "close") (.cons (.constant (.int 1)) .nil)) .nil

def lagGrammar : Grammar where
  parse := fun text => if text = "delay(close, 1)" then .ok lagTree else .error "invalid syntax"
  unparse := fun _ => ""

def integerNumerics : Numerics Unit ℤ ℤ String where
  broadcast := fun _ _ => .ok 0
  scalar := fun _ left _ => .ok left
  cell := fun _ left right => left + right
  negateScalar := fun value => .ok value
  negate := fun cell => -cell
  blank := 0
  isBlank := fun cell => cell = 0
  rolling := fun _ cells => cells.sum
  ewm := fun _ cells => cells.sum
  across := fun _ row => row
  pointwise := fun _ cell => cell
  finite := fun cell => cell

def threeDays (lastClose : ℤ) : Panel Unit ℤ where
  dates := [1, 2, 3]
  field := fun id =>
    if id = "close" then
      some [fun _ => 10, fun _ => 11, fun _ => lastClose]
    else none
  sorted := by decide
  shaped := by
    intro id frame found
    rw [Option.ite_none_right_eq_some] at found
    obtain ⟨-, same⟩ := found
    cases same
    rfl

/-- The close of the third day does not show in the rows before it. -/
theorem factor_no_look_ahead_sample : AgreeUpTo 2 (threeDays 12) (threeDays 99) ∧
    (evaluate lagGrammar integerNumerics 100 "delay(close, 1)"
        (threeDays 12)).map ((threeDays 12).upTo 2) =
      (evaluate lagGrammar integerNumerics 100 "delay(close, 1)"
        (threeDays 99)).map ((threeDays 99).upTo 2) := by
  have agree : AgreeUpTo 2 (threeDays 12) (threeDays 99) := by
    refine ⟨rfl, ?_⟩
    intro id
    by_cases close : id = "close" <;> simp [threeDays, Panel.upTo, close]
  exact ⟨agree, factor_no_look_ahead lagGrammar integerNumerics 100
    "delay(close, 1)" lagTree (by rfl) _ _ 2 agree⟩

end RQuant.Factor
