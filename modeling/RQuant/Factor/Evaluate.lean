import RQuant.Factor.Syntax
import RQuant.Foundation.Causal
import RQuant.Runtime

/-!
# Evaluation

`evaluate` over a daily panel.  What the numeric libraries compute on cells, on
windows and on cross-sections is a parameter, and so are the errors that they
raise on plain numbers; how the operations reach over the rows of a frame is
not.
-/

namespace RQuant.Factor

open Foundation

/-- The binary operations that `evaluate` performs: those of `_BIN` and
`_CMP`, the product and the maximum behind `and` and `or`, and the complement
behind `not`. -/
inductive Operator where
  | bin (op : BinOp)
  | cmp (op : CmpOp)
  | product
  | maximum
  | complement
  deriving DecidableEq

/-- A plain number: a constant, or what arithmetic made of constants. -/
inductive Scalar (ν : Type) where
  | literal (value : Literal)
  | number (value : ν)

/-- The numeric libraries, over codes, cells, numbers and numeric errors. -/
structure Numerics (C κ ν ε : Type) where
  /-- A number next to a frame is converted to a cell. -/
  broadcast : Operator → Scalar ν → Except ε κ
  scalar : Operator → Scalar ν → Scalar ν → Except ε (Scalar ν)
  cell : Operator → κ → κ → κ
  negateScalar : Scalar ν → Except ε (Scalar ν)
  negate : κ → κ
  /-- The missing value. -/
  blank : κ
  isBlank : κ → Bool
  /-- A statistic of a full window. -/
  rolling : Func → List κ → κ
  /-- The exponential mean of everything up to a row. -/
  ewm : ℤ → List κ → κ
  /-- A statistic of a cross-section. -/
  across : Func → (C → κ) → C → κ
  pointwise : Func → κ → κ
  /-- Infinities become missing. -/
  finite : κ → κ

abbrev Frame (C κ : Type) := List (C → κ)

/-- What an expression is worth. -/
inductive Value (C κ ν : Type) where
  | frame (rows : Frame C κ)
  | scalar (value : Scalar ν)

inductive EvalError (ε : Type) where
  | factor (error : FactorExpressionError)
  /-- `KeyError`. -/
  | key (id : String)
  /-- `AttributeError`: a number has no methods of a frame. -/
  | attribute
  /-- `ValueError` of a rolling window that is a truth value. -/
  | window
  /-- `TypeError` of a call with a wrong number of arguments. -/
  | arity
  | assertion
  /-- `RecursionError`. -/
  | recursion
  | numeric (error : ε)
  deriving DecidableEq

/-- A panel: its fields have one common index of increasing dates. -/
structure Panel (C κ : Type) where
  dates : List Date
  field : String → Option (Frame C κ)
  sorted : dates.Pairwise (· < ·)
  shaped : ∀ id frame, field id = some frame → frame.length = dates.length

def binOperator {ε : Type} : BinOp → Except (EvalError ε) Operator
  | .other kind => .error (.key kind)
  | op => .ok (.bin op)

def cmpOperator {ε : Type} : CmpOp → Except (EvalError ε) Operator
  | .other kind => .error (.key kind)
  | op => .ok (.cmp op)

def calledName {ε : Type} : Node → Except (EvalError ε) String
  | .name id => .ok id
  | _ => .error .assertion

section Operations

variable {C κ ν ε : Type} (numerics : Numerics C κ ν ε)

/-- A binary operation, cell by cell as soon as a frame takes part. -/
def combine (op : Operator) : Value C κ ν → Value C κ ν → Except (EvalError ε) (Value C κ ν)
  | .scalar left, .scalar right => ((numerics.scalar op left right).mapError .numeric).map .scalar
  | .scalar left, .frame right => do
    let cell ← (numerics.broadcast op left).mapError .numeric
    pure (.frame (right.map fun row code => numerics.cell op cell (row code)))
  | .frame left, .scalar right => do
    let cell ← (numerics.broadcast op right).mapError .numeric
    pure (.frame (left.map fun row code => numerics.cell op (row code) cell))
  | .frame left, .frame right =>
    .ok
      (.frame
        (List.zipWith (fun first second code => numerics.cell op (first code) (second code))
          left right))

def negate : Value C κ ν → Except (EvalError ε) (Value C κ ν)
  | .scalar value => ((numerics.negateScalar value).mapError .numeric).map .scalar
  | .frame rows => .ok (.frame (rows.map fun row code => numerics.negate (row code)))

/-- A unary operation; everything but `not` negates. -/
def applyUnary (op : UnaryOp) (value : Value C κ ν) : Except (EvalError ε) (Value C κ ν) :=
  match op with
  | .not => combine numerics .complement (.scalar (.literal (.float "1.0"))) value
  | _ => negate numerics value

/-- `part.where(side.notna())`. -/
def whereNotna : Value C κ ν → Value C κ ν → Value C κ ν
  | .frame side, .frame part =>
    .frame
      (List.zipWith
        (fun shown row code =>
          if numerics.isBlank (shown code) then numerics.blank
          else row code)
        side part)
  | _, part => part

/-- One comparison of a chain; missing inputs stay missing. -/
def compareOnce (op : CmpOp) (left right : Value C κ ν) : Except (EvalError ε) (Value C κ ν) := do
  let operator ← cmpOperator op
  let part ← combine numerics operator left right
  pure (whereNotna numerics right (whereNotna numerics left part))

/-- What a chain has come to so far, with one more part. -/
def conjoin (soFar : Option (Value C κ ν)) (part : Value C κ ν) :
    Except (EvalError ε) (Value C κ ν) :=
  match soFar with
  | none => .ok part
  | some out => combine numerics .product out part

def window : Value C κ ν → Except (EvalError ε) Literal
  | .scalar (.literal value) =>
    match value.asInt with
    | some count =>
      if 1 ≤ count ∧ count ≤ maxWindow then .ok value
      else .error (.factor ⟨"窗口须为 1..250 的整数"⟩)
    | none => .error (.factor ⟨"窗口须为 1..250 的整数"⟩)
  | _ => .error (.factor ⟨"窗口须为 1..250 的整数"⟩)

/-- `rolling(n, min_periods=n)` of a statistic; truth values are no windows
here. -/
def rolling (func : Func) (rows : Frame C κ) : Literal → Except (EvalError ε) (Frame C κ)
  | .int count =>
    .ok
      (overPrefixes
        (fun past code =>
          if past.length < count.toNat then numerics.blank
          else
            numerics.rolling func ((past.drop (past.length - count.toNat)).map (· code)))
        rows)
  | _ => .error .window

/-- `shift(n)`. -/
def shift (lag : ℤ) (rows : Frame C κ) : Frame C κ := shifted (fun _ => numerics.blank) lag rows

/-- The two-place entries of `FUNCS`. -/
def callWindowed (func : Func) (rows : Frame C κ) (size : Literal) :
    Except (EvalError ε) (Frame C κ) :=
  match func with
  | .tsDelta =>
    .ok
      (List.zipWith (fun now before code => numerics.cell (.bin .sub) (now code) (before code))
        rows (shift numerics (size.asInt.getD 0) rows))
  | .delay => .ok (shift numerics (size.asInt.getD 0) rows)
  | .tsEma =>
    .ok (overPrefixes (fun past code => numerics.ewm (size.asInt.getD 0) (past.map (· code))) rows)
  | _ => rolling numerics func rows size

/-- The one-place entries of `FUNCS`. -/
def callPlain (func : Func) (rows : Frame C κ) : Frame C κ :=
  match func with
  | .csRank => rows.map (numerics.across func)
  | .csZscore => rows.map (numerics.across func)
  | _ => rows.map fun row code => numerics.pointwise func (row code)

def callOne (id : String) (first : Value C κ ν) : Except (EvalError ε) (Value C κ ν) :=
  match funcOf id, first with
  | none, _ => .error (.key id)
  | some func, .scalar _ => .error (if func.arity = 1 then .attribute else .arity)
  | some func, .frame rows =>
    if func.arity = 1 then .ok (.frame (callPlain numerics func rows))
    else .error .arity

def callTwo (id : String) (first : Value C κ ν) (size : Literal) :
    Except (EvalError ε) (Value C κ ν) :=
  match funcOf id, first with
  | none, _ => .error (.key id)
  | some func, .scalar _ => .error (if func.arity = 2 then .attribute else .arity)
  | some func, .frame rows =>
    if func.arity = 2 then
      (callWindowed numerics func rows size).map .frame
    else .error .arity

/-- `FUNCS[id][1](*args)`, with the window checked. -/
def callFunc (id : String) : List (Value C κ ν) → Except (EvalError ε) (Value C κ ν)
  | [first] => callOne numerics id first
  | [first, second] => do
    let size ← window second
    callTwo numerics id first size
  | _ => .error (if (funcOf id).isSome then .arity else .key id)

/-- `BoolOp`, over the values after the first one. -/
def connect (op : BoolOp) : Value C κ ν → List (Value C κ ν) → Except (EvalError ε) (Value C κ ν)
  | first, [] => .ok first
  | first, value :: rest => do
    let joined ← combine numerics (match op with | .and => .product | .or => .maximum) first value
    connect op joined rest

end Operations

/-- A nested call; without a frame on the stack for it, it raises. -/
def descend {ε α : Type} (raised : ε) (frames : ℕ) (run : ℕ → Except ε α) : Except ε α :=
  match frames with
  | 0 => .error raised
  | below + 1 => run below

section Evaluator

variable {C κ ν ε : Type} (numerics : Numerics C κ ν ε) (lookup : String → Option (Frame C κ))

mutual

/-- `ev`, with room on the stack for so many nested calls. -/
def ev : ℕ → Node → Except (EvalError ε) (Value C κ ν)
  | _, .constant value => .ok (.scalar (.literal value))
  | _, .name id =>
    match lookup id with
    | none => .error (.key id)
    | some rows => .ok (.frame rows)
  | frames, .unaryOp op operand => do
    let value ← descend .recursion frames fun below => ev below operand
    applyUnary numerics op value
  | frames, .compare left links => do
    let value ← descend .recursion frames fun below => ev below left
    evLinks frames links value none
  | frames, .boolOp op first rest => do
    let value ← descend .recursion frames fun below => ev below first
    let values ← evNodes frames rest
    connect numerics op value values
  | frames, .binOp op left right => do
    let operator ← binOperator op
    let first ← descend .recursion frames fun below => ev below left
    let second ← descend .recursion frames fun below => ev below right
    combine numerics operator first second
  | frames, .call func args _ => do
    let id ← calledName func
    let values ← evNodes frames args
    callFunc numerics id values
  | _, .other _ _ => .error .assertion

def evNodes : ℕ → Nodes → Except (EvalError ε) (List (Value C κ ν))
  | _, .nil => .ok []
  | frames, .cons head tail => do
    let value ← descend .recursion frames fun below => ev below head
    let values ← evNodes frames tail
    pure (value :: values)

def evLinks : ℕ → Links → Value C κ ν → Option (Value C κ ν) → Except (EvalError ε) (Value C κ ν)
  | frames, .last op right, left, soFar => do
    let value ← descend .recursion frames fun below => ev below right
    let part ← compareOnce numerics op left value
    conjoin numerics soFar part
  | frames, .cons op right rest, left, soFar => do
    let value ← descend .recursion frames fun below => ev below right
    let part ← compareOnce numerics op left value
    let joined ← conjoin numerics soFar part
    evLinks frames rest value (some joined)

end

end Evaluator

/-- `evaluate`; the recursion limit leaves room for so many nested calls of
`ev`, those of the libraries on top of them included. -/
def evaluate {C κ ν ε : Type} (grammar : Grammar) (numerics : Numerics C κ ν ε) (frames : ℕ)
    (expression : String) (panel : Panel C κ) : Except (EvalError ε) (Frame C κ) := do
  let tree ← (validate grammar expression).mapError .factor
  let out ← descend .recursion frames fun below => ev numerics panel.field below tree
  match out with
  | .scalar _ => .error (.factor ⟨"表达式须引用至少一个字段"⟩)
  | .frame rows => pure (rows.map fun row code => numerics.finite (row code))

end RQuant.Factor
