import RQuant.Factor.Evaluate

/-!
# Kinds of expressions

An expression is worth a frame or a plain number, which can be told without a
panel.  Evaluation gets stuck exactly where the kinds do not fit or the numeric
libraries refuse a number.
-/

namespace RQuant.Factor

open Foundation List

/-- What an expression is worth, without the cells of a panel. -/
inductive Kind (ν : Type) where
  | frame
  | number (value : Scalar ν)

/-- Why an expression has no kind: a window out of range, which is refused as
`FactorExpressionError`, or anything else. -/
inductive Fault where
  | refused
  | stuck
  deriving DecidableEq

section Checker

variable {C κ ν ε : Type} (numerics : Numerics C κ ν ε)

def meet (op : Operator) : Kind ν → Kind ν → Except Fault (Kind ν)
  | .frame, .frame => .ok .frame
  | .frame, .number right =>
    ((numerics.broadcast op right).mapError fun _ => .stuck).map fun _ => .frame
  | .number left, .frame =>
    ((numerics.broadcast op left).mapError fun _ => .stuck).map fun _ => .frame
  | .number left, .number right =>
    ((numerics.scalar op left right).mapError fun _ => .stuck).map .number

def unaryKind (op : UnaryOp) (kind : Kind ν) : Except Fault (Kind ν) :=
  match op, kind with
  | .not, kind => meet numerics .complement (.number (.literal (.float "1.0"))) kind
  | _, .frame => .ok .frame
  | _, .number value => ((numerics.negateScalar value).mapError fun _ => .stuck).map .number

def conjoinKinds (soFar : Option (Kind ν)) (part : Kind ν) : Except Fault (Kind ν) :=
  match soFar with
  | none => .ok part
  | some out => meet numerics .product out part

def connectKinds (op : BoolOp) : Kind ν → List (Kind ν) → Except Fault (Kind ν)
  | first, [] => .ok first
  | first, kind :: rest => do
    let joined ← meet numerics (match op with | .and => .product | .or => .maximum) first kind
    connectKinds op joined rest

def Func.isRolling : Func → Bool
  | .tsMean => true
  | .tsSum => true
  | .tsStd => true
  | .tsMax => true
  | .tsMin => true
  | .tsRank => true
  | _ => false

def Literal.inRange (size : Literal) : Bool :=
  size.asInt.any fun count => 1 ≤ count && count ≤ maxWindow

def windowedKind (func : Option Func) (kind : Kind ν) (size : Literal) : Except Fault (Kind ν) :=
  if size.inRange then
    match func, kind, size with
    | some func, .frame, .bool _ => if func.isRolling then .error .stuck else .ok .frame
    | _, .frame, _ => .ok .frame
    | _, .number _, _ => .error .stuck
  else .error .refused

def plainKind : Kind ν → Except Fault (Kind ν)
  | .frame => .ok .frame
  | .number _ => .error .stuck

/-- The name of a function stands for a value, and the panel does not have
it. -/
def misplaced (extra : String → Bool) (id : String) : Bool := (funcOf id).isSome && !extra id

variable (extra : String → Bool)

mutual

/-- The kind of an expression, as far as so many nested calls tell it. -/
def kindOf : ℕ → Node → Except Fault (Kind ν)
  | _, .constant value => .ok (.number (.literal value))
  | _, .name id => if misplaced extra id then .error .stuck else .ok .frame
  | frames, .unaryOp op operand => do
    let kind ← descend .stuck frames fun below => kindOf below operand
    unaryKind numerics op kind
  | frames, .binOp op left right => do
    let first ← descend .stuck frames fun below => kindOf below left
    let second ← descend .stuck frames fun below => kindOf below right
    meet numerics (.bin op) first second
  | frames, .boolOp op first rest => do
    let kind ← descend .stuck frames fun below => kindOf below first
    let kinds ← kindsOf frames rest
    connectKinds numerics op kind kinds
  | frames, .compare left links => do
    let kind ← descend .stuck frames fun below => kindOf below left
    linksKind frames links kind none
  | frames, .call (.name id) (.cons first (.cons (.constant size) .nil)) _ => do
    let kind ← descend .stuck frames fun below => kindOf below first
    windowedKind (funcOf id) kind size
  | frames, .call _ (.cons first .nil) _ => do
    let kind ← descend .stuck frames fun below => kindOf below first
    plainKind kind
  | _, .call _ _ _ => .error .stuck
  | _, .other _ _ => .error .stuck

def kindsOf : ℕ → Nodes → Except Fault (List (Kind ν))
  | _, .nil => .ok []
  | frames, .cons head tail => do
    let kind ← descend .stuck frames fun below => kindOf below head
    let kinds ← kindsOf frames tail
    pure (kind :: kinds)

def linksKind : ℕ → Links → Kind ν → Option (Kind ν) → Except Fault (Kind ν)
  | frames, .last op right, left, soFar => do
    let kind ← descend .stuck frames fun below => kindOf below right
    let part ← meet numerics (.cmp op) left kind
    conjoinKinds numerics soFar part
  | frames, .cons op right rest, left, soFar => do
    let kind ← descend .stuck frames fun below => kindOf below right
    let part ← meet numerics (.cmp op) left kind
    let joined ← conjoinKinds numerics soFar part
    linksKind frames rest kind (some joined)

end

end Checker

def Value.kind {C κ ν : Type} : Value C κ ν → Kind ν
  | .frame _ => .frame
  | .scalar value => .number value

/-- `FactorExpressionError` is a refusal; any other error means stuck. -/
def EvalError.fault {ε : Type} : EvalError ε → Fault
  | .factor _ => .refused
  | _ => .stuck

/-- What remains of a computation when its values and errors are reduced. -/
def outline {ε α β : Type} (convert : α → β) (computed : Except (EvalError ε) α) : Except Fault β :=
  (computed.mapError EvalError.fault).map convert

section Outline

variable {ε α β γ δ : Type}

@[simp] theorem outline_ok (convert : α → β) (value : α) :
    outline (ε := ε) convert (.ok value) = .ok (convert value) :=
  rfl

@[simp] theorem outline_error (convert : α → β) (raised : EvalError ε) :
    outline convert (.error raised) = .error raised.fault :=
  rfl

theorem outline_descend (convert : α → β) (frames : ℕ) (run : ℕ → Except (EvalError ε) α) :
    outline convert (descend .recursion frames run) =
      descend .stuck frames fun below => outline convert (run below) := by
  cases frames <;> rfl

theorem outline_bind {convert : α → γ} {result : β → δ} {next : α → Except (EvalError ε) β}
    {next' : γ → Except Fault δ}
    (alike : ∀ value, outline result (next value) = next' (convert value)) :
    outline result (first >>= next) = (outline convert first >>= next') := by
  cases first with
  | error raised => rfl
  | ok value => exact alike value

end Outline

variable {func : Func} {op : CmpOp}

section Agreement

variable {C κ ν ε : Type} (numerics : Numerics C κ ν ε)

theorem outline_combine (op : Operator) (left right : Value C κ ν) :
    outline Value.kind (combine numerics op left right) =
      meet numerics op left.kind right.kind := by
  cases left with
  | frame first =>
    cases right with
    | frame second => rfl
    | scalar second =>
      simp only [combine, meet, Value.kind]
      cases numerics.broadcast op second <;> rfl
  | scalar first =>
    cases right with
    | frame second =>
      simp only [combine, meet, Value.kind]
      cases numerics.broadcast op first <;> rfl
    | scalar second =>
      simp only [combine, meet, Value.kind]
      cases numerics.scalar op first second <;> rfl

theorem outline_applyUnary (op : UnaryOp) (value : Value C κ ν) :
    outline Value.kind (applyUnary numerics op value) = unaryKind numerics op value.kind := by
  cases op with
  | not => exact outline_combine numerics .complement (.scalar (.literal (.float "1.0"))) value
  | _ =>
    cases value with
    | frame rows => rfl
    | scalar number =>
      simp only [applyUnary, negate, unaryKind, Value.kind]
      cases numerics.negateScalar number <;> rfl

theorem kind_whereNotna (side part : Value C κ ν) :
    (whereNotna numerics side part).kind = part.kind := by
  cases side <;> cases part <;> rfl

theorem outline_compareOnce (supported : op.unsupported = none)
    (left right : Value C κ ν) :
    outline Value.kind (compareOnce numerics op left right) =
      meet numerics (.cmp op) left.kind right.kind := by
  have known : cmpOperator (ε := ε) op = .ok (.cmp op) := by
    cases op <;> first | rfl | cases supported
  rw [compareOnce, known, ok_bind, ← outline_combine]
  cases combine numerics (.cmp op) left right with
  | error raised => rfl
  | ok part =>
    exact congrArg Except.ok
      ((kind_whereNotna numerics right _).trans (kind_whereNotna numerics left part))

theorem outline_conjoin (soFar : Option (Value C κ ν)) (part : Value C κ ν) :
    outline Value.kind (conjoin numerics soFar part) =
      conjoinKinds numerics (soFar.map Value.kind) part.kind := by
  cases soFar with
  | none => rfl
  | some out => exact outline_combine numerics .product out part

theorem outline_connect (op : BoolOp) (first : Value C κ ν) (values : List (Value C κ ν)) :
    outline Value.kind (connect numerics op first values) =
      connectKinds numerics op first.kind (values.map Value.kind) := by
  induction values generalizing first with
  | nil => rfl
  | cons value rest ih =>
    simp only [connect, connectKinds, map_cons]
    rw [← outline_combine]
    exact outline_bind ih

theorem outline_callOne {id : String} (known : funcOf id = some func)
    (plain : func.arity = 1) (value : Value C κ ν) :
    outline Value.kind (callOne numerics id value) = plainKind value.kind := by
  unfold callOne
  rw [known]
  cases value with
  | frame rows | scalar number =>
    simp only [plain, if_true]
    rfl

theorem window_literal (size : Literal) :
    window (C := C) (κ := κ) (ν := ν) (ε := ε) (.scalar (.literal size)) =
      if size.inRange then .ok size
      else .error (.factor ⟨"窗口须为 1..250 的整数"⟩) := by
  cases found : size.asInt with
  | none | some count => simp [window, Literal.inRange, found]

theorem outline_callWindowed (windowed : func.arity = 2) (rows : Frame C κ)
    {size : Literal} (isInt : size.asInt.isSome = true) :
    outline (fun _ => Kind.frame (ν := ν)) (callWindowed numerics func rows size) =
      match size with
      | .bool _ => if func.isRolling then .error .stuck else .ok .frame
      | _ => .ok .frame := by
  cases size with
  | int count => cases func <;> rfl
  | bool value => cases func <;> first | rfl | cases windowed
  | float text => cases isInt
  | other kind => cases isInt

theorem outline_callFunc_windowed {id : String} (known : funcOf id = some func)
    (windowed : func.arity = 2) (value : Value C κ ν) {size : Literal}
    (isInt : size.asInt.isSome = true) :
    outline Value.kind (callFunc numerics id [value, .scalar (.literal size)]) =
      windowedKind (funcOf id) value.kind size := by
  simp only [callFunc, window_literal, windowedKind]
  by_cases within : size.inRange = true
  · rw [if_pos within, if_pos within, ok_bind]
    cases value with
    | scalar number =>
      simp only [callTwo, known, windowed, if_true]
      cases size <;> rfl
    | frame rows =>
      simp only [callTwo, known, windowed, if_true]
      have called := outline_callWindowed (ν := ν) numerics windowed rows isInt
      have same :
          outline Value.kind ((callWindowed numerics func rows size).map (Value.frame (ν := ν))) =
            outline (fun _ => Kind.frame) (callWindowed numerics func rows size) := by
        cases callWindowed numerics func rows size <;> rfl
      rw [same, called]
      cases size <;> rfl
  · rw [if_neg within, if_neg within]
    rfl

/-! ### Trees -/

def Nodes.Valid (nodes : Nodes) : Prop := ∀ node ∈ nodes.toList, (Item.node node).Valid

def Links.Valid (links : Links) : Prop :=
  (∀ op ∈ links.ops, op.unsupported = none) ∧ ∀ node ∈ links.comparators, (Item.node node).Valid

theorem Item.Valid.supported (valid : (Item.operator unsupported).Valid) :
    unsupported = none := by
  obtain ⟨checked, -⟩ := valid
  cases unsupported with
  | none => rfl
  | some kind => cases checked

theorem Item.Valid.links {left : Node} {links : Links}
    (valid : (Item.node (.compare left links)).Valid) : links.Valid := by
  obtain ⟨-, below⟩ := valid
  constructor
  · intro op mem
    apply Item.Valid.supported (below _ _)
    simp only [Item.children, cons_append, mem_cons, mem_append, mem_map]
    exact .inr (.inl ⟨op, mem, rfl⟩)
  · intro node mem
    apply below
    simp only [Item.children, cons_append, mem_cons, mem_append, mem_map]
    exact .inr (.inr ⟨node, mem, rfl⟩)

theorem Func.arity_cases (func : Func) : func.arity = 1 ∨ func.arity = 2 := by
  cases func <;> decide

theorem Nodes.eq_of_length_one {nodes : Nodes} (counted : nodes.toList.length = 1) :
    ∃ first, nodes = .cons first .nil := by
  match nodes, counted with
  | .cons first .nil, _ => exact ⟨first, rfl⟩

theorem Nodes.eq_of_length_two {nodes : Nodes} (counted : nodes.toList.length = 2) :
    ∃ first second, nodes = .cons first (.cons second .nil) := by
  match nodes, counted with
  | .cons first (.cons second .nil), _ => exact ⟨first, second, rfl⟩

/-- A valid call names a function and has its arguments, of which a second
one is an integer constant. -/
theorem Item.Valid.call
    (valid : (Item.node (.call called args keywords)).Valid) :
    ∃ id func, called = .name id ∧ funcOf id = some func ∧
      ((func.arity = 1 ∧ ∃ first, args = .cons first .nil ∧ (Item.node first).Valid) ∨
        (func.arity = 2 ∧
          ∃ first size, args = .cons first (.cons (.constant size) .nil) ∧
            size.asInt.isSome = true ∧ (Item.node first).Valid)) := by
  obtain ⟨checked, below⟩ := valid
  cases called with
  | name id =>
    simp only [Item.check] at checked
    split at checked
    · cases checked
    · rename_i func known
      simp only [run_eq_ok] at checked
      obtain ⟨⟨counted, -⟩, isWindow⟩ := checked
      refine ⟨id, func, rfl, known, ?_⟩
      have firstBelow : ∀ {first rest}, args = .cons first rest → (Item.node first).Valid := by
        rintro first rest rfl
        exact below _ (by simp [Item.children, Nodes.toList])
      rcases func.arity_cases with one | two
      · rw [one] at counted
        obtain ⟨first, rfl⟩ := Nodes.eq_of_length_one counted
        exact .inl ⟨one, first, rfl, firstBelow rfl⟩
      · rw [two] at counted
        obtain ⟨first, second, rfl⟩ := Nodes.eq_of_length_two counted
        have isInt := isWindow two
        cases second with
        | constant size => exact .inr ⟨two, first, size, rfl, isInt, firstBelow rfl⟩
        | _ => cases isInt
  | _ => cases checked

variable {lookup : String → Option (Frame C κ)}

/-- The panel has every name that an expression may use as a field. -/
def Provides (lookup : String → Option (Frame C κ)) : Prop :=
  ∀ id, id ∈ fields ∨ id ∈ extraFields → (lookup id).isSome = true

mutual

/-- By recursion over the tree: each operation of the evaluator agrees with that
of the checker. -/
theorem outline_ev (provides : Provides lookup) : ∀ (frames : ℕ) {node : Node},
    (Item.node node).Valid → outline Value.kind (ev numerics lookup frames node) =
      kindOf numerics (fun id => (lookup id).isSome) frames node
  | _, .constant value, _ => rfl
  | _, .name id, valid => by
      obtain ⟨checked, -⟩ := valid
      simp only [Item.check, require_eq_ok] at checked
      by_cases present : (lookup id).isSome = true
      · obtain ⟨_, found⟩ := Option.isSome_iff_exists.mp present
        simp [ev, kindOf, misplaced, found, Value.kind]
      · -- Only the name of a function can be missing in the panel.
        have isFunc : (funcOf id).isSome = true := by
          rcases checked with field | extra | isFunc
          · exact absurd (provides id (.inl field)) present
          · exact absurd (provides id (.inr extra)) present
          · exact isFunc
        have missing : lookup id = none := Option.not_isSome_iff_eq_none.mp present
        simp [ev, kindOf, misplaced, missing, isFunc, EvalError.fault]
  | frames, .unaryOp op operand, valid => by
      obtain ⟨-, below⟩ := valid
      have operandValid := below (.node operand) (by simp [Item.children])
      simp only [ev, kindOf, ← fun below => outline_ev provides below operandValid,
        ← outline_descend]
      exact outline_bind (outline_applyUnary numerics op)
  | frames, .binOp op left right, valid => by
      obtain ⟨-, below⟩ := valid
      have leftValid := below (.node left) (by simp [Item.children])
      have rightValid := below (.node right) (by simp [Item.children])
      have supported := (below (.operator op.unsupported) (by simp [Item.children])).supported
      have known : binOperator (ε := ε) op = .ok (.bin op) := by
        cases op <;> first | rfl | cases supported
      simp only [ev, kindOf, known, ok_bind, ← fun below => outline_ev provides below leftValid,
        ← fun below => outline_ev provides below rightValid, ← outline_descend]
      exact outline_bind fun first =>
        outline_bind fun second => outline_combine numerics (.bin op) first second
  | frames, .boolOp op first rest, valid => by
      obtain ⟨-, below⟩ := valid
      have firstValid := below (.node first) (by simp [Item.children])
      have restValid : rest.Valid := by
        intro node mem
        exact below (.node node) (by simp [Item.children, mem])
      simp only [ev, kindOf, ← fun below => outline_ev provides below firstValid,
        ← outline_evNodes provides frames restValid, ← outline_descend]
      exact outline_bind fun value =>
        outline_bind fun values => outline_connect numerics op value values
  | frames, .compare left links, valid => by
      have linksValid := valid.links
      obtain ⟨-, below⟩ := valid
      have leftValid := below (.node left) (by simp [Item.children])
      simp only [ev, kindOf, ← fun below => outline_ev provides below leftValid,
        ← outline_descend]
      exact outline_bind fun value => outline_evLinks provides frames linksValid value none
  | frames, .call called args keywords, valid => by
      obtain ⟨id, _, rfl, known, ⟨plain, first, rfl, firstValid⟩ |
        ⟨windowed, first, _, rfl, isInt, firstValid⟩⟩ := valid.call
      · simp only [ev, kindOf, calledName, evNodes, ok_bind,
          ← fun below => outline_ev provides below firstValid, ← outline_descend]
        cases descend .recursion frames fun below => ev numerics lookup below first with
        | error raised => rfl
        | ok value => exact outline_callOne numerics known plain value
      · -- the window is a constant, which takes a frame as well
        simp only [ev, kindOf, calledName, evNodes, ok_bind,
          ← fun below => outline_ev provides below firstValid, ← outline_descend]
        cases frames with
        | zero => rfl
        | succ frames =>
          simp only [descend]
          cases ev numerics lookup frames first with
          | error raised => rfl
          | ok value => exact outline_callFunc_windowed numerics known windowed value isInt
  | _, .other kind children, valid => by
      obtain ⟨checked, -⟩ := valid
      cases checked

theorem outline_evNodes (provides : Provides lookup) : ∀ (frames : ℕ) {nodes : Nodes},
    nodes.Valid → outline (map Value.kind) (evNodes numerics lookup frames nodes) =
      kindsOf numerics (fun id => (lookup id).isSome) frames nodes
  | _, .nil, _ => rfl
  | frames, .cons head tail, valid => by
      have headValid := valid head (by simp [Nodes.toList])
      have tailValid : tail.Valid := by
        intro node mem
        exact valid node (by simp [Nodes.toList, mem])
      simp only [evNodes, kindsOf, ← fun below => outline_ev provides below headValid,
        ← outline_evNodes provides frames tailValid, ← outline_descend]
      exact outline_bind fun value => outline_bind fun values => rfl

theorem outline_evLinks (provides : Provides lookup) : ∀ (frames : ℕ) {links : Links},
    links.Valid → ∀ (left : Value C κ ν) (soFar : Option (Value C κ ν)),
      outline Value.kind (evLinks numerics lookup frames links left soFar) =
        linksKind numerics (fun id => (lookup id).isSome) frames links left.kind
          (soFar.map Value.kind)
  | frames, .last op right, valid, left, soFar => by
      have supported := valid.1 op (by simp [Links.ops])
      have rightValid := valid.2 right (by simp [Links.comparators])
      simp only [evLinks, linksKind, ← fun below => outline_ev provides below rightValid,
        ← outline_descend]
      refine outline_bind fun value => ?_
      rw [← outline_compareOnce numerics supported]
      exact outline_bind fun part => outline_conjoin numerics soFar part
  | frames, .cons op right rest, valid, left, soFar => by
      have supported := valid.1 op (by simp [Links.ops])
      have rightValid := valid.2 right (by simp [Links.comparators])
      have restValid : rest.Valid :=
        ⟨fun other mem => valid.1 other (by simp [Links.ops, mem]),
          fun node mem => valid.2 node (by simp [Links.comparators, mem])⟩
      simp only [evLinks, linksKind, ← fun below => outline_ev provides below rightValid,
        ← outline_descend]
      refine outline_bind fun value => ?_
      rw [← outline_compareOnce numerics supported]
      refine outline_bind fun part => ?_
      rw [← outline_conjoin]
      exact outline_bind fun joined =>
        outline_evLinks provides frames restValid value (some joined)

end

end Agreement

/-- A frame, or `FactorExpressionError`. -/
def Settles {ε α : Type} : Except (EvalError ε) α → Prop
  | .ok _ => True
  | .error (.factor _) => True
  | .error _ => False

instance {ε α : Type} (outcome : Except (EvalError ε) α) : Decidable (Settles outcome) := by
  unfold Settles
  split <;> infer_instance

theorem settles_iff {ε α β : Type} (convert : α → β) {outcome : Except (EvalError ε) α} :
    Settles outcome ↔ outline convert outcome ≠ .error .stuck := by
  cases outcome with
  | ok value => simp [Settles]
  | error raised => cases raised <;> simp [Settles, EvalError.fault]

end RQuant.Factor
