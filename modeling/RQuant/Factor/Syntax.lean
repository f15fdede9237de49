import RQuant.Foundation.Checked

/-!
# Factor expressions

The syntax trees that the parser hands to `validate`, and the checks that
`validate` makes on every node of a tree.
-/

namespace RQuant.Factor

open Foundation List

structure FactorExpressionError where
  text : String
  deriving DecidableEq

def fields : List String :=
  ["open", "high", "low", "close", "pre_close", "pct_chg", "vol", "amount"]

def extraFields : List String :=
  ["turnover", "mf_io", "mf_lg", "chip_profit", "chip_cost_dev", "chip_conc90"]

def maxWindow : ℤ := 250

inductive Func where
  | tsMean
  | tsSum
  | tsStd
  | tsMax
  | tsMin
  | tsDelta
  | tsRank
  | delay
  | tsEma
  | csRank
  | csZscore
  | log
  | abs
  deriving DecidableEq

/-- The keys of `FUNCS`. -/
def funcs : List (String × Func) :=
  [("ts_mean", .tsMean), ("ts_sum", .tsSum), ("ts_std", .tsStd),
    ("ts_max", .tsMax), ("ts_min", .tsMin), ("ts_delta", .tsDelta),
    ("ts_rank", .tsRank), ("delay", .delay), ("ts_ema", .tsEma),
    ("cs_rank", .csRank), ("cs_zscore", .csZscore), ("log", .log),
    ("abs", .abs)]

def funcOf (id : String) : Option Func := funcs.lookup id

/-- The arities in `FUNCS`. -/
def Func.arity : Func → ℕ
  | .csRank => 1
  | .csZscore => 1
  | .log => 1
  | .abs => 1
  | _ => 2

/-- The value of a constant; everything but numbers is rejected. -/
inductive Literal where
  | int (value : ℤ)
  | bool (value : Bool)
  | float (text : String)
  | other (kind : String)
  deriving DecidableEq

/-- `isinstance(value, int)`: truth values are integers. -/
def Literal.asInt : Literal → Option ℤ
  | .int value => some value
  | .bool value => some (if value then 1 else 0)
  | _ => none

/-- `isinstance(value, (int, float))`. -/
def Literal.isNumber : Literal → Bool
  | .other _ => false
  | _ => true

/-- Unary operators; those without a meaning carry the name of their class. -/
inductive UnaryOp where
  | usub
  | not
  | other (kind : String)
  deriving DecidableEq

/-- The keys of `_BIN`, and the others. -/
inductive BinOp where
  | add
  | sub
  | mult
  | div
  | other (kind : String)
  deriving DecidableEq

/-- The keys of `_CMP`, and the others. -/
inductive CmpOp where
  | gt
  | gtE
  | lt
  | ltE
  | eq
  | notEq
  | other (kind : String)
  deriving DecidableEq

/-- The operators of `and` and `or`. -/
inductive BoolOp where
  | and
  | or
  deriving DecidableEq

mutual

/-- The trees of the parser.  Kinds of nodes that the language does not have
are kept with the name of their class and their children. -/
inductive Node where
  | constant (value : Literal)
  | name (id : String)
  | unaryOp (op : UnaryOp) (operand : Node)
  | binOp (op : BinOp) (left right : Node)
  | boolOp (op : BoolOp) (first : Node) (rest : Nodes)
  | compare (left : Node) (links : Links)
  | call (func : Node) (args keywords : Nodes)
  | other (kind : String) (children : Nodes)

/-- A list of trees. -/
inductive Nodes where
  | nil
  | cons (head : Node) (tail : Nodes)

/-- The operators and comparators of a chain of comparisons. -/
inductive Links where
  | last (op : CmpOp) (right : Node)
  | cons (op : CmpOp) (right : Node) (rest : Links)

end

def Nodes.toList : Nodes → List Node
  | .nil => []
  | .cons head tail => head :: tail.toList

def Links.ops : Links → List CmpOp
  | .last op _ => [op]
  | .cons op _ rest => op :: rest.ops

def Links.comparators : Links → List Node
  | .last _ right => [right]
  | .cons _ right rest => right :: rest.comparators

/-- What `ast.walk` comes across: a node, or an operator, with the name of its
class when the language does not have it. -/
inductive Item where
  | node (node : Node)
  | operator (unsupported : Option String)

/-- The name of an operator that the language does not have. -/
def UnaryOp.unsupported : UnaryOp → Option String
  | .other kind => some kind
  | _ => none

def BinOp.unsupported : BinOp → Option String
  | .other kind => some kind
  | _ => none

def CmpOp.unsupported : CmpOp → Option String
  | .other kind => some kind
  | _ => none

/-- `ast.iter_child_nodes`. -/
def Item.children : Item → List Item
  | .node (.constant _) => []
  | .node (.name _) => []
  | .node (.unaryOp op operand) => [.operator op.unsupported, .node operand]
  | .node (.binOp op left right) => [.node left, .operator op.unsupported, .node right]
  | .node (.boolOp _ first rest) => .node first :: rest.toList.map .node
  | .node (.compare left links) =>
    .node left :: (links.ops.map fun op => .operator op.unsupported) ++ links.comparators.map .node
  | .node (.call func args keywords) =>
    .node func :: args.toList.map .node ++ keywords.toList.map .node
  | .node (.other _ children) => children.toList.map .node
  | .operator _ => []

/-- The second argument of a call is an integer constant. -/
def integerWindow : Nodes → Bool
  | .cons _ (.cons (.constant value) _) => value.asInt.isSome
  | _ => false

/-- The checks of `validate` on one node. -/
def Item.check : Item → Except FactorExpressionError Unit
  | .operator none => .ok ()
  | .operator (some kind) => .error ⟨"不支持的语法：" ++ kind⟩
  | .node (.other kind _) => .error ⟨"不支持的语法：" ++ kind⟩
  | .node (.constant value) => require (value.isNumber = true) ⟨"只允许数字常量"⟩
  | .node (.name id) =>
    require (id ∈ fields ∨ id ∈ extraFields ∨ (funcOf id).isSome = true) ⟨"未知字段：" ++ id⟩
  | .node (.call (.name id) args keywords) =>
    match funcOf id with
    | none => .error ⟨"未知函数"⟩
    | some func => do
      require (args.toList.length = func.arity ∧ keywords.toList.length = 0)
        ⟨id ++ " 需要 " ++ toString func.arity ++ " 个参数"⟩
      require (func.arity = 2 → integerWindow args = true) ⟨id ++ " 的窗口须为整数常量"⟩
  | .node (.call _ _ _) => .error ⟨"未知函数"⟩
  | .node _ => .ok ()

/-- `ast.walk`, with as much fuel as there are nodes. -/
def walk : ℕ → List Item → Except FactorExpressionError Unit
  | _, [] => .ok ()
  | 0, _ => .ok ()
  | fuel + 1, item :: queue => do
    item.check
    walk fuel (queue ++ item.children)

mutual

def Node.size : Node → ℕ
  | .constant _ => 1
  | .name _ => 1
  | .unaryOp _ operand => operand.size + 2
  | .binOp _ left right => left.size + right.size + 2
  | .boolOp _ first rest => first.size + rest.size + 1
  | .compare left links => left.size + links.size + 1
  | .call func args keywords => func.size + args.size + keywords.size + 1
  | .other _ children => children.size + 1

def Nodes.size : Nodes → ℕ
  | .nil => 0
  | .cons head tail => head.size + tail.size

def Links.size : Links → ℕ
  | .last _ right => right.size + 1
  | .cons _ right rest => right.size + rest.size + 1

end

/-- The parser of the language that the formulas are written in, with the
message of its syntax error, and its printer. -/
structure Grammar where
  parse : String → Except String Node
  unparse : Node → String

def validate (grammar : Grammar) (expression : String) : Except FactorExpressionError Node := do
  require (expression.length ≤ 4000) ⟨"表达式过长"⟩
  let tree ← (grammar.parse expression).mapError fun message => ⟨"语法错误：" ++ message⟩
  walk tree.size [.node tree]
  pure tree

/-- A node passes its check, and so do the nodes below it. -/
inductive Item.Valid : Item → Prop
  | intro {item : Item} (checked : item.check = .ok ())
      (below : ∀ child ∈ item.children, child.Valid) : item.Valid

def Item.size : Item → ℕ
  | .node tree => tree.size
  | .operator _ => 1

def queueSize (queue : List Item) : ℕ := (queue.map Item.size).sum

@[simp] theorem queueSize_nil : queueSize [] = 0 :=
  rfl

@[simp] theorem queueSize_cons (item : Item) (queue : List Item) :
    queueSize (item :: queue) = item.size + queueSize queue := by
  simp [queueSize]

@[simp] theorem queueSize_append (left right : List Item) :
    queueSize (left ++ right) = queueSize left + queueSize right := by
  simp [queueSize]

theorem Nodes.queueSize_toList : ∀ nodes : Nodes, queueSize (nodes.toList.map .node) = nodes.size
  | .nil => rfl
  | .cons head tail => by
      rw [Nodes.toList, map_cons, queueSize_cons,
        Nodes.queueSize_toList tail, Nodes.size, Item.size]

theorem Links.queueSize_toList :
    ∀ links : Links, queueSize (links.ops.map fun op => .operator op.unsupported) +
      queueSize (links.comparators.map .node) = links.size
  | .last op right => by
      simp only [Links.ops, Links.comparators, map_cons, map_nil,
        queueSize_cons, queueSize_nil, Item.size, Links.size]
      omega
  | .cons op right rest => by
      have below := Links.queueSize_toList rest
      simp only [Links.ops, Links.comparators, map_cons, queueSize_cons, Item.size, Links.size]
      omega

theorem Item.size_eq (item : Item) : item.size = queueSize item.children + 1 := by
  cases item with
  | operator unsupported => rfl
  | node tree =>
    cases tree with
    | compare left links =>
      have below := links.queueSize_toList
      simp only [Item.size, Node.size, Item.children, queueSize_cons, queueSize_append, cons_append]
      omega
    | _ =>
      simp only [Item.size, Node.size, Item.children, queueSize_cons, queueSize_append,
        queueSize_nil, cons_append, Nodes.queueSize_toList] <;> omega

variable {fuel : ℕ} {tree : Node}

theorem valid_of_walk (enough : queueSize queue ≤ fuel) (walked : walk fuel queue = .ok ()) :
    ∀ item ∈ queue, item.Valid := by
  induction fuel generalizing queue with
  | zero =>
    cases queue with
    | nil => simp
    | cons item rest =>
      have counted := item.size_eq
      rw [queueSize_cons] at enough
      omega
  | succ fuel ih =>
    cases queue with
    | nil => simp
    | cons item rest =>
      have counted := item.size_eq
      rw [queueSize_cons] at enough
      simp only [run_eq_ok, walk] at walked
      have later := ih (by rw [queueSize_append]; omega) walked.2
      intro found mem
      rcases mem_cons.mp mem with rfl | behind
      · exact .intro walked.1 fun child below => later child (mem_append_right _ below)
      · exact later found (mem_append_left _ behind)

theorem valid_of_validate (validated : validate grammar expression = .ok tree) :
    (Item.node tree).Valid := by
  unfold validate at validated
  simp only [run_eq_ok, mapError_eq_ok] at validated
  obtain ⟨-, _, -, walked, rfl⟩ := validated
  refine valid_of_walk ?_ walked _ mem_cons_self
  simp [Item.size]

end RQuant.Factor
