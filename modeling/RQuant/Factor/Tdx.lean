import RQuant.Factor.Kinds
import RQuant.Factor.LookAhead
import RQuant.Foundation.Text

/-!
# Formulas

`translate` turns a formula into an expression that `validate` accepts.  What
`validate` accepts, from a formula or not, evaluates to a frame or raises
`FactorExpressionError` exactly when its kinds fit.
-/

namespace RQuant.Factor

open Foundation

structure TdxFormulaError where
  text : String
  deriving DecidableEq

/-- `FIELD`. -/
def tdxFields : List (String × String) :=
  [("C", "close"), ("CLOSE", "close"), ("O", "open"), ("OPEN", "open"),
    ("H", "high"), ("HIGH", "high"), ("L", "low"), ("LOW", "low"),
    ("V", "vol"), ("VOL", "vol"), ("AMOUNT", "amount"), ("AMO", "amount"),
    ("NWP", "mf_io"), ("DDJE", "mf_lg")]

def tdxFuncs : List (String × String) :=
  [("MA", "ts_mean"), ("REF", "delay"), ("HHV", "ts_max"), ("LLV", "ts_min"),
    ("SUM", "ts_sum"), ("STD", "ts_std"), ("ABS", "abs"), ("CROSS", "cross"),
    ("EMA", "ts_ema")]

/-- `WORD`. -/
def tdxWords : List (String × String) := [("AND", " and "), ("OR", " or "), ("NOT", " not ")]

/-- The zeros of the decimal digits of Unicode, which `\d` matches. -/
def decimalZeros : List ℕ :=
  [0x30, 0x660, 0x6f0, 0x7c0, 0x966, 0x9e6, 0xa66, 0xae6, 0xb66, 0xbe6, 0xc66, 0xce6, 0xd66,
    0xde6, 0xe50, 0xed0, 0xf20, 0x1040, 0x1090, 0x17e0, 0x1810, 0x1946, 0x19d0, 0x1a80,
    0x1a90, 0x1b50, 0x1bb0, 0x1c40, 0x1c50, 0xa620, 0xa8d0, 0xa900, 0xa9d0, 0xa9f0, 0xaa50,
    0xabf0, 0xff10, 0x104a0, 0x10d30, 0x11066, 0x110f0, 0x11136, 0x111d0, 0x112f0, 0x11450,
    0x114d0, 0x11650, 0x116c0, 0x11730, 0x118e0, 0x11950, 0x11c50, 0x11d50, 0x11da0, 0x16a60,
    0x16ac0, 0x16b50, 0x1d7ce, 0x1d7d8, 0x1d7e2, 0x1d7ec, 0x1d7f6, 0x1e140, 0x1e2f0, 0x1e950,
    0x1fbf0]

/-- `\d`. -/
def isDecimal (character : Char) : Bool :=
  decimalZeros.any fun least => least ≤ character.toNat ∧ character.toNat < least + 10

/-- The first group of `_TOKEN`. -/
def splitNumber (chars : List Char) : List Char × List Char :=
  let digits := chars.takeWhile isDecimal
  match chars.dropWhile isDecimal with
  | '.' :: rest => (digits ++ '.' :: rest.takeWhile isDecimal, rest.dropWhile isDecimal)
  | rest => (digits, rest)

def isNameStart (character : Char) : Bool := character.isAlpha || character = '_'

def isNamePart (character : Char) : Bool := character.isAlphanum || character = '_'

/-- `_TOKEN`, after the white space. -/
def nextToken : List Char → Option (List Char × List Char)
  | [] => none
  | '<' :: '>' :: rest => some (['<', '>'], rest)
  | '>' :: '=' :: rest => some (['>', '='], rest)
  | '<' :: '=' :: rest => some (['<', '='], rest)
  | ':' :: '=' :: rest => some ([':', '='], rest)
  | character :: rest =>
    if isDecimal character then some (splitNumber (character :: rest))
    else if isNameStart character then
      some (character :: rest.takeWhile isNamePart, rest.dropWhile isNamePart)
    else if character ∈ "-+*/(),<>=;:".toList then some ([character], rest)
    else none

/-- The loop of `_tokens`; every token is a character at least. -/
def tokensFrom : ℕ → List Char → Except TdxFormulaError (List String)
  | _, [] => .ok []
  | 0, _ => .ok []
  | fuel + 1, chars =>
    match nextToken (chars.dropWhile isSpace) with
    | none => .error ⟨"无法识别：" ++ String.ofList (chars.take 10)⟩
    | some (token, rest) => do
      let later ← tokensFrom fuel rest
      pure (String.ofList token :: later)

def tokens (text : String) : Except TdxFormulaError (List String) :=
  let chars := (strip text).toList
  tokensFrom chars.length chars

/-- `delay(x, 1)`. -/
def lag (node : Node) : Node :=
  .call (.name "delay") (.cons node (.cons (.constant (.int 1)) .nil)) .nil

/-- `a > b and delay(a, 1) <= delay(b, 1)`. -/
def crossing (above below : Node) : Node :=
  .boolOp .and (.compare above (.last .gt below))
    (.cons (.compare (lag above) (.last .ltE (lag below))) .nil)

/-- `visit_Call`, after the visit of the parts. -/
def visitCall (func : Node) (args keywords : Nodes) : Except TdxFormulaError Node :=
  match func, args with
  | .name "cross", .cons above (.cons below .nil) => .ok (crossing above below)
  | .name "cross", _ => .error ⟨"CROSS 需要 2 个参数"⟩
  | func, args => .ok (.call func args keywords)

mutual

/-- `_Cross`. -/
def visit : Node → Except TdxFormulaError Node
  | .constant value => .ok (.constant value)
  | .name id => .ok (.name id)
  | .unaryOp op operand => do
    let operand ← visit operand
    pure (.unaryOp op operand)
  | .binOp op left right => do
    let left ← visit left
    let right ← visit right
    pure (.binOp op left right)
  | .boolOp op first rest => do
    let first ← visit first
    let rest ← visitNodes rest
    pure (.boolOp op first rest)
  | .compare left links => do
    let left ← visit left
    let links ← visitLinks links
    pure (.compare left links)
  | .call func args keywords => do
    let func ← visit func
    let args ← visitNodes args
    let keywords ← visitNodes keywords
    visitCall func args keywords
  | .other kind children => do
    let children ← visitNodes children
    pure (.other kind children)

/-- `_Cross` on a list of nodes. -/
def visitNodes : Nodes → Except TdxFormulaError Nodes
  | .nil => .ok .nil
  | .cons head tail => do
    let head ← visit head
    let tail ← visitNodes tail
    pure (.cons head tail)

/-- `_Cross` on a chain. -/
def visitLinks : Links → Except TdxFormulaError Links
  | .last op right => do
    let right ← visit right
    pure (.last op right)
  | .cons op right rest => do
    let right ← visit right
    let rest ← visitLinks rest
    pure (.cons op right rest)

end

/-- `_expand_cross`, within the handler of its syntax error. -/
def expandCross (grammar : Grammar) (statement expression : String) :
    Except TdxFormulaError String :=
  if "cross".toList <:+: expression.toList then
    match grammar.parse expression with
    | .error _ => .error ⟨"语法错误：" ++ String.ofList ((strip statement).toList.take 40)⟩
    | .ok tree => do
      let expanded ← visit tree
      pure (grammar.unparse expanded)
  else .ok expression

def translateToken (names : List (String × String)) (token : String) :
    Except TdxFormulaError String :=
  let upper := token.toUpper
  if (token.toList.head?).any isDecimal then .ok token
  else
    match names.lookup upper, tdxFields.lookup upper, tdxFuncs.lookup upper,
      tdxWords.lookup upper with
    | some expression, _, _, _ => .ok ("(" ++ expression ++ ")")
    | none, some field, _, _ => .ok field
    | none, none, some func, _ => .ok func
    | none, none, none, some word => .ok word
    | none, none, none, none =>
      if token = "=" then .ok "=="
      else if token = "<>" then .ok "!="
      else if token ∈ ["+", "-", "*", "/", "(", ")", ",", "<", ">", ">=", "<="] then .ok token
      else .error ⟨"不支持：" ++ token⟩

/-- The target of an assignment, and what is assigned. -/
def splitTarget : List String → Option String × List String
  | name :: mark :: first :: rest =>
    if (mark = ":=" ∨ mark = ":") ∧ (name.toList.head?).any isNameStart = true then
      (some name.toUpper, first :: rest)
    else (none, name :: mark :: first :: rest)
  | found => (none, found)

def translateStatement (grammar : Grammar) (names : List (String × String)) (statement : String) :
    Except TdxFormulaError (List (String × String) × String) := do
  let found ← tokens statement
  let (target, rest) := splitTarget found
  let parts ← rest.mapM (translateToken names)
  let expression ← expandCross grammar statement (strip (String.join parts))
  match target with
  | none => pure (names, expression)
  | some name => pure ((name, expression) :: names, expression)

/-- The statements one after the other; the last one is the result. -/
def translateAll (grammar : Grammar) :
    List (String × String) → String → List String → Except TdxFormulaError String
  | _, result, [] => .ok result
  | names, _, statement :: rest => do
    let (names, result) ← translateStatement grammar names statement
    translateAll grammar names result rest

/-- `re.split(r";|\n", formula)`, without blank statements. -/
def statements (formula : String) : List String :=
  ((formula.toList.splitOnP fun character =>
      character = ';' || character = '\n').map String.ofList).filter
    fun statement => strip statement ≠ ""

def translate (grammar : Grammar) (formula : String) : Except TdxFormulaError String := do
  require (statements formula ≠ []) ⟨"公式为空"⟩
  let result ← translateAll grammar [] "" (statements formula)
  let _ ← (validate grammar result).mapError fun error => (⟨error.text⟩ : TdxFormulaError)
  pure result

theorem validate_of_translate (translated : translate grammar formula = .ok expression) :
    ∃ tree, validate grammar expression = .ok tree := by
  unfold translate at translated
  simp only [run_eq_ok, mapError_eq_ok] at translated
  obtain ⟨-, _, -, tree, validated, rfl⟩ := translated
  exact ⟨tree, validated⟩

section Accepted

variable {C κ ν ε : Type}

/-- An accepted expression settles exactly when its kinds fit within the
stack, and formulas are translated into accepted expressions. -/
theorem factor_expressions_settle (grammar : Grammar) (numerics : Numerics C κ ν ε) :
    (∀ (frames : ℕ) (expression : String) (tree : Node),
      validate grammar expression = .ok tree →
        ∀ panel : Panel C κ,
          (∀ id, id ∈ fields ∨ id ∈ extraFields → (panel.field id).isSome = true) →
            (Settles (evaluate grammar numerics frames expression panel) ↔
              (descend .stuck frames fun below =>
                kindOf numerics (fun id => (panel.field id).isSome) below tree) ≠
                  .error .stuck)) ∧
      ∀ formula expression : String, translate grammar formula = .ok expression →
        ∃ tree, validate grammar expression = .ok tree := by
  refine ⟨?_, fun formula expression => validate_of_translate⟩
  intro frames expression tree accepted panel provides
  simp only [← fun below => outline_ev numerics provides below (valid_of_validate accepted),
    ← outline_descend]
  rw [← settles_iff Value.kind]
  unfold evaluate
  simp only [accepted, Except.mapError, ok_bind]
  cases descend .recursion frames fun below => ev numerics panel.field below tree with
  | error raised =>
    rw [error_bind]
    cases raised <;> exact Iff.rfl
  | ok value =>
    cases value with
    | frame rows => exact Iff.rfl
    | scalar number => exact Iff.rfl

end Accepted

/-- A parser that knows the crossing of the close over a number, before and
after its expansion. -/
def crossGrammar : Grammar where
  parse := fun text =>
    if text = "cross(close,10)" then
      .ok (.call (.name "cross") (.cons (.name "close") (.cons (.constant (.int 10)) .nil)) .nil)
    else if text = "close > 10 and delay(close, 1) <= delay(10, 1)" then
      .ok (crossing (.name "close") (.constant (.int 10)))
    else .error "invalid syntax"
  unparse := fun _ => "close > 10 and delay(close, 1) <= delay(10, 1)"

def twoDays : Panel Unit ℤ where
  dates := [1, 2]
  field := fun id =>
    if id ∈ fields ∨ id ∈ extraFields then
      some [fun _ => 10, fun _ => 11]
    else none
  sorted := by decide
  shaped := by
    intro id frame found
    rw [Option.ite_none_right_eq_some] at found
    obtain ⟨-, same⟩ := found
    cases same
    rfl

theorem twoDays_provides (id : String) (known : id ∈ fields ∨ id ∈ extraFields) :
    (twoDays.field id).isSome = true := by
  simp [twoDays, known]

/-- `CROSS(C, 10)` is translated and accepted, and its evaluation takes
`delay` of a plain number. -/
theorem cross_of_number_sticks :
    translate crossGrammar "CROSS(C, 10)" = .ok "close > 10 and delay(close, 1) <= delay(10, 1)" ∧
      (∀ id, id ∈ fields ∨ id ∈ extraFields → (twoDays.field id).isSome = true) ∧
      evaluate crossGrammar integerNumerics 100
          "close > 10 and delay(close, 1) <= delay(10, 1)" twoDays =
        .error .attribute := by
  refine ⟨by decide +kernel, twoDays_provides, by rfl⟩

/-- `delay(close, 1)` settles. -/
theorem factor_expressions_settle_sample :
    Settles (evaluate lagGrammar integerNumerics 100 "delay(close, 1)" twoDays) := by
  have fits : (descend .stuck 100 fun below =>
      kindOf integerNumerics (fun id => (twoDays.field id).isSome) below lagTree) ≠
        .error .stuck := by
    rintro ⟨⟩
  exact ((factor_expressions_settle lagGrammar integerNumerics).1 100
    "delay(close, 1)" lagTree (by rfl) twoDays twoDays_provides).mpr fits

end RQuant.Factor
