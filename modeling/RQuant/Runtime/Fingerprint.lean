import RQuant.Paper.CostIdentity

/-!
# Canonical values

`_canonical_value` turns a value into a JSON tree, whose digest identifies the
value.  The tree can be read back: all that is lost on the way are the digits of
a decimal that the context has no room for.
-/

namespace RQuant.Runtime

open Foundation List Paper

/-- A node without keys is a sequence; a mapping is given in the order of its
keys. -/
inductive Tree (α : Type)
  | leaf (value : α)
  | node (keys : Option (List String)) (items : List (Tree α))

/-- Replaces every leaf by a tree. -/
def Tree.graft {α β : Type} (replace : α → Tree β) : Tree α → Tree β
  | .leaf value => replace value
  | .node keys items => .node keys (items.map fun item => item.graft replace)

/-- The values that are their own encoding. -/
inductive Simple
  | none
  | bool (value : Bool)
  | int (value : ℤ)
  | str (text : String)

inductive Scalar
  | simple (value : Simple)
  | decimal (negative : Bool) (magnitude : Decimal)
  | datetime (utc offset : ℤ)
  | date (day : ℤ)

/-- What a scalar stands for: trailing zeros and offsets do not count. -/
inductive Meaning
  | simple (value : Simple)
  | number (value : ℚ)
  | instant (utc : ℤ)
  | day (date : ℤ)

def signed (negative : Bool) (magnitude : ℚ) : ℚ := if negative then -magnitude else magnitude

def Scalar.meaning : Scalar → Meaning
  | .simple value => .simple value
  | .decimal negative magnitude => .number (signed negative magnitude.toRat)
  | .datetime utc _ => .instant utc
  | .date day => .day day

def Tree.meaning (value : Tree Scalar) : Tree Meaning :=
  value.graft fun scalar => .leaf scalar.meaning

/-- The leaves of a JSON tree; the texts of numbers, instants and days by what
they are made of. -/
inductive Atom
  | simple (value : Simple)
  | digits (negative : Bool) (text : List ℕ × List ℕ)
  | instant (utc : ℤ)
  | day (date : ℤ)

/-- `Decimal.normalize` rounds to the 28 digits of the context, and to the last
place of a subnormal number, which is `Emin - 27`; the trailing zeros that it
removes do not show in the text. -/
def normalize (value : Decimal) : Decimal :=
  let digits := (Nat.digits 10 value.coefficient).length
  let excess := (max (value.exponent + digits - 28) (-999999 - 27) - value.exponent).toNat
  ⟨(roundHalfEven (value.coefficient / 10 ^ excess)).toNat, value.exponent + excess⟩

def tagged (tag : String) (atom : Atom) : Tree Atom := .node (some [tag]) [.leaf atom]

def Scalar.canonical : Scalar → Tree Atom
  | .simple value => .leaf (.simple value)
  | .decimal negative magnitude =>
    -- zero is written without a sign
    tagged "$decimal"
      (.digits (negative && magnitude.coefficient ≠ 0) (canonicalDecimal (normalize magnitude)))
  | .datetime utc _ => tagged "$datetime" (.instant utc)
  | .date day => tagged "$date" (.day day)

/-- The first digit is beyond `Emax`: `normalize` raises. -/
def Scalar.overflows : Scalar → Bool
  | .decimal _ magnitude =>
    let rounded := normalize magnitude
    magnitude.coefficient ≠ 0 ∧
      999999 < rounded.exponent + (Nat.digits 10 rounded.coefficient).length - 1
  | _ => false

def Tree.overflows : Tree Scalar → Bool
  | .leaf scalar => scalar.overflows
  | .node _ items => (items.map fun item => item.overflows).any id

/-- `_canonical_value` -/
def canonicalValue (value : Tree Scalar) : Option (Tree Atom) :=
  if value.overflows then none else some (value.graft Scalar.canonical)

def Scalar.Exact : Scalar → Prop
  | .decimal _ magnitude => (normalize magnitude).toRat = magnitude.toRat
  | _ => True

/-- No key starts with `$`, and no decimal is rounded. -/
def Plain : Tree Scalar → Prop
  | .leaf scalar => scalar.Exact
  | .node keys items =>
    (∀ names ∈ keys, ∀ name ∈ names, name.toList.head? ≠ some '$') ∧ ∀ item ∈ items, Plain item

def Atom.meaning : Atom → Meaning
  | .simple value => .simple value
  | .digits negative text => .number (signed negative (writtenValue text))
  | .instant utc => .instant utc
  | .day date => .day date

/-- Reads a JSON tree back: an object whose only key is a tag is a scalar. -/
def readBack : Tree Atom → Tree Meaning
  | .leaf atom => .leaf atom.meaning
  | .node (some ["$decimal"]) [.leaf atom] => .leaf atom.meaning
  | .node (some ["$datetime"]) [.leaf atom] => .leaf atom.meaning
  | .node (some ["$date"]) [.leaf atom] => .leaf atom.meaning
  | .node keys items => .node keys (items.map fun item => readBack item)

theorem readBack_canonical {scalar : Scalar} (exact : scalar.Exact) :
    readBack scalar.canonical = .leaf scalar.meaning := by
  cases scalar with
  | simple | datetime | date => simp [Scalar.canonical, tagged, readBack]; rfl
  | decimal negative magnitude =>
    simp only [Scalar.canonical, tagged, readBack, Atom.meaning,
      writtenValue_canonicalDecimal, Scalar.meaning]
    rw [show (normalize magnitude).toRat = magnitude.toRat from exact]
    by_cases zero : magnitude.coefficient = 0
    · simp [signed, Decimal.toRat, zero]
    · simp [zero]

theorem readBack_graft_canonical {value : Tree Scalar} (plain : Plain value) :
    readBack (value.graft Scalar.canonical) = value.meaning := by
  unfold Tree.meaning
  induction value using Tree.graft.induct with
  | case1 scalar =>
    rw [Plain] at plain
    rw [Tree.graft, Tree.graft, readBack_canonical plain]
  | case2 keys items ih =>
    rw [Plain] at plain
    obtain ⟨untagged, plainItems⟩ := plain
    have noTag (tag : String) (dollar : tag.toList.head? = some '$') : keys ≠ some [tag] := by
      rintro rfl
      exact untagged _ rfl tag (by simp) dollar
    rw [Tree.graft, Tree.graft, readBack, map_map]
    · exact congrArg _ (map_congr_left fun item mem => ih item mem (plainItems item mem))
    · exact fun _ same _ => noTag _ (by decide) same
    · exact fun _ same _ => noTag _ (by decide) same
    · exact fun _ same _ => noTag _ (by decide) same

theorem canonicalValue_eq_some : canonicalValue value = some tree ↔
    value.overflows = false ∧ value.graft Scalar.canonical = tree := by
  simp [canonicalValue]

/-- Plain values with the same JSON tree are equal, up to trailing zeros and
offsets. -/
theorem canonicalValue_separates {left right : Tree Scalar} {tree : Tree Atom}
    (leftPlain : Plain left) (rightPlain : Plain right) (encoded : canonicalValue left = some tree)
    (same : canonicalValue right = some tree) : left.meaning = right.meaning := by
  rw [← readBack_graft_canonical leftPlain, ← readBack_graft_canonical rightPlain,
    (canonicalValue_eq_some.mp encoded).2, (canonicalValue_eq_some.mp same).2]

def sampleQuote (price : Decimal) (offset : ℤ) : Tree Scalar :=
  .node (some ["at", "prices"])
    [.leaf (.datetime 0 offset), .node none [.leaf (.decimal true price)]]

/-- A price and an instant, each written in two ways. -/
theorem canonicalValue_separates_sample :
    (sampleQuote ⟨150, -2⟩ 0).meaning = (sampleQuote ⟨15, -1⟩ 3600).meaning := by
  have text : canonicalDecimal (normalize ⟨150, -2⟩) = canonicalDecimal (normalize ⟨15, -1⟩) := by
    decide +kernel
  have long : (normalize ⟨150, -2⟩).toRat = Decimal.toRat ⟨150, -2⟩ := by decide +kernel
  have short : (normalize ⟨15, -1⟩).toRat = Decimal.toRat ⟨15, -1⟩ := by decide +kernel
  have bounded : ∀ scalar ∈ [Scalar.datetime 0 0, .datetime 0 3600, .decimal true ⟨150, -2⟩,
      .decimal true ⟨15, -1⟩], scalar.overflows = false := by decide +kernel
  refine canonicalValue_separates ?_ ?_ (canonicalValue_eq_some.mpr ⟨?_, rfl⟩)
    (canonicalValue_eq_some.mpr ⟨?_, ?_⟩)
  · simp [sampleQuote, Plain, Scalar.Exact, long]
  · simp [sampleQuote, Plain, Scalar.Exact, short]
  · simp [sampleQuote, Tree.overflows, bounded]
  · simp [sampleQuote, Tree.overflows, bounded]
  · simp [sampleQuote, Tree.graft, Scalar.canonical, text]

def amount (magnitude : Decimal) : Tree Scalar := .leaf (.decimal false magnitude)

/-- 1 and 1.000000000000000000000000000001 have the same tree. -/
theorem rounded_decimals_collide :
    canonicalValue (amount ⟨1, 0⟩) = canonicalValue (amount ⟨10 ^ 30 + 1, -30⟩) ∧
      (canonicalValue (amount ⟨1, 0⟩)).isSome ∧
      (amount ⟨1, 0⟩).meaning ≠ (amount ⟨10 ^ 30 + 1, -30⟩).meaning := by
  have same : canonicalDecimal (normalize ⟨1, 0⟩) =
      canonicalDecimal (normalize ⟨10 ^ 30 + 1, -30⟩) := by decide +kernel
  have bounded : Scalar.overflows (.decimal false ⟨1, 0⟩) = false ∧
      Scalar.overflows (.decimal false ⟨10 ^ 30 + 1, -30⟩) = false := by decide +kernel
  simp only [canonicalValue, amount, Tree.overflows, bounded, Tree.graft, Scalar.canonical, same]
  refine ⟨by simp, by simp, ?_⟩
  simp [Tree.meaning, Tree.graft, Scalar.meaning, signed, Decimal.toRat]
  norm_num

end RQuant.Runtime
