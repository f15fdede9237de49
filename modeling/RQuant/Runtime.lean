import Mathlib

/-!
# Runtime values

A SHA-256 digest is written as 64 lowercase hexadecimal digits, so it is a
number below `2 ^ 256` and the text order of digests is the numeric one.  An
instant is its number of microseconds in UTC, and a civil date its day number.
-/

namespace RQuant

abbrev Digest := Fin (2 ^ 256)

-- Named once, so that every module finds the same two instances.
instance digestNeZero : NeZero (2 ^ 256) := ⟨by positivity⟩

instance digestLawfulBEq : LawfulBEq Digest := inferInstance

/-- The 64 hexadecimal digits of a digest, as error texts show it. -/
def hex (digest : Digest) : String :=
  let digits := Nat.toDigits 16 digest.val
  String.ofList (List.replicate (64 - digits.length) '0' ++ digits)

def hexValue (digit : Char) : ℕ :=
  if digit.toNat < 58 then digit.toNat - 48 else digit.toNat - 87

def fromHex (digits : List Char) : ℕ :=
  digits.foldl (fun value digit => 16 * value + hexValue digit) 0

theorem hexValue_digitChar : ∀ digit < 16, hexValue (Nat.digitChar digit) = digit := by
  decide

theorem fromHex_toDigits (number : ℕ) : fromHex (Nat.toDigits 16 number) = number := by
  induction number using Nat.strong_induction_on with
  | _ number ih =>
    by_cases small : number < 16
    · rw [Nat.toDigits_of_lt_base small]
      simpa [fromHex] using hexValue_digitChar number small
    · have smaller : number / 16 < number := by omega
      have digit := hexValue_digitChar (number % 16) (Nat.mod_lt _ (by decide))
      have rest := ih _ smaller
      unfold fromHex at rest ⊢
      rw [Nat.toDigits_of_base_le (by decide) (not_lt.mp small),
        List.foldl_append, rest, List.foldl_cons, List.foldl_nil, digit]
      exact Nat.div_add_mod number 16

theorem fromHex_replicate (count : ℕ) (digits : List Char) :
    fromHex (List.replicate count '0' ++ digits) = fromHex digits := by
  induction count with
  | zero => rfl
  | succ count ih => exact ih

theorem hex_injective : Function.Injective hex := by
  intro _ _ same
  unfold hex at same
  have digits := congrArg fromHex (String.ofList_injective same)
  rw [fromHex_replicate, fromHex_replicate, fromHex_toDigits, fromHex_toDigits] at digits
  exact Fin.val_injective digits

abbrev Time := ℤ

abbrev Date := ℤ

/-- The civil calendar of Asia/Shanghai.  The offsets come from the time zone
database; the calendar only promises that dates do not run backwards. -/
structure Calendar where
  shanghaiDate : Time → Date
  shanghaiDate_mono : Monotone shanghaiDate

/-- China Standard Time has been eight hours ahead of UTC since 1991. -/
def Calendar.standard : Calendar where
  shanghaiDate time := (time + 28800000000) / 86400000000
  shanghaiDate_mono := by
    intro earlier later ordered
    exact Int.ediv_le_ediv (by decide) (Int.add_le_add_right ordered _)

/-- The last instant of UTC with a time in Shanghai, in microseconds. -/
def lastShanghaiTime : Time := 253402271999999999

end RQuant
