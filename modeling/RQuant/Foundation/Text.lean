import Mathlib

/-!
# Text

White space as `str.strip` sees it.  A text is blank when stripping it leaves
nothing; text with a visible character in it is never blank, whatever it is
joined to.
-/

namespace RQuant.Foundation

open List

/-- The characters `str.isspace` accepts. -/
def isSpace (character : Char) : Bool :=
  let code := character.toNat
  (9 ≤ code && code ≤ 13) || (28 ≤ code && code ≤ 32) || code = 0x85 ||
    code = 0xa0 || code = 0x1680 || (0x2000 ≤ code && code ≤ 0x200a) ||
    code = 0x2028 || code = 0x2029 || code = 0x202f || code = 0x205f ||
    code = 0x3000

def strip (text : String) : String :=
  String.ofList (((text.toList.dropWhile isSpace).reverse.dropWhile isSpace).reverse)

def Blank (text : String) : Prop := strip text = ""
deriving Decidable

/-- Text a contract field holds: stripped, and something is left. -/
def Stripped (text : String) : Prop := text ≠ "" ∧ strip text = text
deriving Decidable

theorem blank_iff_all_space {text : String} :
    Blank text ↔ ∀ character ∈ text.toList, isSpace character = true := by
  unfold Blank strip
  rw [← String.toList_inj, String.toList_ofList, String.toList_empty,
    reverse_eq_nil_iff, dropWhile_eq_nil_iff]
  constructor
  · intro restSpace character mem
    by_contra visible
    have kept : character ∈ text.toList.dropWhile isSpace := by
      rw [← takeWhile_append_dropWhile (p := isSpace) (l := text.toList),
        mem_append] at mem
      rcases mem with dropped | kept
      · exact absurd (mem_takeWhile_imp dropped) visible
      · exact kept
    exact visible (restSpace character (mem_reverse.mpr kept))
  · intro allSpace character mem
    exact allSpace character ((dropWhile_sublist isSpace).subset (mem_reverse.mp mem))

theorem not_blank_append_left {start rest : String} (visible : ¬ Blank start) :
    ¬ Blank (start ++ rest) := by
  rw [blank_iff_all_space] at visible ⊢
  intro allSpace
  apply visible
  intro character mem
  exact allSpace character (by
    rw [String.toList_append]
    exact mem_append_left _ mem)

section Separators

variable {α : Type} {separator : α} {left right leftRest rightRest : List α}

theorem append_separator_inj (leftPlain : separator ∉ left) (rightPlain : separator ∉ right)
    (joined : left ++ separator :: leftRest = right ++ separator :: rightRest) :
    left = right ∧ leftRest = rightRest := by
  induction left generalizing right with
  | nil =>
    cases right with
    | nil => exact ⟨rfl, (cons.inj joined).2⟩
    | cons head tail => exact absurd ((cons.inj joined).1 ▸ mem_cons_self) rightPlain
  | cons head tail ih =>
    cases right with
    | nil => exact absurd ((cons.inj joined).1 ▸ mem_cons_self) leftPlain
    | cons other rest =>
      obtain ⟨rfl, tails⟩ := cons.inj joined
      obtain ⟨rfl, rests⟩ := ih (fun mem => leftPlain (mem_cons_of_mem _ mem))
        (fun mem => rightPlain (mem_cons_of_mem _ mem)) tails
      exact ⟨rfl, rests⟩

theorem append_separator_inj_right
    (leftPlain : separator ∉ leftRest) (rightPlain : separator ∉ rightRest)
    (joined : left ++ separator :: leftRest = right ++ separator :: rightRest) :
    left = right ∧ leftRest = rightRest := by
  have reversed := congrArg reverse joined
  simp only [reverse_append, reverse_cons, append_assoc,
    singleton_append] at reversed
  obtain ⟨rests, parts⟩ := append_separator_inj (fun mem => leftPlain (mem_reverse.mp mem))
    (fun mem => rightPlain (mem_reverse.mp mem)) reversed
  exact ⟨reverse_injective parts, reverse_injective rests⟩

end Separators

end RQuant.Foundation
