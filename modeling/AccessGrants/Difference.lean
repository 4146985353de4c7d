import AccessGrants.Distinct
import AccessGrants.Text.Basic

/-!
# Differences of grant lists

Desired and observed grants are compared as sets; what changes is listed in order.

* `Difference.minus` is what one list has and another lacks.
* `Difference.sameElements` compares two lists as sets.
* `Difference.between` is what to add and what to remove to turn the observed into the desired.
-/

namespace AccessGrants

/-- What to add and what to remove; `equal` when there is nothing to do. -/
structure Difference (α : Type) where
  equal : Bool
  toAdd : List α
  toRemove : List α
  deriving DecidableEq

namespace Difference

variable {α : Type} [DecidableEq α]

/-- The elements of `left` that `right` lacks, in order of first occurrence. -/
def minus (left right : List α) : List α :=
  (distinct left).filter fun a => a ∉ right

@[simp] theorem mem_minus {a : α} {left right : List α} :
    a ∈ minus left right ↔ a ∈ left ∧ a ∉ right := by
  simp [minus]

/-- Two lists have the same elements. -/
def sameElements (left right : List α) : Bool :=
  left.all (· ∈ right) && right.all (· ∈ left)

/-- The difference between what should be and what is. -/
def between (desired observed : List α) : Difference α :=
  if sameElements desired observed then ⟨true, [], []⟩
  else ⟨false, minus desired observed, minus observed desired⟩

/-- A difference in a message: how many to add and to remove. -/
def display (d : Difference α) : Text :=
  if d.equal then "No changes".toList
  else '+' :: (toString d.toAdd.length).toList ++ " -".toList ++
    (toString d.toRemove.length).toList

end Difference

end AccessGrants
