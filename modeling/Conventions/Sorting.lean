/-!
# Orders and sorting

An order is a function that tells whether one thing comes before another. Lists and texts
are ordered by their first difference. The sort is a stable merge sort by recursion on the
length of a list, which can be computed by unfolding its definition.
-/

namespace Conventions

variable {α β : Type}

/-- Whether a list comes before another one: by the first items that differ, or because the
other one goes on where it ends. -/
def listBefore [DecidableEq α] (before : α → α → Bool) : List α → List α → Bool
  | [], [] => false
  | [], _ :: _ => true
  | _ :: _, [] => false
  | a :: as, b :: bs => if a = b then listBefore before as bs else before a b

/-- Whether a pair comes before another one: by the first parts, or by the second ones if
the first ones are the same. -/
def pairBefore [DecidableEq α] (before : α → α → Bool) (before' : β → β → Bool)
    (a b : α × β) : Bool :=
  if a.1 = b.1 then before' a.2 b.2 else before a.1 b.1

/-- Whether a text comes before another one, by the numbers of their characters. -/
def textBefore (a b : String) : Bool :=
  listBefore (fun a b : Char => decide (a.toNat < b.toNat)) a.toList b.toList

/-- Merges two lists. An item of the first one goes first if it may stand before the one
of the second. -/
def mergeBy (le : α → α → Bool) : List α → List α → List α
  | [], others => others
  | items, [] => items
  | a :: items, b :: others =>
    if le a b then a :: mergeBy le items (b :: others) else b :: mergeBy le (a :: items) others
  termination_by items others => items.length + others.length

/-- Sorts a list. Items of which each may stand before the other keep their order. -/
def sortBy (le : α → α → Bool) : List α → List α
  | [] => []
  | [item] => [item]
  | first :: second :: rest =>
    let items := first :: second :: rest
    let half := (items.length + 1) / 2
    mergeBy le (sortBy le (items.take half)) (sortBy le (items.drop half))
  termination_by items => items.length
  decreasing_by all_goals simp +zetaDelta [List.length_take, List.length_drop]; omega

end Conventions
