import Conventions.Sorting

/-!
# Entries in insertion order

Keyed entries that remember the order in which their keys were first added. A
second value under a known key takes the place of the first one.
-/

namespace Conventions

/-- A list of keys with their values. -/
abbrev Entries (α : Type) := List (String × α)

namespace Entries

variable {α : Type}

/-- The value under a key. -/
def find? (key : String) : Entries α → Option α
  | [] => none
  | (k, v) :: rest => if k = key then some v else find? key rest

/-- Puts a value under a key: in place if the key is there, at the end otherwise. -/
def insert (key : String) (value : α) : Entries α → Entries α
  | [] => [(key, value)]
  | (k, v) :: rest =>
    if k = key then (key, value) :: rest else (k, v) :: insert key value rest

/-- Changes the value under a key, if there is one. -/
def modify (key : String) (change : α → α) : Entries α → Entries α
  | [] => []
  | (k, v) :: rest =>
    if k = key then (k, change v) :: rest else (k, v) :: modify key change rest

/-- The keys, in order. -/
def keys (entries : Entries α) : List String := entries.map (·.1)

/-- Whether there is a value under a key. -/
def contains (key : String) (entries : Entries α) : Bool := (entries.find? key).isSome

/-- The entries of a list of pairs in which a key may occur more than once. -/
def ofPairs (pairs : List (String × α)) : Entries α :=
  pairs.foldl (fun entries pair => insert pair.1 pair.2 entries) []

/-- Puts a value under a key into entries that ascend by key. -/
def insertSorted (key : String) (value : α) : Entries α → Entries α
  | [] => [(key, value)]
  | (k, v) :: rest =>
    if textBefore key k then (key, value) :: (k, v) :: rest
    else if k = key then (key, value) :: rest
    else (k, v) :: insertSorted key value rest

/-- The entries of a list of pairs, ascending by key, the last value of a key winning. -/
def sorted (pairs : List (String × α)) : Entries α :=
  pairs.foldl (fun entries pair => insertSorted pair.1 pair.2 entries) []

end Entries

end Conventions
