import Conventions.Json.Basic

/-!
# Deep merge

Later values are laid over earlier ones: objects merge key by key, arrays below the
top are concatenated, and everything else is replaced.
-/

namespace Conventions.Json

mutual

/-- A later value laid over an earlier one that was found under the same key. -/
def mergeValue (earlier : Json) : Json → Json
  | .array items =>
    match earlier with
    | .array earlierItems => .array (earlierItems ++ items)
    | _ => .array items
  | .object fields =>
    match earlier with
    | .object earlierFields => .object (mergeFields earlierFields fields)
    | _ => .object fields
  | later => later

/-- Later fields laid over earlier ones. A known key keeps its place. -/
def mergeFields (earlier : Entries Json) : List (String × Json) → Entries Json
  | [] => earlier
  | (key, value) :: rest =>
    let merged := match Entries.find? key earlier with
      | some known => mergeValue known value
      | none => value
    mergeFields (Entries.insert key merged earlier) rest

end

/-- One step of the merge: two objects are merged, any other value is replaced, lists
included. -/
def mergeStep : Json → Json → Json
  | .object earlier, .object later => .object (mergeFields earlier later)
  | _, later => later

/-- The merge of values, from the first to the last. -/
def mergeAll (values : List Json) : Json := values.foldl mergeStep (.object [])

end Conventions.Json
