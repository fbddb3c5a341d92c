import StrategyHost.Json.Basic

/-! # Pointers

A pointer leads from a document to one of its parts by the keys and the places on the way. `Json.setAt` puts a value
there. -/

namespace StrategyHost.Json

/-- The steps of a pointer: each follows a slash, and stands with its tildes and slashes escaped. -/
def pointerSteps (pointer : String) : List String :=
  ((pointer.splitOn "/").drop 1).map fun t => (t.replace "~1" "/").replace "~0" "~"

/-- Puts a value where steps lead. A key that is missing is made; a place that is missing leaves the document as it
is. -/
def setSteps (value : Json) : List String → Json → Json
  | [], _ => value
  | step :: rest, .obj fields =>
    let old := (fields.lookup step).getD (.obj [])
    .obj (insertField step (setSteps value rest old) (sortFields fields))
  | step :: rest, .arr items =>
    match step.toNat? with
    | some i => .arr (items.modify i (setSteps value rest))
    | none => .arr items
  | _, v => v

def setAt (pointer : String) (value : Json) (doc : Json) : Json := setSteps value (pointerSteps pointer) doc

end StrategyHost.Json
