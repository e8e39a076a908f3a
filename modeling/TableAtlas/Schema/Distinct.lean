/-!
# Distinct items

When several items have the same key, the first of them counts.  `distinctBy`
keeps the first item of each key in a list.  `SeenKeys` answers the same
question one item at a time: it accepts a key the first time only.
-/

namespace TableAtlas

/-- The items of a list without those whose key an earlier item has. -/
def distinctBy {α κ : Type} [DecidableEq κ] (key : α → κ) : List α → List α
  | [] => []
  | item :: rest =>
      item :: (distinctBy key rest).filter fun other => decide (key other ≠ key item)

/-- The keys that have been accepted so far. -/
structure SeenKeys (κ : Type) where
  keys : List κ
deriving Repr

namespace SeenKeys

variable {κ : Type} [DecidableEq κ]

/-- No key has been accepted yet. -/
def none : SeenKeys κ :=
  ⟨[]⟩

/-- Whether a key is new, and the keys accepted afterwards. -/
def accept (seen : SeenKeys κ) (key : κ) : Bool × SeenKeys κ :=
  if key ∈ seen.keys then (false, seen) else (true, ⟨key :: seen.keys⟩)

def answers (seen : SeenKeys κ) : List κ → List Bool
  | [] => []
  | key :: rest => (seen.accept key).1 :: (seen.accept key).2.answers rest

/-- The items whose key is new when it comes to them. -/
def select {α : Type} (key : α → κ) (seen : SeenKeys κ) : List α → List α
  | [] => []
  | item :: rest =>
      let kept := (seen.accept (key item)).2.select key rest
      if (seen.accept (key item)).1 then item :: kept else kept

end SeenKeys

end TableAtlas
