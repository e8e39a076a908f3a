import TableAtlas.Text.Lowercase
import TableAtlas.Text.Substring

/-!
# Cue tables

A cue table holds the counters that a role center shows.  It carries no data of
the project, so it is left out of the schema.  Cue tables are told by name.
-/

namespace TableAtlas

open TableAtlas.Text

/-- Whether a name in lowercase is that of a cue table. -/
def isLowercaseCueName (name : List Char) : Bool :=
  ['c', 'u', 'e'].isSuffixOf name || ['c', 'u', 'e', 's'].isSuffixOf name ||
    occursIn [' ', 'c', 'u', 'e', ' '] name

/-- Whether a name is that of a cue table: its last word ends in `cue` or
`cues`, or `cue` is one of its inner words. -/
def isCueName (name : String) : Bool :=
  isLowercaseCueName (lowercase name).toList

theorem isCueName_eq_of_lowercase_eq {left right : String}
    (same : lowercase left = lowercase right) : isCueName left = isCueName right := by
  rw [isCueName, isCueName, same]

end TableAtlas
