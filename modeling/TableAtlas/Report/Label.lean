import TableAtlas.Schema.Basic

/-!
# Parts of reports

The plain text reports share the wording of counts, of the end of a relation,
and of the warnings at the end.
-/

namespace TableAtlas.Report

/-- A count with its noun in the singular or the plural. -/
def countLabel (count : Nat) (singular plural : String) : String :=
  toString count ++ " " ++ (if count = 1 then singular else plural)

/-- An entity, followed by a field of it if one is given. -/
def targetLabel (entity field : String) : String :=
  if field = "" then entity else entity ++ "." ++ field

def relationLine (relation : Relation) : String :=
  "  " ++ relation.sourceEntity ++ "." ++ relation.sourceField ++ " -> " ++
    targetLabel relation.targetEntity relation.targetField

/-- The section that lists relations; nothing if there are none. -/
def relationSection (relations : List Relation) : List String :=
  if relations.isEmpty then [] else "" :: "Relations:" :: relations.map relationLine

/-- The section that lists warnings; nothing if there are none. -/
def warningSection (warnings : List String) : List String :=
  if warnings.isEmpty then []
  else
    "" :: ("Warnings (" ++ toString warnings.length ++ "):") ::
      warnings.map fun warning => "  - " ++ warning

def ofLines (lines : List String) : String :=
  String.intercalate "\n" lines

end TableAtlas.Report
