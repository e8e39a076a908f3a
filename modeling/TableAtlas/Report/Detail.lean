import TableAtlas.Report.Label
import TableAtlas.Schema.Description

/-!
# Detail reports

The plain text report of a description shows one object with its fields and
keys, and the relations that start at its entity or lead to it.
-/

namespace TableAtlas.Report

def headLine (table : TableObject) : String :=
  if table.isExtension then
    "Table extension " ++ toString table.id ++ " " ++ table.name ++ " extends " ++ table.base ++
      " [" ++ table.file ++ "]"
  else
    "Table " ++ toString table.id ++ " " ++ table.name ++ " [" ++ table.file ++ "]"

def keyFlags (field : Field) : List String :=
  (if field.isPrimaryKey then ["PK"] else []) ++
    (if field.isForeignKey then
      ["FK -> " ++ targetLabel field.relatedEntity field.relatedField]
    else [])

def detailFieldLine (field : Field) : String :=
  "  " ++ toString field.id ++ " " ++ field.name ++ ": " ++ field.type ++
    (if field.caption = "" ∨ field.caption = field.name then ""
      else " \"" ++ field.caption ++ "\"") ++
    (if (keyFlags field).isEmpty then ""
      else " (" ++ String.intercalate ", " (keyFlags field) ++ ")")

def keyLine (key : Key) : String :=
  "  " ++ key.name ++ ": " ++ String.intercalate ", " key.fields ++
    (if key.isPrimaryKey then " (primary)" else "")

/-- A section with a counted title; nothing if it has no lines. -/
def countedSection (title : String) (lines : List String) : List String :=
  if lines.isEmpty then []
  else "" :: (title ++ " (" ++ toString lines.length ++ "):") :: lines

def detail (description : Description) : String :=
  let table := description.table
  ofLines
    (headLine table ::
      (if table.caption = "" ∨ table.caption = table.name then []
        else ["Caption: " ++ table.caption]) ++
      (if description.extendedBy.isEmpty then []
        else ["Extended by: " ++ String.intercalate ", " description.extendedBy]) ++
      (if table.fields.isEmpty then ["", "No fields."]
        else countedSection "Fields" (table.fields.map detailFieldLine)) ++
      countedSection "Keys" (table.keys.map keyLine) ++
      countedSection "References"
        (description.references.map fun relation =>
          "  " ++ relation.sourceField ++ " -> " ++
            targetLabel relation.targetEntity relation.targetField) ++
      countedSection "Referenced by"
        (description.referencedBy.map fun relation =>
          "  " ++ relation.sourceEntity ++ "." ++ relation.sourceField))

end TableAtlas.Report
