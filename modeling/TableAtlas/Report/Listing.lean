import TableAtlas.Report.Label

/-!
# Listings

The plain text report of a schema lists its objects and relations.
-/

namespace TableAtlas.Report

def objectLine (object : TableObject) : String :=
  "  " ++ object.kind.keyword ++ " " ++ toString object.id ++ " " ++ object.name ++
    (if object.isExtension ∧ object.base ≠ "" then " extends " ++ object.base else "") ++
    " (" ++ countLabel object.fields.length "field" "fields" ++ ", " ++
    countLabel object.keys.length "key" "keys" ++ ") [" ++ object.file ++ "]"

/-- The line that names the project and counts what its schema holds. -/
def projectLine (schema : Schema) : String :=
  "Project: " ++ schema.project.name ++ " (" ++
    countLabel schema.tableCount "table" "tables" ++ ", " ++
    countLabel schema.extensionCount "extension" "extensions" ++ ", " ++
    countLabel schema.relationCount "relation" "relations" ++ ")"

def listing (schema : Schema) : String :=
  ofLines
    (projectLine schema :: "" ::
      (if schema.objects.isEmpty then ["No objects found."]
        else "Objects:" :: schema.objects.map objectLine) ++
      relationSection schema.relations ++ warningSection schema.warnings)

end TableAtlas.Report
