import TableAtlas.Schema.Basic

/-!
# Merging extensions

The fields of an extension also count as fields of the table it extends, if
that table lies in the project.  A field whose name the table already has, in
any case, is not added again.  Of several tables of the same name only the
first receives the fields, and the extensions themselves stay in the list.
-/

namespace TableAtlas

open TableAtlas.Text

namespace TableObject

/-- Whether an object is an extension of the table with the given name. -/
def extendsTable (object : TableObject) (name : String) : Bool :=
  object.isExtension && object.base != "" && sameName object.base name

end TableObject

/-- A list of fields with one more, unless its name is taken. -/
def addField (fields : List Field) (field : Field) : List Field :=
  if fields.any fun present => sameName present.name field.name then fields
  else fields ++ [field]

/-- A list of fields with those of another list added in order. -/
def addFields (fields additions : List Field) : List Field :=
  additions.foldl addField fields

@[simp] theorem addFields_nil (fields : List Field) : addFields fields [] = fields := rfl

@[simp] theorem addFields_cons (fields : List Field) (field : Field) (additions : List Field) :
    addFields fields (field :: additions) = addFields (addField fields field) additions := rfl

/-- The fields that the extensions in a list declare for the table of a name. -/
def contributedFields (objects : List TableObject) (name : String) : List Field :=
  (objects.filter (·.extendsTable name)).flatMap (·.fields)

/-- An object with the fields that the extensions in a list contribute to it. -/
def TableObject.withContributions (objects : List TableObject) (object : TableObject) :
    TableObject :=
  { object with fields := addFields object.fields (contributedFields objects object.name) }

/-- Merges the extensions in `objects` into the rest of the list, where the
tables with the lowercase names in `earlier` have already been passed. -/
def mergeAfter (objects : List TableObject) (earlier : List String) :
    List TableObject → List TableObject
  | [] => []
  | object :: rest =>
      if object.isTable then
        let name := lowercase object.name
        let merged :=
          if earlier.contains name then object else object.withContributions objects
        merged :: mergeAfter objects (name :: earlier) rest
      else
        object :: mergeAfter objects earlier rest

/-- The objects of a project with the fields of extensions added to their tables. -/
def mergeExtensions (objects : List TableObject) : List TableObject :=
  mergeAfter objects [] objects

end TableAtlas
