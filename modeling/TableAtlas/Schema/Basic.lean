import TableAtlas.Text.Lowercase

/-!
# Table schemas

A project declares tables and table extensions.  Each declares fields and keys,
and a field may relate to a field of another table.  Names are compared by
their lowercase forms throughout.
-/

namespace TableAtlas

open TableAtlas.Text

/-- How a field gets its value.  Only normal fields are stored. -/
inductive FieldClass where
  | normal
  | flowField
  | flowFilter
deriving DecidableEq, Repr

/-- A field of a table.  A field without a declared caption has its name as
caption; `relation` is the relation expression as declared, empty if there is
none, and `relatedEntity` and `relatedField` are what it refers to. -/
structure Field where
  id : Nat
  name : String
  type : String
  caption : String
  fieldClass : FieldClass
  relation : String
  isPrimaryKey : Bool
  isForeignKey : Bool
  relatedEntity : String
  relatedField : String
deriving DecidableEq, Repr

/-- A key of a table: an ordered list of field names. -/
structure Key where
  name : String
  fields : List String
  isPrimaryKey : Bool
deriving DecidableEq, Repr

/-- The two kinds of declarations that carry fields. -/
inductive ObjectKind where
  | table
  | tableExtension
deriving DecidableEq, Repr

namespace ObjectKind

def keyword : ObjectKind → String
  | table => "table"
  | tableExtension => "tableextension"

end ObjectKind

/-- A declared table or table extension; `base` is the name of the extended
table, which may lie outside the project. -/
structure TableObject where
  id : Nat
  name : String
  caption : String
  kind : ObjectKind
  base : String
  fields : List Field
  keys : List Key
  file : String
deriving DecidableEq, Repr

namespace TableObject

def isTable (object : TableObject) : Bool :=
  object.kind = .table

def isExtension (object : TableObject) : Bool :=
  object.kind = .tableExtension

/-- The entity that the object contributes to: the extended table for an
extension that names one, the object itself otherwise. -/
def entityName (object : TableObject) : String :=
  if object.isExtension ∧ object.base ≠ "" then object.base else object.name

theorem isTable_of_isExtension {object : TableObject} (isExtension : object.isExtension = true) :
    object.isTable = false := by
  have kind : object.kind = .tableExtension := of_decide_eq_true isExtension
  simp [isTable, kind]

theorem isExtension_of_not_isTable {object : TableObject} (notTable : ¬object.isTable = true) :
    object.isExtension = true := by
  cases kind : object.kind with
  | table => simp [isTable, kind] at notTable
  | tableExtension => simp [isExtension, kind]

theorem entityName_of_isTable {object : TableObject} (isTable : object.isTable = true) :
    object.entityName = object.name := by
  have kind : object.kind = .table := of_decide_eq_true isTable
  simp [entityName, isExtension, kind]

theorem entityName_of_base {object : TableObject} (isExtension : object.isExtension = true)
    (named : object.base ≠ "") : object.entityName = object.base := by
  rw [entityName, if_pos ⟨isExtension, named⟩]

/-- The first key marked as primary. -/
def primaryKey? (object : TableObject) : Option Key :=
  object.keys.find? (·.isPrimaryKey)

/-- Whether the object has a field of the given name. -/
def hasField (object : TableObject) (name : String) : Bool :=
  object.fields.any fun field => sameName field.name name

end TableObject

/-- A reference from a field of one entity to another entity, and to a field of
it if one is named. -/
structure Relation where
  sourceEntity : String
  sourceField : String
  targetEntity : String
  targetField : String
deriving DecidableEq, Repr

/-- What the project says about itself. -/
structure ProjectInfo where
  name : String
  publisher : Option String
  version : Option String
deriving DecidableEq, Repr

/-- The project whose manifest does not name it. -/
def ProjectInfo.unnamed : ProjectInfo :=
  ⟨"AL Project", none, none⟩

/-- The schema of a project: its objects, the relations between its entities,
and the warnings that arose while it was read. -/
structure Schema where
  project : ProjectInfo
  objects : List TableObject
  relations : List Relation
  warnings : List String
deriving DecidableEq, Repr

namespace Schema

/-- The schema of a project of which nothing has been read. -/
def empty : Schema :=
  ⟨.unnamed, [], [], []⟩

def tableCount (schema : Schema) : Nat :=
  schema.objects.countP (·.isTable)

def extensionCount (schema : Schema) : Nat :=
  schema.objects.countP (·.isExtension)

def relationCount (schema : Schema) : Nat :=
  schema.relations.length

end Schema

end TableAtlas
