import TableAtlas.Schema.Basic
import TableAtlas.Schema.Distinct

/-!
# Diagrams

The diagram of a schema shows its entities and the relations between them.  An
entity is a table, or a table outside the project that some extension extends;
of several objects with the same entity name the first is shown, tables before
extensions.  A relation is shown once, and only if both its ends are entities
of the diagram.
-/

namespace TableAtlas

open TableAtlas.Text

/-- A field as a diagram shows it. -/
structure DiagramField where
  name : String
  caption : String
  type : String
  isPrimaryKey : Bool
  isForeignKey : Bool
deriving DecidableEq, Repr

/-- An entity of a diagram. -/
structure DiagramEntity where
  name : String
  caption : String
  fields : List DiagramField
deriving DecidableEq, Repr

/-- The entities of a schema and the relations between them. -/
structure Diagram where
  entities : List DiagramEntity
  relations : List Relation
deriving DecidableEq, Repr

/-- A field as a diagram shows it; without a caption it shows its name. -/
def Field.toDiagram (field : Field) : DiagramField :=
  { name := field.name
    caption := if field.caption = "" then field.name else field.caption
    type := field.type
    isPrimaryKey := field.isPrimaryKey
    isForeignKey := field.isForeignKey }

def TableObject.toEntity (object : TableObject) : DiagramEntity :=
  { name := object.entityName
    caption := if object.caption = "" then object.entityName else object.caption
    fields := object.fields.map Field.toDiagram }

def Schema.tableNames (schema : Schema) : List String :=
  (schema.objects.filter (·.isTable)).map fun object => lowercase object.name

/-- The objects that may be shown as entities: all tables, then the extensions
of tables outside the project. -/
def Schema.candidates (schema : Schema) : List TableObject :=
  let tableNames := schema.tableNames
  schema.objects.filter (·.isTable) ++
    schema.objects.filter fun object =>
      object.isExtension && !tableNames.contains (lowercase object.base)

/-- What tells relations of a diagram apart: the lowercase names of both
entities and the referring field. -/
def Relation.diagramKey (relation : Relation) : String × String × String :=
  (lowercase relation.sourceEntity, lowercase relation.targetEntity, relation.sourceField)

namespace Diagram

/-- The entity of a name, in any case. -/
def entity? (diagram : Diagram) (name : String) : Option DiagramEntity :=
  let sought := lowercase name
  diagram.entities.find? fun entity => lowercase entity.name == sought

def ofSchema (schema : Schema) : Diagram :=
  let shown := distinctBy (fun object => lowercase object.entityName) schema.candidates
  let entities := shown.map (·.toEntity)
  let known := entities.map fun entity => lowercase entity.name
  let connected := schema.relations.filter fun relation =>
    known.contains (lowercase relation.sourceEntity) &&
      known.contains (lowercase relation.targetEntity)
  ⟨entities, distinctBy Relation.diagramKey connected⟩

end Diagram

end TableAtlas
