import TableAtlas.Diagram.Basic
import TableAtlas.Encoding.Json
import TableAtlas.Schema.Description

/-!
# Schemas as JSON

The members that each part of a schema has in a JSON document, in the order in
which they are written.
-/

namespace TableAtlas

def FieldClass.name : FieldClass → String
  | normal => "Normal"
  | flowField => "FlowField"
  | flowFilter => "FlowFilter"

def Field.toJson (field : Field) : Json :=
  .object
    [("id", .number field.id), ("name", .string field.name), ("type", .string field.type),
      ("caption", .string field.caption), ("class", .string field.fieldClass.name),
      ("relation", .string field.relation), ("is_primary_key", .bool field.isPrimaryKey),
      ("is_foreign_key", .bool field.isForeignKey),
      ("related_entity", .string field.relatedEntity),
      ("related_field", .string field.relatedField)]

def Key.toJson (key : Key) : Json :=
  .object
    [("name", .string key.name), ("fields", .strings key.fields),
      ("is_primary_key", .bool key.isPrimaryKey)]

def TableObject.toJson (object : TableObject) : Json :=
  .object
    [("id", .number object.id), ("name", .string object.name),
      ("caption", .string object.caption), ("kind", .string object.kind.keyword),
      ("extends", .string object.base), ("fields", .array (object.fields.map Field.toJson)),
      ("keys", .array (object.keys.map Key.toJson)), ("file", .string object.file)]

def Relation.toJson (relation : Relation) : Json :=
  .object
    [("source_entity", .string relation.sourceEntity),
      ("source_field", .string relation.sourceField),
      ("target_entity", .string relation.targetEntity),
      ("target_field", .string relation.targetField)]

/-- A member that is left out when it has no value. -/
def optionalMember (name : String) : Option String → List (String × Json)
  | none => []
  | some value => [(name, .string value)]

def ProjectInfo.toJson (project : ProjectInfo) : Json :=
  .object
    (("name", .string project.name) :: optionalMember "publisher" project.publisher ++
      optionalMember "version" project.version)

def Schema.toJson (schema : Schema) : Json :=
  .object
    [("project", schema.project.toJson),
      ("objects", .array (schema.objects.map TableObject.toJson)),
      ("relations", .array (schema.relations.map Relation.toJson)),
      ("errors", .strings schema.warnings)]

def DiagramField.toJson (field : DiagramField) : Json :=
  .object
    [("name", .string field.name), ("caption", .string field.caption),
      ("type", .string field.type), ("isPrimaryKey", .bool field.isPrimaryKey),
      ("isForeignKey", .bool field.isForeignKey)]

def DiagramEntity.toJson (entity : DiagramEntity) : Json :=
  .object
    [("name", .string entity.name), ("caption", .string entity.caption),
      ("fields", .array (entity.fields.map DiagramField.toJson))]

def Relation.toDiagramJson (relation : Relation) : Json :=
  .object
    [("sourceEntity", .string relation.sourceEntity),
      ("sourceField", .string relation.sourceField),
      ("targetEntity", .string relation.targetEntity),
      ("targetField", .string relation.targetField)]

def Diagram.toJson (diagram : Diagram) : Json :=
  .object
    [("entities", .array (diagram.entities.map DiagramEntity.toJson)),
      ("relations", .array (diagram.relations.map Relation.toDiagramJson))]

def Description.toJson (description : Description) : Json :=
  .object
    [("table", description.table.toJson), ("extended_by", .strings description.extendedBy),
      ("references", .array (description.references.map Relation.toJson)),
      ("referenced_by", .array (description.referencedBy.map Relation.toJson))]

end TableAtlas
