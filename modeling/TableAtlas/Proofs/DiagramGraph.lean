import Mathlib.Data.List.Forall2
import TableAtlas.Diagram.Basic
import TableAtlas.Proofs.DistinctItems

/-!
# The graph of a diagram

An entity of a diagram shows an object of the schema with all its fields.  What
a diagram shows can be told by the lowercase names of its entities and by the
keys of its edges.  Every object of the schema stands for an entity, except an
extension that names no table where there is a table without a name; and every
relation of the schema between two entities is an edge, up to its key.
-/

namespace TableAtlas

open TableAtlas.Text

/-! ## What an entity shows of an object -/

/-- Whether a field of a diagram shows a field: with its type and flags, and with its
name in place of a missing caption. -/
structure DiagramField.Shows (shown : DiagramField) (field : Field) : Prop where
  name : shown.name = field.name
  caption : field.caption ≠ "" → shown.caption = field.caption
  noCaption : field.caption = "" → shown.caption = field.name
  type : shown.type = field.type
  isPrimaryKey : shown.isPrimaryKey = field.isPrimaryKey
  isForeignKey : shown.isForeignKey = field.isForeignKey

theorem DiagramField.shows_iff {shown : DiagramField} {field : Field} :
    shown.Shows field ↔ shown = field.toDiagram := by
  constructor
  · rintro ⟨name, caption, noCaption, type, isPrimaryKey, isForeignKey⟩
    have caption : shown.caption = field.toDiagram.caption := by
      rw [Field.toDiagram]
      split
      · exact noCaption ‹_›
      · exact caption ‹_›
    cases shown
    simp_all [Field.toDiagram]
  · rintro rfl
    exact ⟨rfl, fun caption => if_neg caption, fun noCaption => if_pos noCaption, rfl, rfl, rfl⟩

/-- Whether an entity of a diagram shows an object: under the name of the entity that the
object contributes to, which stands in place of a missing caption, and with all fields of
the object in their order. -/
structure DiagramEntity.Shows (entity : DiagramEntity) (object : TableObject) : Prop where
  name : entity.name = object.entityName
  caption : object.caption ≠ "" → entity.caption = object.caption
  noCaption : object.caption = "" → entity.caption = object.entityName
  fields : List.Forall₂ DiagramField.Shows entity.fields object.fields

/-- An entity shows an object exactly if it is what the diagram makes of it. -/
theorem DiagramEntity.shows_iff {entity : DiagramEntity} {object : TableObject} :
    entity.Shows object ↔ entity = object.toEntity := by
  have eachField : List.Forall₂ DiagramField.Shows entity.fields object.fields ↔
      entity.fields = object.fields.map Field.toDiagram := by
    rw [← List.forall₂_eq_eq_eq, List.forall₂_map_right_iff]
    simp only [← DiagramField.shows_iff]
  constructor
  · rintro ⟨name, caption, noCaption, fields⟩
    have caption : entity.caption = object.toEntity.caption := by
      rw [TableObject.toEntity]
      split
      · exact noCaption ‹_›
      · exact caption ‹_›
    have fields := eachField.mp fields
    cases entity
    simp_all [TableObject.toEntity]
  · rintro rfl
    exact ⟨rfl, fun caption => if_neg caption, fun noCaption => if_pos noCaption,
      eachField.mpr rfl⟩

namespace Schema

variable {schema : Schema} {name : String}

theorem mem_tableNames :
    name ∈ schema.tableNames ↔
      ∃ table ∈ schema.objects, table.isTable = true ∧ lowercase table.name = name := by
  simp [tableNames, and_assoc]

theorem mem_candidates {object : TableObject} :
    object ∈ schema.candidates ↔
      object ∈ schema.objects ∧ (object.isTable = true ∨
        object.isExtension = true ∧ lowercase object.base ∉ schema.tableNames) := by
  simp [candidates, and_or_left]

theorem mem_of_mem_candidates {object : TableObject} (member : object ∈ schema.candidates) :
    object ∈ schema.objects :=
  (mem_candidates.mp member).1

/-- A search by entity name finds the first table of that name, or else the first
extension of an outside table. -/
theorem find?_candidates (schema : Schema) (sought : String) :
    schema.candidates.find? (fun object => lowercase object.entityName == sought) =
      (schema.objects.find? fun object => object.isTable && lowercase object.name == sought).or
        (schema.objects.find? fun object =>
          (object.isExtension && !schema.tableNames.contains (lowercase object.base)) &&
            lowercase object.entityName == sought) := by
  have tables : (schema.objects.filter (·.isTable)).find?
      (fun object => lowercase object.entityName == sought) =
        schema.objects.find? fun object => object.isTable && lowercase object.name == sought := by
    apply find?_filter_eq
    intro object
    by_cases isTable : object.isTable = true
    · rw [isTable, TableObject.entityName_of_isTable isTable]
    · simp [isTable]
  have extensions : (schema.objects.filter fun object =>
      object.isExtension && !schema.tableNames.contains (lowercase object.base)).find?
        (fun object => lowercase object.entityName == sought) =
          schema.objects.find? fun object =>
            (object.isExtension && !schema.tableNames.contains (lowercase object.base)) &&
              lowercase object.entityName == sought := by
    apply find?_filter_eq
    intro object
    rfl
  rw [candidates, List.find?_append, tables, extensions]

/-- The object that the diagram shows as the entity of a name, in any case: the
first table of that name, or else the first extension of an outside table. -/
def shownFor? (schema : Schema) (name : String) : Option TableObject :=
  schema.candidates.find? fun object => lowercase object.entityName == lowercase name

theorem lowercase_of_shownFor? {shown : TableObject} (found : schema.shownFor? name = some shown) :
    lowercase shown.entityName = lowercase name := by
  simpa using List.find?_some found

end Schema

namespace TableObject

@[simp] theorem toEntity_name (object : TableObject) :
    object.toEntity.name = object.entityName := rfl

/-- Whether an object among others stands for an entity.  An extension that names
no table does not if there is a table without a name, which it is taken to extend. -/
def GivesEntity (objects : List TableObject) (object : TableObject) : Prop :=
  object.isTable = true ∨ object.base ≠ "" ∨
    ¬∃ table ∈ objects, table.isTable = true ∧ table.name = ""

end TableObject

theorem Relation.diagramKey_eq_iff {left right : Relation} :
    left.diagramKey = right.diagramKey ↔
      lowercase left.sourceEntity = lowercase right.sourceEntity ∧
        lowercase left.targetEntity = lowercase right.targetEntity ∧
          left.sourceField = right.sourceField := by
  simp [diagramKey]

namespace Diagram

/-- The lowercase names of the entities. -/
def entityNames (diagram : Diagram) : List String :=
  diagram.entities.map fun entity => lowercase entity.name

/-- What tells the edges apart: the lowercase names of both entities and the
referring field. -/
def edgeKeys (diagram : Diagram) : List (String × String × String) :=
  diagram.relations.map (·.diagramKey)

theorem isSome_entity?_iff {diagram : Diagram} {name : String} :
    (diagram.entity? name).isSome = true ↔ lowercase name ∈ diagram.entityNames := by
  simp [entity?, entityNames]

section OfSchema

variable {schema : Schema} {name : String} {shown : TableObject}

theorem entities_ofSchema (schema : Schema) :
    (ofSchema schema).entities =
      (distinctBy (fun object => lowercase object.entityName) schema.candidates).map (·.toEntity) :=
  rfl

theorem exists_shows_of_mem_entities {entity : DiagramEntity}
    (member : entity ∈ (ofSchema schema).entities) :
    ∃ object ∈ schema.objects, entity.Shows object := by
  rw [entities_ofSchema] at member
  obtain ⟨object, kept, same⟩ := List.mem_map.mp member
  exact ⟨object, Schema.mem_of_mem_candidates (mem_of_mem_distinctBy kept),
    DiagramEntity.shows_iff.mpr same.symm⟩

theorem entityNames_ofSchema (schema : Schema) :
    (ofSchema schema).entityNames =
      (distinctBy (fun object : TableObject => lowercase object.entityName)
        schema.candidates).map fun object => lowercase object.entityName := by
  rw [entityNames, entities_ofSchema, List.map_map]
  rfl

theorem shownFor?_eq_find?_distinctBy (schema : Schema) (name : String) :
    schema.shownFor? name =
      (distinctBy (fun object => lowercase object.entityName) schema.candidates).find?
        fun object => lowercase object.entityName == lowercase name :=
  (find?_distinctBy (fun object : TableObject => lowercase object.entityName)
    (lowercase name) schema.candidates).symm

theorem mem_distinctBy_of_shownFor? (found : schema.shownFor? name = some shown) :
    shown ∈ distinctBy (fun object => lowercase object.entityName) schema.candidates := by
  rw [shownFor?_eq_find?_distinctBy] at found
  exact List.mem_of_find?_eq_some found

theorem toEntity_mem_entities (found : schema.shownFor? name = some shown) :
    shown.toEntity ∈ (ofSchema schema).entities :=
  List.mem_map_of_mem (mem_distinctBy_of_shownFor? found)

theorem entity?_ofSchema (schema : Schema) (name : String) :
    (ofSchema schema).entity? name = (schema.shownFor? name).map (·.toEntity) := by
  rw [shownFor?_eq_find?_distinctBy, entity?, entities_ofSchema]
  exact List.find?_map ..

theorem mem_entityNames_ofSchema :
    name ∈ (ofSchema schema).entityNames ↔
      ∃ object ∈ schema.candidates, lowercase object.entityName = name := by
  rw [entityNames_ofSchema, mem_map_distinctBy, List.mem_map]

theorem exists_shownFor? (known : lowercase name ∈ (ofSchema schema).entityNames) :
    ∃ shown, schema.shownFor? name = some shown := by
  obtain ⟨object, candidate, same⟩ := mem_entityNames_ofSchema.mp known
  have sought : (lowercase object.entityName == lowercase name) = true := beq_iff_eq.mpr same
  exact Option.isSome_iff_exists.mp (List.find?_isSome.mpr ⟨object, candidate, sought⟩)

/-- The entities are those of all objects of the schema that stand for one. -/
theorem mem_entityNames_iff :
    name ∈ (ofSchema schema).entityNames ↔
      ∃ object ∈ schema.objects,
        object.GivesEntity schema.objects ∧ lowercase object.entityName = name := by
  rw [mem_entityNames_ofSchema]
  constructor
  · rintro ⟨object, candidate, named⟩
    obtain ⟨member, isTable | ⟨-, outside⟩⟩ := Schema.mem_candidates.mp candidate
    · exact ⟨object, member, .inl isTable, named⟩
    · refine ⟨object, member, ?_, named⟩
      by_cases noBase : object.base = ""
      · right; right
        rintro ⟨table, tableMember, isTable, unnamed⟩
        exact outside (Schema.mem_tableNames.mpr
          ⟨table, tableMember, isTable, by rw [unnamed, noBase]⟩)
      · exact .inr (.inl noBase)
  · rintro ⟨object, member, gives, named⟩
    by_cases isTable : object.isTable = true
    · exact ⟨object, Schema.mem_candidates.mpr ⟨member, .inl isTable⟩, named⟩
    · have isExtension := TableObject.isExtension_of_not_isTable isTable
      by_cases inside : lowercase object.base ∈ schema.tableNames
      · obtain ⟨extended, extendedMember, extendedIsTable, same⟩ := Schema.mem_tableNames.mp inside
        have hasBase : object.base ≠ "" := by
          intro noBase
          rw [noBase, lowercase_empty, lowercase_eq_empty_iff] at same
          rcases gives with isTable' | hasBase | noUnnamed
          · exact isTable isTable'
          · exact hasBase noBase
          · exact noUnnamed ⟨extended, extendedMember, extendedIsTable, same⟩
        refine ⟨extended, Schema.mem_candidates.mpr ⟨extendedMember, .inl extendedIsTable⟩, ?_⟩
        rw [TableObject.entityName_of_isTable extendedIsTable, same,
          ← TableObject.entityName_of_base isExtension hasBase, named]
      · exact ⟨object, Schema.mem_candidates.mpr ⟨member, .inr ⟨isExtension, inside⟩⟩, named⟩

/-- The relations of the schema whose ends are both entities of the diagram. -/
def connectedRelations (schema : Schema) : List Relation :=
  schema.relations.filter fun relation =>
    (ofSchema schema).entityNames.contains (lowercase relation.sourceEntity) &&
      (ofSchema schema).entityNames.contains (lowercase relation.targetEntity)

theorem relations_ofSchema (schema : Schema) :
    (ofSchema schema).relations = distinctBy Relation.diagramKey (connectedRelations schema) :=
  rfl

theorem mem_connectedRelations {relation : Relation} :
    relation ∈ connectedRelations schema ↔
      relation ∈ schema.relations ∧
        lowercase relation.sourceEntity ∈ (ofSchema schema).entityNames ∧
        lowercase relation.targetEntity ∈ (ofSchema schema).entityNames := by
  simp only [connectedRelations, List.mem_filter, Bool.and_eq_true, List.contains_iff_mem]

/-- The edges are those of all relations of the schema between entities. -/
theorem mem_edgeKeys_iff {key : String × String × String} :
    key ∈ (ofSchema schema).edgeKeys ↔
      (∃ relation ∈ schema.relations, relation.diagramKey = key) ∧
        key.1 ∈ (ofSchema schema).entityNames ∧ key.2.1 ∈ (ofSchema schema).entityNames := by
  rw [edgeKeys, relations_ofSchema, mem_map_distinctBy, List.mem_map]
  constructor
  · rintro ⟨relation, connected, rfl⟩
    obtain ⟨member, ends⟩ := mem_connectedRelations.mp connected
    exact ⟨⟨relation, member, rfl⟩, ends⟩
  · rintro ⟨⟨relation, member, rfl⟩, ends⟩
    exact ⟨relation, mem_connectedRelations.mpr ⟨member, ends⟩, rfl⟩

end OfSchema

end Diagram

end TableAtlas
