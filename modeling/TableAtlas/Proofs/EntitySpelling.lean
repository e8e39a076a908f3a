import TableAtlas.Diagram.Mermaid
import TableAtlas.Proofs.DiagramGraph
import TableAtlas.Schema.Assembly

/-!
# How edges spell their entities

An edge connects two entities of the diagram, but names are compared by their
lowercase forms.  The end of an edge is spelled as in the declaration that the
edge stems from, the entity as in the first object that stands for it.  The end
is the very name of an entity exactly if the two spellings agree, and then its
identifier in the Mermaid text opens a block there.
-/

namespace TableAtlas

open TableAtlas.Text TableAtlas.Source

namespace Schema

/-- The diagram shows an object as the entity of a name, which the object has up to
case.  If it has the very name, the entity has it too, and if not, no entity has. -/
structure ShowsAs (schema : Schema) (name : String) (shown : TableObject) : Prop where
  first : schema.shownFor? name = some shown
  found : (Diagram.ofSchema schema).entity? name = some shown.toEntity
  entity : shown.toEntity ∈ (Diagram.ofSchema schema).entities
  sameName : lowercase shown.entityName = lowercase name
  exact_iff : (∃ entity ∈ (Diagram.ofSchema schema).entities, entity.name = name) ↔
    shown.entityName = name
  opened : shown.entityName = name →
    Mermaid.opening name ∈ Mermaid.lines (Diagram.ofSchema schema)

section Shown

variable {schema : Schema} {name : String} {shown : TableObject}

/-- No other entity has the name of the one that is found, in any case. -/
theorem exists_entity_name_iff (found : schema.shownFor? name = some shown) :
    (∃ entity ∈ (Diagram.ofSchema schema).entities, entity.name = name) ↔
      shown.entityName = name := by
  have kept := Diagram.mem_distinctBy_of_shownFor? found
  constructor
  · rintro ⟨entity, member, exactName⟩
    obtain ⟨object, objectMember, rfl⟩ := List.mem_map.mp member
    have objectName : object.entityName = name := exactName
    have same : lowercase object.entityName = lowercase shown.entityName := by
      rw [lowercase_of_shownFor? found, objectName]
    rw [← eq_of_mem_distinctBy objectMember kept same, objectName]
  · intro exactName
    exact ⟨shown.toEntity, List.mem_map_of_mem kept, exactName⟩

theorem showsAs_of_shownFor? (found : schema.shownFor? name = some shown) :
    schema.ShowsAs name shown where
  first := found
  found := by rw [Diagram.entity?_ofSchema, found, Option.map_some]
  entity := Diagram.toEntity_mem_entities found
  sameName := lowercase_of_shownFor? found
  exact_iff := exists_entity_name_iff found
  opened exactName := by
    have opened := Mermaid.opening_mem_lines (Diagram.toEntity_mem_entities found)
    rwa [TableObject.toEntity_name, exactName] at opened

end Shown

end Schema

namespace Diagram

/-- Both ends of an edge are entities up to case.  The source is spelled as in
the object that the edge stems from, the target as in its field, and each end is
the very name of an entity exactly if the object shown as that entity is spelled
alike. -/
theorem relations_spelled (common : NamePrefix) (sources : Sources) {relation : Relation}
    (member : relation ∈ (ofSchema (.ofSources common sources)).relations) :
    let schema := Schema.ofSources common sources
    ∃ object ∈ schema.objects, ∃ field ∈ object.fields,
      object.relation? field = some relation ∧
      relation.sourceEntity = object.entityName ∧
      relation.targetEntity = field.relatedEntity ∧
      (∃ source, schema.ShowsAs relation.sourceEntity source) ∧
      (∃ target, schema.ShowsAs relation.targetEntity target) ∧
      Mermaid.relationLine relation ∈ Mermaid.lines (ofSchema schema) := by
  intro schema
  have connected : relation ∈ connectedRelations schema := mem_of_mem_distinctBy member
  obtain ⟨derived, sourceKnown, targetKnown⟩ := mem_connectedRelations.mp connected
  obtain ⟨object, objectMember, field, fieldMember, ofField⟩ := mem_relationsOf.mp derived
  obtain ⟨source, sourceFound⟩ := exists_shownFor? sourceKnown
  obtain ⟨target, targetFound⟩ := exists_shownFor? targetKnown
  obtain ⟨-, -, -, rfl⟩ := TableObject.relation?_eq_some_iff.mp ofField
  exact ⟨object, objectMember, field, fieldMember, ofField, rfl, rfl,
    ⟨source, Schema.showsAs_of_shownFor? sourceFound⟩,
    ⟨target, Schema.showsAs_of_shownFor? targetFound⟩, Mermaid.relationLine_mem_lines member⟩

/-- An extension of a table that refers to the table, each in a spelling of its own. -/
def misspellingSources : Sources :=
  (TextFiles.ofList [("a.al",
    "tableextension 1 B extends ITEM \x7b fields \x7b field(1; X; Integer)" ++
    "\x7b TableRelation = item; \x7d \x7d \x7d table 2 Item \x7b \x7d")]).sources

theorem relations_spelled_misspellingSources :
    let schema := Schema.ofSources .none misspellingSources
    let relation : Relation := ⟨"ITEM", "X", "item", ""⟩
    relation ∈ (ofSchema schema).relations ∧
      (∃ object ∈ schema.objects, ∃ field ∈ object.fields,
        object.relation? field = some relation) ∧
      (∃ source, schema.ShowsAs "ITEM" source) ∧ ∃ target, schema.ShowsAs "item" target := by
  intro schema relation
  have member : relation ∈ (ofSchema schema).relations := by decide +kernel
  obtain ⟨object, objectMember, field, fieldMember, ofField, -, -, source, target, -⟩ :=
    relations_spelled .none misspellingSources member
  exact ⟨member, ⟨object, objectMember, field, fieldMember, ofField⟩, source, target⟩

/-- The edge of the extension names the only entity as `ITEM` and as `item`, neither
of which is the name of an entity or opens a block of the Mermaid text. -/
theorem relations_misspelled :
    let diagram := ofSchema (.ofSources .none misspellingSources)
    (∃ relation ∈ diagram.relations, ∀ entity ∈ diagram.entities,
        entity.name ≠ relation.sourceEntity ∧ entity.name ≠ relation.targetEntity) ∧
      Mermaid.lines diagram =
        ["erDiagram", "    Item \x7b", "        int X FK", "    \x7d",
          "    ITEM \x7do--|| item : \"X\""] ∧
      Mermaid.opening "ITEM" ∉ Mermaid.lines diagram ∧
      Mermaid.opening "item" ∉ Mermaid.lines diagram := by
  decide +kernel

end Diagram

end TableAtlas
