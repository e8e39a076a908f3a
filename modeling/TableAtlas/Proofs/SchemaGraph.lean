import TableAtlas.Proofs.DiagramGraph

/-!
# The graph of a schema

The diagram of a schema obeys the laws of `Diagram.IsGraphOf`, whatever objects
and relations the schema holds.  The entities are the first objects of their
names, tables before extensions of outside tables.  The edges are those relations
of the schema that connect two entities and are the first of their key.  No other
diagram obeys these laws.
-/

namespace TableAtlas

open TableAtlas.Text

/-! ## Laws -/

/-- Whether an object extends a table that the schema does not contain. -/
def Schema.ExtendsOutside (schema : Schema) (object : TableObject) : Prop :=
  object.isExtension = true ∧
    ∀ table ∈ schema.objects, table.isTable = true → lowercase table.name ≠ lowercase object.base

instance (schema : Schema) (object : TableObject) : Decidable (schema.ExtendsOutside object) :=
  inferInstanceAs (Decidable (_ ∧ ∀ table ∈ schema.objects, _))

namespace Diagram

/-- Whether both ends of a relation are entities of the diagram, in any case. -/
def Connects (diagram : Diagram) (relation : Relation) : Prop :=
  lowercase relation.sourceEntity ∈ diagram.entityNames ∧
    lowercase relation.targetEntity ∈ diagram.entityNames

instance (diagram : Diagram) (relation : Relation) : Decidable (diagram.Connects relation) :=
  inferInstanceAs (Decidable (_ ∧ _))

/-- The diagram shows each entity of a schema and each relation between them once,
in the order of the schema. -/
structure IsGraphOf (diagram : Diagram) (schema : Schema) : Prop where
  nodup_entityNames : diagram.entityNames.Nodup
  entities_eq : diagram.entities =
    (firstItems (fun object => lowercase object.entityName)
      (schema.objects.filter (fun object => object.isTable) ++
        schema.objects.filter fun object => schema.ExtendsOutside object)).map (·.toEntity)
  connects : ∀ relation ∈ diagram.relations, diagram.Connects relation
  sublist_relations : diagram.relations.Sublist schema.relations
  nodup_edgeKeys : diagram.edgeKeys.Nodup
  /-- Of the relations between entities, none is lost but for an earlier one with its key. -/
  shows_first : ∀ relation ∈ schema.relations, diagram.Connects relation →
    ∃ first,
      schema.relations.find? (fun other => other.diagramKey = relation.diagramKey) = some first ∧
      diagram.relations.filter (fun other => other.diagramKey = relation.diagramKey) = [first]
  /-- The edges stand at the positions in the schema before which there is none with their key. -/
  relations_eq : diagram.relations =
    (firstItems Relation.diagramKey schema.relations).filter fun relation =>
      diagram.Connects relation

end Diagram

/-! ## Entities -/

theorem Schema.candidates_eq (schema : Schema) :
    schema.candidates = schema.objects.filter (fun object => object.isTable) ++
      schema.objects.filter fun object => schema.ExtendsOutside object := by
  have outside : ∀ object ∈ schema.objects,
      (object.isExtension && !schema.tableNames.contains (lowercase object.base)) =
        decide (schema.ExtendsOutside object) := by
    intro object _
    have absent : lowercase object.base ∉ schema.tableNames ↔
        ∀ table ∈ schema.objects, table.isTable = true →
          lowercase table.name ≠ lowercase object.base := by
      simp [Schema.mem_tableNames]
    rw [Bool.eq_iff_iff, Bool.and_eq_true, Bool.not_eq_true', ← Bool.not_eq_true,
      List.contains_iff_mem, decide_eq_true_iff, ExtendsOutside, absent]
  rw [candidates, List.filter_congr outside]

namespace Diagram

variable {diagram : Diagram} {schema : Schema}

theorem nodup_entityNames_ofSchema (schema : Schema) : (ofSchema schema).entityNames.Nodup := by
  rw [entityNames_ofSchema]
  exact nodup_map_distinctBy ..

/-! ## Edges -/

theorem connects_iff_of_diagramKey_eq {left right : Relation}
    (same : left.diagramKey = right.diagramKey) :
    diagram.Connects left ↔ diagram.Connects right := by
  obtain ⟨sources, targets, -⟩ := Relation.diagramKey_eq_iff.mp same
  rw [Connects, Connects, sources, targets]

theorem connectedRelations_eq (schema : Schema) :
    connectedRelations schema =
      schema.relations.filter fun relation => (ofSchema schema).Connects relation := by
  apply List.filter_congr
  intro relation _
  rw [Bool.eq_iff_iff, Bool.and_eq_true, List.contains_iff_mem, List.contains_iff_mem,
    decide_eq_true_iff, Connects]

/-- Relations with a common key may be left out before those that do not connect
two entities, or after them. -/
theorem relations_ofSchema_eq_filter (schema : Schema) :
    (ofSchema schema).relations =
      (distinctBy Relation.diagramKey schema.relations).filter fun relation =>
        (ofSchema schema).Connects relation := by
  rw [relations_ofSchema, connectedRelations_eq]
  symm
  apply filter_distinctBy
  intro left right same
  exact decide_eq_decide.mpr (connects_iff_of_diagramKey_eq same)

theorem shows_first_ofSchema {relation : Relation} (member : relation ∈ schema.relations)
    (connects : (ofSchema schema).Connects relation) :
    ∃ first,
      schema.relations.find? (fun other => other.diagramKey = relation.diagramKey) = some first ∧
      (ofSchema schema).relations.filter (fun other => other.diagramKey = relation.diagramKey) =
        [first] := by
  have present : (schema.relations.find? fun other =>
      other.diagramKey = relation.diagramKey).isSome = true :=
    List.find?_isSome.mpr ⟨relation, member, decide_eq_true rfl⟩
  obtain ⟨first, found⟩ := Option.isSome_iff_exists.mp present
  have withKey : (ofSchema schema).relations.filter
      (fun other => other.diagramKey = relation.diagramKey) =
        (distinctBy Relation.diagramKey schema.relations).filter fun other =>
          other.diagramKey = relation.diagramKey := by
    rw [relations_ofSchema_eq_filter]
    apply filter_filter_eq
    intro other _ hasKey
    have sameKey := of_decide_eq_true hasKey
    exact decide_eq_true ((connects_iff_of_diagramKey_eq sameKey).mpr connects)
  refine ⟨first, found, ?_⟩
  rw [withKey, filter_key_distinctBy, found]
  rfl

/-! ## The graph -/

theorem isGraphOf_ofSchema (schema : Schema) : (ofSchema schema).IsGraphOf schema where
  nodup_entityNames := nodup_entityNames_ofSchema schema
  entities_eq := by
    rw [← Schema.candidates_eq, ← distinctBy_eq_firstItems, entities_ofSchema]
  connects := by
    intro relation member
    exact (mem_connectedRelations.mp (mem_of_mem_distinctBy member)).2
  sublist_relations := (distinctBy_sublist ..).trans List.filter_sublist
  nodup_edgeKeys := nodup_map_distinctBy ..
  shows_first := by
    intro relation member connects
    exact shows_first_ofSchema member connects
  relations_eq := by
    rw [← distinctBy_eq_firstItems]
    exact relations_ofSchema_eq_filter schema

/-- The laws hold of the diagram of the schema and of no other one. -/
theorem isGraphOf_iff : diagram.IsGraphOf schema ↔ diagram = ofSchema schema := by
  constructor
  · intro graph
    have shown := isGraphOf_ofSchema schema
    have entities : diagram.entities = (ofSchema schema).entities :=
      graph.entities_eq.trans shown.entities_eq.symm
    have relations : diagram.relations = (ofSchema schema).relations := by
      rw [graph.relations_eq, shown.relations_eq]
      apply List.filter_congr
      intro relation _
      apply decide_eq_decide.mpr
      rw [Connects, Connects, entityNames, entityNames, entities]
    cases diagram with
    | mk diagramEntities diagramRelations =>
        cases entities
        cases relations
        rfl
  · rintro rfl
    exact isGraphOf_ofSchema schema

/-- Tables, extensions and relations that differ in case only, and a relation to no entity.
Some of the fields have captions, and some refer to other tables. -/
def collidingSchema : Schema :=
  { Schema.empty with
    objects :=
      [⟨1, "Ext A", "", .tableExtension, "Vendor",
          [⟨50, "Rank", "Integer", "Rating", .normal, "", false, false, "", ""⟩,
            ⟨51, "Note", "Text[50]", "", .normal, "", false, false, "", ""⟩], [], ""⟩,
        ⟨2, "Item", "Article", .table, "",
          [⟨1, "No.", "Code[20]", "Number", .normal, "Customer", true, true, "Customer", ""⟩,
            ⟨2, "NO.", "Code[10]", "", .normal, "Vendor", false, true, "Vendor", ""⟩], [], ""⟩,
        ⟨3, "Ext B", "", .tableExtension, "ITEM",
          [⟨60, "Grade", "Code[1]", "", .normal, "", false, false, "", ""⟩], [], ""⟩,
        ⟨4, "ITEM", "", .table, "",
          [⟨1, "Code", "Code[10]", "", .normal, "", true, false, "", ""⟩], [], ""⟩,
        ⟨5, "Ext C", "", .tableExtension, "VENDOR",
          [⟨70, "Class", "Option", "", .normal, "", false, false, "", ""⟩], [], ""⟩]
    relations :=
      [⟨"Item", "No.", "Customer", ""⟩, ⟨"ITEM", "No.", "vendor", ""⟩,
        ⟨"Item", "No.", "Vendor", "Code"⟩, ⟨"Item", "NO.", "Vendor", ""⟩] }

/-- The first table and the first extension of the outside table are shown with their own
fields, and of two relations with one key the first. -/
theorem isGraphOf_collidingSchema :
    let diagram := ofSchema collidingSchema
    let item : DiagramEntity := ⟨"Item", "Article",
      [⟨"No.", "Number", "Code[20]", true, true⟩, ⟨"NO.", "NO.", "Code[10]", false, true⟩]⟩
    let vendor : DiagramEntity := ⟨"Vendor", "Vendor",
      [⟨"Rank", "Rating", "Integer", false, false⟩, ⟨"Note", "Note", "Text[50]", false, false⟩]⟩
    diagram.entities = [item, vendor] ∧
      diagram.relations = [⟨"ITEM", "No.", "vendor", ""⟩, ⟨"Item", "NO.", "Vendor", ""⟩] := by
  intro diagram item vendor
  have graph : diagram.IsGraphOf collidingSchema := isGraphOf_iff.mpr rfl
  have entities : diagram.entities = [item, vendor] := by
    rw [graph.entities_eq]
    decide +kernel
  refine ⟨entities, ?_⟩
  rw [graph.relations_eq]
  decide +kernel

end Diagram

end TableAtlas
