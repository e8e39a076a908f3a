import TableAtlas.Proofs.SchemaGraph
import TableAtlas.Schema.Assembly
import TableAtlas.Schema.Description

/-!
# Outgoing edges

The description of an object lists the references of its entity, and the diagram
shows the edges of the entity.  Both leave out relations that repeat an earlier
one, but a description also takes two fields for the same whose names differ in
case.  The lists agree unless there are such fields; otherwise the description
lists fewer references than the diagram has edges.
-/

namespace TableAtlas

open TableAtlas.Text

/-! ## Two views of the relations of an entity -/

/-- What tells the references of a description apart: the lowercase names of the
referring field and of the entity that it refers to. -/
def Relation.referenceKey (relation : Relation) : String × String :=
  (lowercase relation.sourceField, lowercase relation.targetEntity)

theorem Relation.referenceKey_eq_iff {left right : Relation} :
    left.referenceKey = right.referenceKey ↔
      lowercase left.sourceField = lowercase right.sourceField ∧
        lowercase left.targetEntity = lowercase right.targetEntity := by
  simp [referenceKey]

/-- The references of a description that lead to an entity of a diagram. -/
def Description.referencesWithin (description : Description) (diagram : Diagram) :
    List Relation :=
  description.references.filter fun relation => (diagram.entity? relation.targetEntity).isSome

/-- The edges of a diagram that start at the entity of an object. -/
def Diagram.edgesFrom (diagram : Diagram) (object : TableObject) : List Relation :=
  diagram.relations.filter fun relation => sameName relation.sourceEntity object.entityName

/-- The relations of a schema that lead from the entity of an object to an entity of
the diagram. -/
def Schema.relationsFrom (schema : Schema) (object : TableObject) : List Relation :=
  schema.relations.filter fun relation =>
    sameName relation.sourceEntity object.entityName &&
      ((Diagram.ofSchema schema).entity? relation.targetEntity).isSome

namespace Diagram

variable {schema : Schema} {object : TableObject}

theorem referencesWithin_ofObject (schema : Schema) (object : TableObject) :
    (Description.ofObject schema object).referencesWithin (ofSchema schema) =
      distinctBy Relation.referenceKey (schema.relationsFrom object) := by
  have references : (Description.ofObject schema object).references =
      distinctBy Relation.referenceKey
        (schema.relations.filter fun relation =>
          sameName relation.sourceEntity object.entityName) :=
    rfl
  have ofKey : ∀ left right : Relation, left.referenceKey = right.referenceKey →
      ((ofSchema schema).entity? left.targetEntity).isSome =
        ((ofSchema schema).entity? right.targetEntity).isSome := by
    intro left right same
    rw [entity?, entity?, (Relation.referenceKey_eq_iff.mp same).2]
  rw [Description.referencesWithin, references, filter_distinctBy ofKey, List.filter_filter]
  apply congrArg
  apply List.filter_congr
  intro relation _
  exact Bool.and_comm ..

theorem edgesFrom_ofSchema
    (shown : ((ofSchema schema).entity? object.entityName).isSome = true) :
    (ofSchema schema).edgesFrom object =
      distinctBy Relation.diagramKey (schema.relationsFrom object) := by
  have ofKey : ∀ left right : Relation, left.diagramKey = right.diagramKey →
      sameName left.sourceEntity object.entityName =
        sameName right.sourceEntity object.entityName := by
    intro left right same
    rw [sameName, sameName, (Relation.diagramKey_eq_iff.mp same).1]
  rw [edgesFrom, relations_ofSchema, connectedRelations_eq, filter_distinctBy ofKey,
    List.filter_filter]
  apply congrArg
  apply List.filter_congr
  intro relation _
  by_cases leaves : sameName relation.sourceEntity object.entityName = true
  · have sourceShown : lowercase relation.sourceEntity ∈ (ofSchema schema).entityNames := by
      rw [sameName_iff.mp leaves]
      exact isSome_entity?_iff.mp shown
    rw [leaves, Bool.true_and, Bool.true_and, Bool.eq_iff_iff, decide_eq_true_iff,
      isSome_entity?_iff]
    exact and_iff_right sourceShown
  · simp [leaves]

/-! ## When they agree -/

theorem referenceKey_eq_of_diagramKey_eq {left right : Relation}
    (same : left.diagramKey = right.diagramKey) : left.referenceKey = right.referenceKey := by
  obtain ⟨-, targets, fields⟩ := Relation.diagramKey_eq_iff.mp same
  exact Relation.referenceKey_eq_iff.mpr ⟨congrArg lowercase fields, targets⟩

theorem lowercase_sourceEntity_of_mem_relationsFrom {relation : Relation}
    (member : relation ∈ schema.relationsFrom object) :
    lowercase relation.sourceEntity = lowercase object.entityName := by
  have leaves := (List.mem_filter.mp member).2
  rw [Bool.and_eq_true] at leaves
  exact sameName_iff.mp leaves.1

/-- A description lists the edges of an entity less those whose field differs from an
earlier one to the same entity in case only.  So it lists all of them exactly if the
schema has no two relations between the same entities from such fields. -/
theorem referencesWithin_eq_edgesFrom_iff
    (shown : ((ofSchema schema).entity? object.entityName).isSome = true) :
    let described := (Description.ofObject schema object).referencesWithin (ofSchema schema)
    let edges := (ofSchema schema).edgesFrom object
    described = distinctBy Relation.referenceKey edges ∧
      (described = edges ↔
        ∀ left ∈ schema.relationsFrom object, ∀ right ∈ schema.relationsFrom object,
          sameName left.targetEntity right.targetEntity = true →
            sameName left.sourceField right.sourceField = true →
              left.sourceField = right.sourceField) := by
  intro described edges
  have determined : ∀ left right : Relation, left.diagramKey = right.diagramKey →
      left.referenceKey = right.referenceKey :=
    fun _ _ => referenceKey_eq_of_diagramKey_eq
  have describedEq : described =
      distinctBy Relation.referenceKey (schema.relationsFrom object) :=
    referencesWithin_ofObject schema object
  have edgesEq : edges = distinctBy Relation.diagramKey (schema.relationsFrom object) :=
    edgesFrom_ofSchema shown
  refine ⟨by rw [describedEq, edgesEq, distinctBy_distinctBy determined], ?_⟩
  rw [describedEq, edgesEq, distinctBy_eq_distinctBy_iff determined]
  constructor
  · intro separates left leftMember right rightMember targets fields
    have sameReference : left.referenceKey = right.referenceKey :=
      Relation.referenceKey_eq_iff.mpr ⟨sameName_iff.mp fields, sameName_iff.mp targets⟩
    have sameEdge := separates left leftMember right rightMember sameReference
    exact (Relation.diagramKey_eq_iff.mp sameEdge).2.2
  · intro separates left leftMember right rightMember sameReference
    obtain ⟨fields, targets⟩ := Relation.referenceKey_eq_iff.mp sameReference
    have sources : lowercase left.sourceEntity = lowercase right.sourceEntity := by
      rw [lowercase_sourceEntity_of_mem_relationsFrom leftMember,
        lowercase_sourceEntity_of_mem_relationsFrom rightMember]
    have sameField := separates left leftMember right rightMember
      (sameName_iff.mpr targets) (sameName_iff.mpr fields)
    exact Relation.diagramKey_eq_iff.mpr ⟨sources, targets, sameField⟩

/-- A table with two references to itself, one of them repeated, and a reference to an
entity that the diagram does not show. -/
def selfReferringSchema : Schema :=
  { Schema.empty with
    objects := [⟨1, "Item", "", .table, "", [], [], ""⟩]
    relations :=
      [⟨"Item", "No.", "Item", ""⟩, ⟨"ITEM", "Code", "item", "No."⟩,
        ⟨"item", "No.", "ITEM", "No."⟩, ⟨"Item", "NO.", "Vendor", ""⟩] }

theorem referencesWithin_eq_edgesFrom_selfReferring :
    let item : TableObject := ⟨1, "Item", "", .table, "", [], [], ""⟩
    let diagram := ofSchema selfReferringSchema
    (diagram.entity? item.entityName).isSome = true ∧
      (selfReferringSchema.relationsFrom item).length = 3 ∧
      diagram.edgesFrom item = [⟨"Item", "No.", "Item", ""⟩, ⟨"ITEM", "Code", "item", "No."⟩] ∧
      (Description.ofObject selfReferringSchema item).referencesWithin diagram =
        diagram.edgesFrom item := by
  intro item diagram
  obtain ⟨shown, length, edges, separates⟩ :
      (diagram.entity? item.entityName).isSome = true ∧
        (selfReferringSchema.relationsFrom item).length = 3 ∧
        diagram.edgesFrom item =
          [⟨"Item", "No.", "Item", ""⟩, ⟨"ITEM", "Code", "item", "No."⟩] ∧
        ∀ left ∈ selfReferringSchema.relationsFrom item,
          ∀ right ∈ selfReferringSchema.relationsFrom item,
            sameName left.targetEntity right.targetEntity = true →
              sameName left.sourceField right.sourceField = true →
                left.sourceField = right.sourceField := by
    decide +kernel
  have agree := (referencesWithin_eq_edgesFrom_iff shown).2.mpr separates
  exact ⟨shown, length, edges, agree⟩

/-- A table and an extension of it that repeats its reference in another spelling. -/
def respelledReferences : Sources :=
  (TextFiles.ofList [("a.al",
    "table 1 A \x7b fields \x7b field(1; X; Integer) \x7b TableRelation = A; \x7d \x7d \x7d" ++
    "tableextension 2 B extends A \x7b fields \x7b field(2; x; Integer)" ++
    "\x7b TableRelation = A; \x7d \x7d \x7d")]).sources

/-- The table has a single field, which the diagram shows as two edges. -/
theorem referencesWithin_ne_edgesFrom :
    let schema := Schema.ofSources .none respelledReferences
    ∃ table ∈ schema.objects, table.isTable = true ∧
      table.fields.map (·.name) = ["X"] ∧
      ((ofSchema schema).entity? table.entityName).isSome = true ∧
      (Description.ofObject schema table).referencesWithin (ofSchema schema) =
        [⟨"A", "X", "A", ""⟩] ∧
      (ofSchema schema).edgesFrom table = [⟨"A", "X", "A", ""⟩, ⟨"A", "x", "A", ""⟩] := by
  decide +kernel

end Diagram

end TableAtlas
