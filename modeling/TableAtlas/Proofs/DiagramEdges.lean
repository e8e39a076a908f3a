import TableAtlas.Proofs.DiagramGraph
import TableAtlas.Proofs.MergedFields
import TableAtlas.Schema.Assembly

/-!
# Edges of a diagram

Each edge stems from a foreign key field of some object.  The entity at its
source shows the first object of that name, so the field may be missing there:
a field of an extension whose name is taken is not merged, and the fields of an
object that is not the first of its name are not shown.
-/

namespace TableAtlas

open TableAtlas.Text TableAtlas.Source

/-! ## Entities -/

/-- The first shown table of a name is the first declared one, with the fields of
its extensions. -/
theorem find?_shownObjects {objects : List TableObject} {name : String} {table : TableObject}
    (found : (shownObjects objects).find?
      (fun object => object.isTable && lowercase object.name == name) = some table) :
    ∃ declared ∈ objects, table = declared.withContributions objects := by
  have notCue : isLowercaseCueName name.toList = false := by
    have shown := List.mem_of_find?_eq_some found
    have named := List.find?_some found
    simp only [Bool.and_eq_true, beq_iff_eq] at named
    have kept := (List.mem_filter.mp shown).2
    rw [TableObject.isCue_of_isTable named.1, named.2] at kept
    simpa using kept
  have merged : (shownObjects objects).find?
      (fun object => object.isTable && lowercase object.name == name) =
        (mergeExtensions objects).find?
          (fun object => object.isTable && lowercase object.name == name) := by
    apply find?_filter_eq
    intro object
    by_cases isTable : object.isTable = true
    · by_cases named : lowercase object.name = name
      · simp [isTable, named, TableObject.isCue_of_isTable isTable, notCue]
      · simp [named]
    · simp [isTable]
  rw [merged, find?_mergeExtensions] at found
  obtain ⟨declared, first, rfl⟩ := Option.map_eq_some_iff.mp found
  exact ⟨declared, List.mem_of_find?_eq_some first, rfl⟩

namespace Schema

theorem find?_of_find?_candidates {schema : Schema} {name : String} {table : TableObject}
    (isTable : table.isTable = true)
    (found : schema.candidates.find? (fun object => lowercase object.entityName == name) =
      some table) :
    schema.objects.find? (fun object => object.isTable && lowercase object.name == name) =
      some table := by
  rw [find?_candidates, Option.or_eq_some_iff] at found
  rcases found with first | ⟨-, extension⟩
  · exact first
  · have outside := List.find?_some extension
    simp only [Bool.and_eq_true] at outside
    rw [TableObject.isTable_of_isExtension outside.1.1] at isTable
    exact absurd isTable (by decide)

end Schema

/-! ## Edges -/

theorem TableObject.relation?_eq_some {object : TableObject} {field : Field} {relation : Relation}
    (derived : object.relation? field = some relation) :
    field.isForeignKey = true ∧ relation.sourceEntity = object.entityName ∧
      relation.sourceField = field.name := by
  obtain ⟨foreign, -, -, rfl⟩ := relation?_eq_some_iff.mp derived
  exact ⟨foreign, rfl, rfl⟩

/-- Whether an entity has a field of a name, in any case. -/
def DiagramEntity.HasField (entity : DiagramEntity) (name : String) : Prop :=
  ∃ field ∈ entity.fields, lowercase field.name = lowercase name

/-- Whether an entity has a foreign key field of a name, in any case. -/
def DiagramEntity.HasForeignKey (entity : DiagramEntity) (name : String) : Prop :=
  ∃ field ∈ entity.fields, lowercase field.name = lowercase name ∧ field.isForeignKey = true

theorem TableObject.hasForeignKey_toEntity {object : TableObject} {field : Field}
    (member : field ∈ object.fields) (foreign : field.isForeignKey = true) :
    object.toEntity.HasForeignKey field.name :=
  ⟨field.toDiagram, List.mem_map_of_mem member, rfl, foreign⟩

theorem TableObject.hasField_toEntity {objects : List TableObject} {table extension : TableObject}
    {field : Field} (member : extension ∈ objects)
    (extended : extension.extendsTable table.name = true) (declared : field ∈ extension.fields) :
    (table.withContributions objects).toEntity.HasField field.name := by
  obtain ⟨present, presentMember, same⟩ :=
    exists_sameName_withContributions member extended declared
  exact ⟨present.toDiagram, List.mem_map_of_mem presentMember, sameName_iff.mp same⟩

theorem mem_of_mem_shownObjects_of_isExtension {objects : List TableObject}
    {extension : TableObject} (isExtension : extension.isExtension = true)
    (shown : extension ∈ shownObjects objects) : extension ∈ objects :=
  mem_of_mem_mergeExtensions_of_isExtension isExtension (List.mem_filter.mp shown).1

namespace Diagram

/-- The source of each edge is an entity of the diagram, and stems from an object. -/
theorem exists_source {schema : Schema} {relation : Relation}
    (member : relation ∈ (ofSchema schema).relations) :
    relation ∈ schema.relations ∧
      ∃ shown, schema.shownFor? relation.sourceEntity = some shown := by
  obtain ⟨derived, sourceKnown, -⟩ := mem_connectedRelations.mp (mem_of_mem_distinctBy member)
  exact ⟨derived, exists_shownFor? sourceKnown⟩

/-- Each edge stems from a foreign key field of an object, and its source is an
entity of the diagram.  That entity has a foreign key field of this name, unless
the object extends the table that is shown and the name is that of a field of
the table that is no foreign key, or the object is neither shown itself nor an
extension of the table that is shown. -/
theorem relations_backed (common : NamePrefix) (sources : Sources) {relation : Relation}
    (member : relation ∈ (ofSchema (.ofSources common sources)).relations) :
    let schema := Schema.ofSources common sources
    ∃ object ∈ schema.objects, ∃ field ∈ object.fields,
      object.relation? field = some relation ∧
      ∃ shown ∈ schema.objects,
        (ofSchema schema).entity? relation.sourceEntity = some shown.toEntity ∧
        (shown.toEntity.HasForeignKey relation.sourceField ∨
          (shown.isTable = true ∧ object.extendsTable shown.name = true ∧
            shown.toEntity.HasField relation.sourceField ∧
            ¬shown.toEntity.HasForeignKey relation.sourceField) ∨
          (object ≠ shown ∧
            ¬(shown.isTable = true ∧ object.extendsTable shown.name = true))) := by
  intro schema
  obtain ⟨derived, shown, found⟩ := exists_source member
  obtain ⟨object, objectMember, field, fieldMember, isSource⟩ := mem_relationsOf.mp derived
  obtain ⟨foreign, sourceEntity, sourceField⟩ := TableObject.relation?_eq_some isSource
  have shownMember := Schema.mem_of_mem_candidates (List.mem_of_find?_eq_some found)
  have entity : (ofSchema schema).entity? relation.sourceEntity = some shown.toEntity := by
    rw [entity?_ofSchema, found, Option.map_some]
  refine ⟨object, objectMember, field, fieldMember, isSource, shown, shownMember, entity, ?_⟩
  by_cases backed : shown.toEntity.HasForeignKey relation.sourceField
  · exact .inl backed
  · right
    by_cases extended : shown.isTable = true ∧ object.extendsTable shown.name = true
    · left
      obtain ⟨isTable, extendsShown⟩ := extended
      obtain ⟨table, -, rfl⟩ :=
        find?_shownObjects (Schema.find?_of_find?_candidates isTable found)
      have isExtension : object.isExtension = true := by
        simp only [TableObject.extendsTable, Bool.and_eq_true] at extendsShown
        exact extendsShown.1.1
      have declared := mem_of_mem_shownObjects_of_isExtension isExtension objectMember
      have extendsTable : object.extendsTable table.name = true := extendsShown
      have merged := TableObject.hasField_toEntity declared extendsTable fieldMember
      exact ⟨isTable, extendsShown, sourceField ▸ merged, backed⟩
    · right
      refine ⟨?_, extended⟩
      rintro rfl
      exact backed (sourceField ▸ TableObject.hasForeignKey_toEntity fieldMember foreign)

/-- A table and an extension that refers to it. -/
def extendedSources : Sources :=
  (TextFiles.ofList [("a.al",
    "table 1 A \x7b fields \x7b field(1; X; Integer) \x7d \x7d" ++
    "tableextension 2 B extends A \x7b fields \x7b field(2; Y; Integer)" ++
    "\x7b TableRelation = A; \x7d \x7d \x7d")]).sources

theorem relations_backed_extendedSources :
    ⟨"A", "Y", "A", ""⟩ ∈ (ofSchema (.ofSources .none extendedSources)).relations ∧
      ∃ object ∈ (Schema.ofSources .none extendedSources).objects, ∃ field ∈ object.fields,
        object.relation? field = some ⟨"A", "Y", "A", ""⟩ := by
  have member : ⟨"A", "Y", "A", ""⟩ ∈
      (ofSchema (.ofSources .none extendedSources)).relations := by decide +kernel
  obtain ⟨object, objectMember, field, fieldMember, isSource, -⟩ :=
    relations_backed .none extendedSources member
  exact ⟨member, object, objectMember, field, fieldMember, isSource⟩

/-- A table whose field has the name of a foreign key of its extension. -/
def shadowingSources : Sources :=
  (TextFiles.ofList [("a.al",
    "table 1 A \x7b fields \x7b field(1; X; Integer) \x7d \x7d" ++
    "tableextension 2 B extends A \x7b fields \x7b field(2; X; Integer)" ++
    "\x7b TableRelation = A; \x7d \x7d \x7d")]).sources

/-- Two extensions of a table outside the project. -/
def outsideSources : Sources :=
  (TextFiles.ofList [("a.al",
    "tableextension 1 A extends V \x7b fields \x7b field(1; X; Integer) \x7d \x7d" ++
    "tableextension 2 B extends V \x7b fields \x7b field(2; Y; Integer)" ++
    "\x7b TableRelation = V; \x7d \x7d \x7d")]).sources

/-- Neither of the entities at the sources of these edges shows the foreign key. -/
theorem relations_unbacked :
    ofSchema (.ofSources .none shadowingSources) =
        ⟨[⟨"A", "A", [⟨"X", "X", "Integer", false, false⟩]⟩], [⟨"A", "X", "A", ""⟩]⟩ ∧
      ofSchema (.ofSources .none outsideSources) =
        ⟨[⟨"V", "V", [⟨"X", "X", "Integer", false, false⟩]⟩], [⟨"V", "Y", "V", ""⟩]⟩ := by
  constructor
  · decide +kernel
  · decide +kernel

end Diagram

end TableAtlas
