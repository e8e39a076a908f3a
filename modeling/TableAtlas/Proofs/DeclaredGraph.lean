import TableAtlas.Proofs.CueTables
import TableAtlas.Proofs.DiagramGraph
import TableAtlas.Proofs.PrimaryFlags

/-!
# The graph that the declarations determine

Merging decides which fields an entity shows, but not which entities and edges a
diagram has: the edge of a merged field is also one of the extension that
declares the field.  The lowercase names of the entities and the keys of the
edges can therefore be read off the declared objects alone.  They do not depend
on the order of the files, and further files only add to them.
-/

namespace TableAtlas

open TableAtlas.Text TableAtlas.Source

/-! ## Relations of merged objects -/

namespace Relation

/-- A relation with its source in lowercase. -/
def folded (relation : Relation) : Relation :=
  { relation with sourceEntity := lowercase relation.sourceEntity }

theorem diagramKey_eq_of_folded_eq {left right : Relation} (same : left.folded = right.folded) :
    left.diagramKey = right.diagramKey :=
  congrArg (fun relation : Relation =>
    (relation.sourceEntity, lowercase relation.targetEntity, relation.sourceField)) same

end Relation

section Merged

variable {objects : List TableObject} {relation : Relation}

theorem mem_relationsOf_mergeExtensions (member : relation ∈ relationsOf objects) :
    relation ∈ relationsOf (mergeExtensions objects) := by
  obtain ⟨object, objectMember, field, fieldMember, derived⟩ := mem_relationsOf.mp member
  obtain ⟨merged, mergedMember, rfl | ⟨-, rfl⟩⟩ := exists_mem_mergeExtensions objectMember
  · exact mem_relationsOf.mpr ⟨merged, mergedMember, field, fieldMember, derived⟩
  · have merged : field ∈ (object.withContributions objects).fields :=
      subset_addFields object.fields _ fieldMember
    exact mem_relationsOf.mpr ⟨_, mergedMember, field, merged, derived⟩

/-- A relation of a merged field is one of the object that declares the field, up
to the case in which its source is spelled. -/
theorem exists_folded_eq_of_mem_mergeExtensions
    (member : relation ∈ relationsOf (mergeExtensions objects)) :
    ∃ declared ∈ relationsOf objects, declared.folded = relation.folded := by
  obtain ⟨merged, mergedMember, field, fieldMember, derived⟩ := mem_relationsOf.mp member
  obtain ⟨object, objectMember, rfl | ⟨isTable, rfl⟩⟩ := mem_mergeExtensions mergedMember
  · exact ⟨relation, mem_relationsOf.mpr ⟨merged, objectMember, field, fieldMember, derived⟩, rfl⟩
  · rcases TableObject.mem_withContributions fieldMember with own | contributed
    · exact ⟨relation, mem_relationsOf.mpr ⟨object, objectMember, field, own, derived⟩, rfl⟩
    · obtain ⟨extension, extensionMember, extended, declared⟩ := contributed
      obtain ⟨foreign, named, notCue, rfl⟩ := TableObject.relation?_eq_some_iff.mp derived
      have ofExtension : extension.relation? field =
          some ⟨extension.entityName, field.name, field.relatedEntity, field.relatedField⟩ :=
        TableObject.relation?_eq_some_iff.mpr ⟨foreign, named, notCue, rfl⟩
      have same : lowercase extension.entityName =
          lowercase (object.withContributions objects).entityName := by
        rw [TableObject.lowercase_entityName_of_extendsTable extended]
        exact congrArg lowercase (TableObject.entityName_of_isTable isTable).symm
      refine ⟨_, mem_relationsOf.mpr ⟨extension, extensionMember, field, declared, ofExtension⟩, ?_⟩
      simp only [Relation.folded, same]

/-- Merging keeps the relations of each kind, as long as the case of the source
does not count. -/
theorem exists_relation_mergeExtensions_iff {ofKind : Relation → Prop}
    (unaffected : ∀ left right : Relation, left.folded = right.folded →
      (ofKind left ↔ ofKind right)) :
    (∃ relation ∈ relationsOf (mergeExtensions objects), ofKind relation) ↔
      ∃ relation ∈ relationsOf objects, ofKind relation := by
  constructor
  · rintro ⟨relation, member, holds⟩
    obtain ⟨declared, declaredMember, same⟩ := exists_folded_eq_of_mem_mergeExtensions member
    exact ⟨declared, declaredMember, (unaffected declared relation same).mpr holds⟩
  · rintro ⟨relation, member, holds⟩
    exact ⟨relation, mem_relationsOf_mergeExtensions member, holds⟩

end Merged

/-! ## The graph of an assembled schema -/

section Assembled

variable {objects more : List TableObject} {project otherProject : ProjectInfo}
variable {warnings otherWarnings : List String} {name : String} {key : String × String × String}

/-- A schema shows the objects of each kind that are no cue tables, as long as
fields do not count. -/
theorem exists_shownObjects_iff {ofKind : TableObject → Prop}
    (unaffected : ∀ object : TableObject,
      ofKind (object.withContributions objects) ↔ ofKind object) :
    (∃ shown ∈ shownObjects objects, ofKind shown) ↔
      ∃ object ∈ objects, object.isCue = false ∧ ofKind object := by
  have merged : (∃ merged ∈ mergeExtensions objects, merged.isCue = false ∧ ofKind merged) ↔
      ∃ object ∈ objects, object.isCue = false ∧ ofKind object :=
    exists_mergeExtensions_iff fun object => and_congr Iff.rfl (unaffected object)
  rw [← merged]
  simp [shownObjects, and_assoc]

private theorem givesEntity_shownObjects_iff {object : TableObject} :
    object.GivesEntity (shownObjects objects) ↔ object.GivesEntity objects := by
  have unnamed : (∃ table ∈ shownObjects objects, table.isTable = true ∧ table.name = "") ↔
      ∃ table ∈ objects, table.isTable = true ∧ table.name = "" := by
    rw [exists_shownObjects_iff fun _ => Iff.rfl]
    constructor
    · rintro ⟨table, member, -, isUnnamed⟩
      exact ⟨table, member, isUnnamed⟩
    · rintro ⟨table, member, isTable, noName⟩
      have shown : table.isCue = false := by
        rw [TableObject.isCue_of_isTable isTable, noName]
        decide
      exact ⟨table, member, shown, isTable, noName⟩
  rw [TableObject.GivesEntity, unnamed, TableObject.GivesEntity]

namespace Diagram

theorem mem_entityNames_assemble :
    name ∈ (ofSchema (.assemble project objects warnings)).entityNames ↔
      ∃ object ∈ objects, object.isCue = false ∧
        object.GivesEntity objects ∧ lowercase object.entityName = name := by
  rw [mem_entityNames_iff]
  simp only [Schema.assemble, givesEntity_shownObjects_iff]
  exact exists_shownObjects_iff fun _ => Iff.rfl

theorem mem_edgeKeys_assemble (noCue : NoCueExtension objects) :
    key ∈ (ofSchema (.assemble project objects warnings)).edgeKeys ↔
      (∃ relation ∈ relationsOf (withoutCues objects), relation.diagramKey = key) ∧
        key.1 ∈ (ofSchema (.assemble project objects warnings)).entityNames ∧
        key.2.1 ∈ (ofSchema (.assemble project objects warnings)).entityNames := by
  have unmerged : (∃ relation ∈ relationsOf (shownObjects objects), relation.diagramKey = key) ↔
      ∃ relation ∈ relationsOf (withoutCues objects), relation.diagramKey = key := by
    rw [shownObjects_eq_mergeExtensions noCue]
    apply exists_relation_mergeExtensions_iff
    intro left right same
    rw [Relation.diagramKey_eq_of_folded_eq same]
  rw [mem_edgeKeys_iff, ← unmerged]
  rfl

/-- More objects give more entities, unless a table without a name is among them. -/
theorem entityNames_subset (subset : objects ⊆ more)
    (named : ∀ table ∈ more, table.isTable = true → table.name = "" → table ∈ objects) :
    (ofSchema (.assemble project objects warnings)).entityNames ⊆
      (ofSchema (.assemble otherProject more otherWarnings)).entityNames := by
  intro name member
  obtain ⟨object, objectMember, notCue, gives, isNamed⟩ := mem_entityNames_assemble.mp member
  have givesMore : object.GivesEntity more := by
    rcases gives with isTable | hasBase | noUnnamed
    · exact .inl isTable
    · exact .inr (.inl hasBase)
    · right; right
      rintro ⟨table, tableMember, isTable, noName⟩
      exact noUnnamed ⟨table, named table tableMember isTable noName, isTable, noName⟩
  exact mem_entityNames_assemble.mpr ⟨object, subset objectMember, notCue, givesMore, isNamed⟩

/-- More objects give more edges, under the same condition, if no extension is
named like a cue table. -/
theorem edgeKeys_subset (subset : objects ⊆ more) (noCue : NoCueExtension more)
    (named : ∀ table ∈ more, table.isTable = true → table.name = "" → table ∈ objects) :
    (ofSchema (.assemble project objects warnings)).edgeKeys ⊆
      (ofSchema (.assemble otherProject more otherWarnings)).edgeKeys := by
  intro key member
  have noCueBefore : NoCueExtension objects := fun object objectMember =>
    noCue object (subset objectMember)
  obtain ⟨⟨relation, derived, isKey⟩, source, target⟩ :=
    (mem_edgeKeys_assemble noCueBefore).mp member
  obtain ⟨object, objectMember, field, declared⟩ := mem_relationsOf.mp derived
  obtain ⟨present, shown⟩ := mem_withoutCues.mp objectMember
  have derivedMore : relation ∈ relationsOf (withoutCues more) :=
    mem_relationsOf.mpr ⟨object, mem_withoutCues.mpr ⟨subset present, shown⟩, field, declared⟩
  have entities : (ofSchema (.assemble project objects warnings)).entityNames ⊆
      (ofSchema (.assemble otherProject more otherWarnings)).entityNames :=
    entityNames_subset subset named
  exact (mem_edgeKeys_assemble noCue).mpr
    ⟨⟨relation, derivedMore, isKey⟩, entities source, entities target⟩

end Diagram

end Assembled

/-! ## Other orders and more files -/

theorem Schema.declaredObjects_subset (common : NamePrefix) {sources more : Sources}
    (subset : sources.files ⊆ more.files) :
    declaredObjects common sources ⊆ declaredObjects common more := by
  intro object member
  obtain ⟨file, fileMember, inFile⟩ := List.mem_flatMap.mp member
  exact List.mem_flatMap.mpr ⟨file, subset fileMember, inFile⟩

namespace Diagram

theorem ofSources_subset (common : NamePrefix) {sources more : Sources}
    (subset : sources.files ⊆ more.files)
    (noCue : NoCueExtension (Schema.declaredObjects common more))
    (named : ∀ table ∈ Schema.declaredObjects common more,
      table.isTable = true → table.name = "" → table ∈ Schema.declaredObjects common sources) :
    let diagram := ofSchema (.ofSources common sources)
    let other := ofSchema (.ofSources common more)
    diagram.entityNames ⊆ other.entityNames ∧ diagram.edgeKeys ⊆ other.edgeKeys := by
  intro diagram other
  have objects := Schema.declaredObjects_subset common subset
  exact ⟨entityNames_subset objects named, edgeKeys_subset objects noCue named⟩

/-- The order of the files decides neither the entities nor the edges, as long as
no extension is named like a cue table.  It may decide which fields an entity
shows, and which manifest and warnings come with the files does not matter. -/
theorem ofSources_files_perm (common : NamePrefix) {sources reordered : Sources}
    (permutation : sources.files.Perm reordered.files)
    (noCue : NoCueExtension (Schema.declaredObjects common sources)) :
    let diagram := ofSchema (.ofSources common sources)
    let other := ofSchema (.ofSources common reordered)
    (∀ name, name ∈ diagram.entityNames ↔ name ∈ other.entityNames) ∧
      ∀ key, key ∈ diagram.edgeKeys ↔ key ∈ other.edgeKeys := by
  intro diagram other
  have forth := Schema.declaredObjects_subset common permutation.subset
  have back := Schema.declaredObjects_subset common permutation.symm.subset
  have noCueOther : NoCueExtension (Schema.declaredObjects common reordered) :=
    fun object member => noCue object (back member)
  obtain ⟨entities, edges⟩ :=
    ofSources_subset common permutation.subset noCueOther fun _ table _ _ => back table
  obtain ⟨entitiesBack, edgesBack⟩ :=
    ofSources_subset common permutation.symm.subset noCue fun _ table _ _ => forth table
  constructor
  · intro name
    exact ⟨fun member => entities member, fun member => entitiesBack member⟩
  · intro key
    exact ⟨fun member => edges member, fun member => edgesBack member⟩

/-- A table and two extensions of it whose fields differ in name by case only. -/
def competingSources : Sources :=
  (TextFiles.ofList [("a.al", "table 1 A \x7b \x7d"),
    ("b.al", "tableextension 2 B extends A \x7b fields \x7b field(1; X; Integer)" ++
      "\x7b TableRelation = A; \x7d \x7d \x7d"),
    ("c.al", "tableextension 3 C extends a \x7b fields \x7b field(2; x; Integer)" ++
      "\x7b TableRelation = A; \x7d \x7d \x7d")]).sources

/-- The table shows only the field of the extension that comes first, but the
fields of both are edges in either order. -/
theorem ofSources_files_perm_competing :
    let reversed := { competingSources with files := competingSources.files.reverse }
    let diagram := ofSchema (.ofSources .none competingSources)
    let other := ofSchema (.ofSources .none reversed)
    competingSources.files.Perm reversed.files ∧
      NoCueExtension (Schema.declaredObjects .none competingSources) ∧
      diagram.entities.map (fun entity => entity.fields.map (·.name)) = [["X"]] ∧
      other.entities.map (fun entity => entity.fields.map (·.name)) = [["x"]] ∧
      ("a", "a", "x") ∈ diagram.edgeKeys ∧ ("a", "a", "x") ∈ other.edgeKeys := by
  intro reversed diagram other
  have permutation : competingSources.files.Perm reversed.files :=
    (List.reverse_perm _).symm
  obtain ⟨noCue, fields, otherFields, edge⟩ :
      NoCueExtension (Schema.declaredObjects .none competingSources) ∧
        diagram.entities.map (fun entity => entity.fields.map (·.name)) = [["X"]] ∧
        other.entities.map (fun entity => entity.fields.map (·.name)) = [["x"]] ∧
        ("a", "a", "x") ∈ diagram.edgeKeys := by
    decide +kernel
  obtain ⟨-, edges⟩ := ofSources_files_perm .none permutation noCue
  exact ⟨permutation, noCue, fields, otherFields, edge, (edges _).mp edge⟩

/-- Further files add to the entities and to the edges, as long as they leave no
extension named like a cue table and no table without a name. -/
theorem ofSources_files_subset (common : NamePrefix) {files more : TextFiles}
    (added : files.entries ⊆ more.entries)
    (noCue : NoCueExtension (Schema.declaredObjects common more.sources))
    (named : ∀ object ∈ Schema.declaredObjects common more.sources,
      object.isTable = true → object.name ≠ "") :
    let diagram := ofSchema (.ofSources common files.sources)
    let other := ofSchema (.ofSources common more.sources)
    diagram.entityNames ⊆ other.entityNames ∧ diagram.edgeKeys ⊆ other.edgeKeys := by
  intro diagram other
  exact ofSources_subset common (List.map_subset _ added) noCue
    fun table member isTable noName => absurd noName (named table member isTable)

/-- An extension of a table outside the project. -/
def outsideFiles : TextFiles :=
  .ofList [("b.al", "tableextension 2 B extends A \x7b fields \x7b field(1; X; Integer)" ++
    "\x7b TableRelation = A; \x7d \x7d \x7d")]

/-- Once the table itself is added, its own field of the same name is shown in
place of the foreign key, which is still an edge. -/
theorem ofSources_files_subset_outside :
    let more := outsideFiles.put "a.al"
      "table 1 a \x7b fields \x7b field(3; x; Integer) \x7d \x7d"
    let diagram := ofSchema (.ofSources .none outsideFiles.sources)
    let other := ofSchema (.ofSources .none more.sources)
    outsideFiles.entries ⊆ more.entries ∧
      NoCueExtension (Schema.declaredObjects .none more.sources) ∧
      (∀ object ∈ Schema.declaredObjects .none more.sources,
        object.isTable = true → object.name ≠ "") ∧
      other.entities.map (fun entity => entity.fields.map (·.isForeignKey)) = [[false]] ∧
      ("a", "a", "X") ∈ diagram.edgeKeys ∧ ("a", "a", "X") ∈ other.edgeKeys := by
  intro more diagram other
  have added : outsideFiles.entries ⊆ more.entries :=
    TextFiles.entries_subset_put (by decide +kernel) _
  obtain ⟨noCue, named, shown, edge⟩ :
      NoCueExtension (Schema.declaredObjects .none more.sources) ∧
        (∀ object ∈ Schema.declaredObjects .none more.sources,
          object.isTable = true → object.name ≠ "") ∧
        other.entities.map (fun entity => entity.fields.map (·.isForeignKey)) = [[false]] ∧
        ("a", "a", "X") ∈ diagram.edgeKeys := by
    decide +kernel
  obtain ⟨-, edges⟩ := ofSources_files_subset .none added noCue named
  exact ⟨added, noCue, named, shown, edge, edges edge⟩

end Diagram

end TableAtlas
