import TableAtlas.Proofs.DeclaredGraph
import TableAtlas.Proofs.DiagramEdges
import TableAtlas.Proofs.StepwiseMerge

/-!
# Merged lists

Merging leaves a list as it is exactly if the first table of each name already has
a field for each name that its extensions declare.  This holds of a merged list, and
it still holds once cue tables are left out: all tables of one name stay or go
together, and with fewer extensions there is less to have.  So a schema is not
changed by merging its objects again.

Merging neither adds nor removes an edge between entities.  The relation of a field
that is gained differs from that of the extension's own field in the case of its
source only.
-/

namespace TableAtlas

open TableAtlas.Text TableAtlas.Source

/-! ## Nothing left to add -/

/-- The first table of each name has a field for each name that its extensions declare. -/
def IsMerged (objects : List TableObject) : Prop :=
  ∀ table ∈ firstTables objects, ∀ extension ∈ objects, extension.extendsTable table.name = true →
    ∀ field ∈ extension.fields, table.hasField field.name = true

section Merged

variable {objects : List TableObject} {table extension : TableObject} {field : Field}

theorem newFields_eq_nil_iff {fields additions : List Field} :
    newFields fields additions = [] ↔
      ∀ addition ∈ additions, addition.nameKey ∈ fields.map Field.nameKey := by
  rw [newFields, ← distinctBy_eq_firstItems, List.filter_eq_nil_iff]
  simp only [decide_eq_true_eq, Decidable.not_not]
  constructor
  · intro kept addition member
    obtain ⟨first, firstKept, same⟩ := exists_mem_distinctBy Field.nameKey member
    exact same ▸ kept first firstKept
  · intro taken addition kept
    exact taken addition (mem_of_mem_distinctBy kept)

/-- A table gains nothing if it has fields of all names that are contributed to it. -/
theorem withContributions_eq_self_iff :
    table.withContributions objects = table ↔
      ∀ field ∈ contributedFields objects table.name, table.hasField field.name = true := by
  have unchanged : table.withContributions objects = table ↔
      newFields table.fields (contributedFields objects table.name) = [] := by
    rw [withContributions_eq_gaining]
    constructor
    · intro same
      have fields := congrArg TableObject.fields same
      exact List.append_right_eq_self.mp fields
    · intro nothing
      rw [TableObject.gaining, nothing, List.append_nil]
  rw [unchanged, newFields_eq_nil_iff]
  simp only [TableObject.hasField, any_sameName_iff]

theorem mergeExtensions_eq_self_iff : mergeExtensions objects = objects ↔ IsMerged objects := by
  have unmerged : mergeExtensions objects = mergeAfter [] [] objects ↔
      ∀ table ∈ firstTables objects, lowercase table.name ∉ ([] : List String) →
        table.withContributions objects = table.withContributions [] :=
    mergeAfter_eq_iff objects
  rw [mergeAfter_nil] at unmerged
  rw [unmerged]
  apply forall₂_congr
  intro table _
  have alone : table.withContributions [] = table := rfl
  rw [alone, withContributions_eq_self_iff]
  simp only [mem_contributedFields]
  constructor
  · intro has extension member extended field declared
    exact has (by simp) field ⟨extension, member, extended, declared⟩
  · rintro has - field ⟨extension, member, extended, declared⟩
    exact has extension member extended field declared

theorem find?_of_mem_firstTables (member : table ∈ firstTables objects) :
    objects.find? (fun object => object.isTable && lowercase object.name == lowercase table.name) =
      some table := by
  have isTable := (List.mem_filter.mp (mem_of_mem_distinctBy member)).2
  obtain ⟨found, search⟩ : ∃ found, (firstTables objects).find?
      (fun other => lowercase other.name == lowercase table.name) = some found :=
    Option.isSome_iff_exists.mp (List.find?_isSome.mpr ⟨table, member, by simp⟩)
  have same : lowercase found.name = lowercase table.name := by
    simpa using List.find?_some search
  have isFirst : found = table :=
    eq_of_mem_distinctBy (List.mem_of_find?_eq_some search) member same
  rw [firstTables, find?_distinctBy, isFirst] at search
  rw [← search]
  exact (find?_filter_eq _ objects fun _ => rfl).symm

/-- A table with the fields of all extensions has those of the extensions in a merged list. -/
private theorem hasField_withContributions (member : extension ∈ mergeExtensions objects)
    (extended : extension.extendsTable table.name = true) (declared : field ∈ extension.fields) :
    (table.withContributions objects).hasField field.name = true := by
  have isExtension := (TableObject.extendsTable_iff.mp extended).1
  have original := mem_of_mem_mergeExtensions_of_isExtension isExtension member
  exact List.any_eq_true.mpr
    (TableObject.exists_sameName_withContributions original extended declared)

theorem isMerged_mergeExtensions (objects : List TableObject) :
    IsMerged (mergeExtensions objects) := by
  intro table first extension member extended field declared
  have found := find?_of_mem_firstTables first
  rw [find?_mergeExtensions] at found
  obtain ⟨original, -, rfl⟩ := Option.map_eq_some_iff.mp found
  exact hasField_withContributions member extended declared

theorem isMerged_shownObjects (objects : List TableObject) : IsMerged (shownObjects objects) := by
  intro table first extension member extended field declared
  obtain ⟨original, -, rfl⟩ := find?_shownObjects (find?_of_mem_firstTables first)
  exact hasField_withContributions (List.mem_filter.mp member).1 extended declared

end Merged

/-- Merging twice is merging once, and a schema shows objects that are merged and the
relations that they give. -/
theorem mergeExtensions_fixed :
    (∀ objects : List TableObject,
        mergeExtensions (mergeExtensions objects) = mergeExtensions objects) ∧
      ∀ (common : NamePrefix) (sources : Sources),
        let schema := Schema.ofSources common sources
        mergeExtensions schema.objects = schema.objects ∧
          relationsOf schema.objects = schema.relations := by
  constructor
  · intro objects
    exact mergeExtensions_eq_self_iff.mpr (isMerged_mergeExtensions objects)
  · intro common sources schema
    exact ⟨mergeExtensions_eq_self_iff.mpr (isMerged_shownObjects _), rfl⟩

/-! ## The same edges -/

theorem relations_sublist_withContributions (contributors : List TableObject)
    (object : TableObject) :
    object.relations.Sublist (object.withContributions contributors).relations := by
  have gained : (object.withContributions contributors).relations = object.relations ++
      (newFields object.fields (contributedFields contributors object.name)).filterMap
        object.relation? := by
    rw [withContributions_eq_gaining]
    exact List.filterMap_append
  rw [gained]
  exact List.sublist_append_left ..

/-- No relation is lost or moved. -/
theorem relationsOf_sublist_mergeAfter (contributors : List TableObject) (earlier : List String)
    (list : List TableObject) :
    (relationsOf list).Sublist (relationsOf (mergeAfter contributors earlier list)) := by
  induction list generalizing earlier with
  | nil => exact .slnil
  | cons object list induction =>
      have kept : object.relations.Sublist (mergedAfter contributors earlier object).relations := by
        rcases mergedAfter_eq contributors earlier object with same | ⟨-, merged⟩
        · exact same.symm ▸ List.Sublist.refl object.relations
        · rw [merged]
          exact relations_sublist_withContributions contributors object
      rw [mergeAfter_cons]
      exact kept.append (induction _)

/-- Merging keeps all relations and adds none between other ends: up to the case in which
their sources are spelled, the relations before and after it are the same. -/
theorem folded_relations_mergeExtensions (objects : List TableObject) :
    (relationsOf objects).Sublist (relationsOf (mergeExtensions objects)) ∧
      ∀ edge, edge ∈ (relationsOf (mergeExtensions objects)).map Relation.folded ↔
        edge ∈ (relationsOf objects).map Relation.folded := by
  refine ⟨relationsOf_sublist_mergeAfter objects [] objects, fun edge => ?_⟩
  rw [List.mem_map, List.mem_map]
  apply exists_relation_mergeExtensions_iff
  intro left right same
  rw [same]

end TableAtlas
