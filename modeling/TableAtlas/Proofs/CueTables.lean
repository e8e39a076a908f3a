import TableAtlas.Proofs.DiagramGraph
import TableAtlas.Proofs.DistinctItems
import TableAtlas.Proofs.MergedFields
import TableAtlas.Schema.Assembly

/-!
# Schemas without cue tables

Whether a name is that of a cue table depends only on its lowercase form.  An
assembled schema leaves out cue tables, what extends them and what refers to
them, so neither the schema nor its diagram mentions one.

Cue tables are left out after the extensions have been merged.  Leaving them out
before would give the same objects, provided that no extension is itself named
like a cue table: the fields of such an extension reach the table that it
extends, although the extension is not shown.  Nothing else of an object that is
left out remains.
-/

namespace TableAtlas

open TableAtlas.Text TableAtlas.Source

/-! ## Nothing mentions a cue table -/

/-- Neither end of the relation is a cue table. -/
def Relation.CueFree (relation : Relation) : Prop :=
  isCueName relation.sourceEntity = false ∧ isCueName relation.targetEntity = false

/-- No object of the schema is a cue table or contributes to one, and no relation
has one at its ends. -/
structure Schema.CueFree (schema : Schema) : Prop where
  objects : ∀ object ∈ schema.objects,
    isCueName object.name = false ∧ isCueName object.entityName = false
  relations : ∀ relation ∈ schema.relations, relation.CueFree

/-- No cue table is an entity of the diagram, stands at the end of a relation or
is found by its name. -/
structure Diagram.CueFree (diagram : Diagram) : Prop where
  entities : ∀ entity ∈ diagram.entities, isCueName entity.name = false
  relations : ∀ relation ∈ diagram.relations, relation.CueFree
  absent : ∀ name, isCueName name = true → diagram.entity? name = none

theorem cueFree_of_mem_relationsOf {objects : List TableObject} {relation : Relation}
    (shown : ∀ object ∈ objects, object.isCue = false)
    (member : relation ∈ relationsOf objects) : relation.CueFree := by
  obtain ⟨object, objectMember, field, -, derived⟩ := mem_relationsOf.mp member
  obtain ⟨-, -, targetNotCue, rfl⟩ := TableObject.relation?_eq_some_iff.mp derived
  exact ⟨(TableObject.isCue_eq_false_iff.mp (shown object objectMember)).2, targetNotCue⟩

theorem isCue_of_mem_shownObjects {objects : List TableObject} {object : TableObject}
    (member : object ∈ shownObjects objects) : object.isCue = false := by
  simpa using (List.mem_filter.mp member).2

namespace Schema

theorem cueFree_assemble (project : ProjectInfo) (objects : List TableObject)
    (warnings : List String) : (assemble project objects warnings).CueFree where
  objects _ member := TableObject.isCue_eq_false_iff.mp (isCue_of_mem_shownObjects member)
  relations _ member := cueFree_of_mem_relationsOf (fun _ => isCue_of_mem_shownObjects) member

end Schema

namespace Diagram

theorem entity?_eq_none_of_isCueName {diagram : Diagram} {name : String}
    (entities : ∀ entity ∈ diagram.entities, isCueName entity.name = false)
    (isCue : isCueName name = true) : diagram.entity? name = none := by
  apply List.find?_eq_none.mpr
  intro entity member found
  have same : lowercase entity.name = lowercase name := by simpa using found
  rw [← isCueName_eq_of_lowercase_eq same, entities entity member] at isCue
  exact absurd isCue (by decide)

theorem cueFree_ofSchema {schema : Schema} (free : schema.CueFree) :
    (ofSchema schema).CueFree := by
  have entities : ∀ entity ∈ (ofSchema schema).entities, isCueName entity.name = false := by
    intro entity member
    obtain ⟨object, objectMember, rfl⟩ := List.mem_map.mp member
    have candidate := mem_of_mem_distinctBy objectMember
    exact (free.objects object (Schema.mem_of_mem_candidates candidate)).2
  refine ⟨entities, ?_, fun name => entity?_eq_none_of_isCueName entities⟩
  intro relation member
  exact free.relations relation (List.mem_filter.mp (mem_of_mem_distinctBy member)).1

/-- Neither the schema of a project nor its diagram mentions a cue table. -/
theorem cueFree_ofSources (common : NamePrefix) (sources : Sources) :
    (Schema.ofSources common sources).CueFree ∧
      (ofSchema (.ofSources common sources)).CueFree := by
  have schemaFree : (Schema.ofSources common sources).CueFree :=
    Schema.cueFree_assemble ..
  exact ⟨schemaFree, cueFree_ofSchema schemaFree⟩

/-- A cue table, an extension of it and a reference to it, in different spellings. -/
def cueSources : Sources :=
  (TextFiles.ofList [("a.al",
    "table 1 \"Sales Cue\" \x7b fields \x7b field(1; X; Integer) \x7d \x7d" ++
    "tableextension 2 B extends \"SALES CUE\" \x7b \x7d" ++
    "table 3 A \x7b fields \x7b field(2; Y; Integer)" ++
    "\x7b TableRelation = \"Sales cue\"; \x7d \x7d \x7d")]).sources

theorem cueFree_cueSources :
    let schema := Schema.ofSources .none cueSources
    schema.objects.map (·.name) = ["A"] ∧
      schema.objects.map (fun object => object.fields.map (·.relatedEntity)) = [["Sales cue"]] ∧
      schema.relations = [] ∧ (ofSchema schema).entity? "sales CUE" = none := by
  intro schema
  have shown : schema.objects.map (·.name) = ["A"] ∧
      schema.objects.map (fun object => object.fields.map (·.relatedEntity)) = [["Sales cue"]] ∧
      schema.relations = [] := by
    decide +kernel
  have absent := (cueFree_ofSources .none cueSources).2.absent "sales CUE" (by decide +kernel)
  exact ⟨shown.1, shown.2.1, shown.2.2, absent⟩

end Diagram

/-! ## First tables -/

/-- The tables of a list that receive the fields of extensions. -/
def firstTables (objects : List TableObject) : List TableObject :=
  distinctBy (fun table => lowercase table.name) (objects.filter (·.isTable))

theorem forall_mem_firstTables_cons {holds : TableObject → Prop} (object : TableObject)
    (list : List TableObject) (earlier : List String) :
    (∀ table ∈ firstTables (object :: list), lowercase table.name ∉ earlier → holds table) ↔
      (object.isTable = true → lowercase object.name ∉ earlier → holds object) ∧
        ∀ table ∈ firstTables list, lowercase table.name ∉ namesAfter earlier object →
          holds table := by
  by_cases isTable : object.isTable = true
  · have tables : firstTables (object :: list) = object :: (firstTables list).filter fun table =>
        decide (lowercase table.name ≠ lowercase object.name) := by
      rw [firstTables, List.filter_cons_of_pos isTable, distinctBy, firstTables]
    simp [tables, mem_namesAfter, isTable]
  · have tables : firstTables (object :: list) = firstTables list := by
      rw [firstTables, List.filter_cons_of_neg isTable, firstTables]
    simp [tables, mem_namesAfter, isTable]

/-- Extensions of two lists are merged alike if each first table receives the same
fields from both. -/
theorem mergeAfter_eq_iff {objects others : List TableObject} {earlier : List String}
    (list : List TableObject) :
    mergeAfter objects earlier list = mergeAfter others earlier list ↔
      ∀ table ∈ firstTables list, lowercase table.name ∉ earlier →
        table.withContributions objects = table.withContributions others := by
  induction list generalizing earlier with
  | nil => simp [mergeAfter, firstTables, distinctBy]
  | cons object list induction =>
      have step : mergedAfter objects earlier object = mergedAfter others earlier object ↔
          (object.isTable = true → lowercase object.name ∉ earlier →
            object.withContributions objects = object.withContributions others) := by
        by_cases first : object.isTable = true ∧ lowercase object.name ∉ earlier
        · simp [mergedAfter, first]
        · simp only [mergedAfter, if_neg first, true_iff]
          exact fun isTable unseen => absurd ⟨isTable, unseen⟩ first
      rw [mergeAfter_cons, mergeAfter_cons, List.cons.injEq, step, induction,
        forall_mem_firstTables_cons]

/-! ## Leaving out before merging -/

section Filtered

variable {objects : List TableObject}

theorem mergedAfter_isCue (objects : List TableObject) (earlier : List String)
    (object : TableObject) : (mergedAfter objects earlier object).isCue = object.isCue := by
  unfold mergedAfter
  split <;> rfl

/-- The objects that are no cue tables and contribute to none. -/
def withoutCues (objects : List TableObject) : List TableObject :=
  objects.filter fun object => !object.isCue

theorem mem_withoutCues {object : TableObject} :
    object ∈ withoutCues objects ↔ object ∈ objects ∧ object.isCue = false := by
  simp [withoutCues]

theorem withoutCues_cons_of_isCue {object : TableObject} (isCue : object.isCue = true) :
    withoutCues (object :: objects) = withoutCues objects := by
  simp [withoutCues, isCue]

theorem withoutCues_cons_of_not_isCue {object : TableObject} (shown : object.isCue = false) :
    withoutCues (object :: objects) = object :: withoutCues objects := by
  simp [withoutCues, shown]

private theorem mergedAfter_congr {earlier seen : List String} {object : TableObject}
    (agree : lowercase object.name ∈ earlier ↔ lowercase object.name ∈ seen) :
    mergedAfter objects earlier object = mergedAfter objects seen object := by
  simp only [mergedAfter, agree]

/-- Of the names passed, only those matter that are not of cue tables. -/
private theorem withoutCues_mergeAfter {earlier seen : List String} {list : List TableObject}
    (agree : ∀ name, isCueName name = false →
      (lowercase name ∈ earlier ↔ lowercase name ∈ seen)) :
    withoutCues (mergeAfter objects earlier list) =
      mergeAfter objects seen (withoutCues list) := by
  induction list generalizing earlier seen with
  | nil => rfl
  | cons object list induction =>
      rw [mergeAfter_cons]
      by_cases isCue : object.isCue = true
      · -- The object is dropped, and its name is not that of an object that stays.
        have agreeLater : ∀ name, isCueName name = false →
            (lowercase name ∈ namesAfter earlier object ↔ lowercase name ∈ seen) := by
          intro name notCue
          have different : ¬(object.isTable = true ∧ lowercase name = lowercase object.name) := by
            rintro ⟨isTable, same⟩
            rw [TableObject.isCue_of_isTable isTable, ← same, ← isCueName, notCue] at isCue
            exact absurd isCue (by decide)
          rw [mem_namesAfter, or_iff_right different, agree name notCue]
        rw [withoutCues_cons_of_isCue ((mergedAfter_isCue ..).trans isCue),
          withoutCues_cons_of_isCue isCue]
        exact induction agreeLater
      · have shown : object.isCue = false := by simpa using isCue
        have notCue := (TableObject.isCue_eq_false_iff.mp shown).1
        have agreeLater : ∀ name, isCueName name = false →
            (lowercase name ∈ namesAfter earlier object ↔
              lowercase name ∈ namesAfter seen object) := by
          intro name nameNotCue
          rw [mem_namesAfter, mem_namesAfter, agree name nameNotCue]
        rw [withoutCues_cons_of_not_isCue ((mergedAfter_isCue ..).trans shown),
          withoutCues_cons_of_not_isCue shown, mergeAfter_cons,
          mergedAfter_congr (agree object.name notCue), induction agreeLater]

/-- The objects shown are those that stay, with the fields of all extensions. -/
theorem shownObjects_eq_mergeAfter (objects : List TableObject) :
    shownObjects objects = mergeAfter objects [] (withoutCues objects) :=
  withoutCues_mergeAfter fun _ _ => Iff.rfl

theorem isCueName_of_mem_firstTables_withoutCues {table : TableObject}
    (member : table ∈ firstTables (withoutCues objects)) : isCueName table.name = false := by
  have present := (List.mem_filter.mp (mem_of_mem_distinctBy member)).1
  exact (TableObject.isCue_eq_false_iff.mp (mem_withoutCues.mp present).2).1

/-! ## Contributions of what is left out -/

/-- The objects that do not contribute to a cue table. -/
def withoutCueEntities (objects : List TableObject) : List TableObject :=
  objects.filter fun object => !isCueName object.entityName

/-- An object without its fields. -/
def TableObject.fieldless (object : TableObject) : TableObject :=
  { object with fields := [] }

theorem withoutCues_withoutCueEntities (objects : List TableObject) :
    withoutCues (withoutCueEntities objects) = withoutCues objects := by
  apply filter_filter_eq
  intro object _ shown
  have notCue : object.isCue = false := by simpa using shown
  simp [(TableObject.isCue_eq_false_iff.mp notCue).2]

theorem contributedFields_withoutCueEntities {name : String} (notCue : isCueName name = false) :
    contributedFields (withoutCueEntities objects) name = contributedFields objects name := by
  have same : (withoutCueEntities objects).filter (·.extendsTable name) =
      objects.filter (·.extendsTable name) := by
    apply filter_filter_eq
    intro object _ extended
    have sameEntity := TableObject.lowercase_entityName_of_extendsTable extended
    simp [isCueName_eq_of_lowercase_eq sameEntity, notCue]
  rw [contributedFields, same, contributedFields]

theorem map_fieldless_mergeAfter (earlier : List String) (list : List TableObject) :
    (mergeAfter objects earlier list).map (·.fieldless) = list.map (·.fieldless) := by
  induction list generalizing earlier with
  | nil => rfl
  | cons object list induction =>
      have same : (mergedAfter objects earlier object).fieldless = object.fieldless := by
        unfold mergedAfter
        split <;> rfl
      rw [mergeAfter_cons, List.map_cons, List.map_cons, same, induction]

/-- What is left out leaves a trace only in the fields of a table that has an
extension named like a cue table: a cue table itself and its extensions could be
left out before the merge, and so could all of them if each first table that
stays receives the same fields from its extensions as from those that stay. -/
theorem shownObjects_trace (objects : List TableObject) :
    shownObjects objects = withoutCues (mergeExtensions (withoutCueEntities objects)) ∧
      (shownObjects objects).map (·.fieldless) =
        (mergeExtensions (withoutCues objects)).map (·.fieldless) ∧
      (shownObjects objects = mergeExtensions (withoutCues objects) ↔
        ∀ table ∈ firstTables (withoutCues objects),
          table.withContributions objects =
            table.withContributions (withoutCues objects)) := by
  have others := shownObjects_eq_mergeAfter (withoutCueEntities objects)
  rw [withoutCues_withoutCueEntities] at others
  refine ⟨?_, ?_, ?_⟩
  · have sameFields : mergeAfter objects [] (withoutCues objects) =
        mergeAfter (withoutCueEntities objects) [] (withoutCues objects) := by
      refine (mergeAfter_eq_iff _).mpr fun table member _ => ?_
      have notCue := isCueName_of_mem_firstTables_withoutCues member
      rw [TableObject.withContributions, TableObject.withContributions,
        contributedFields_withoutCueEntities notCue]
    rw [shownObjects_eq_mergeAfter, sameFields]
    exact others.symm
  · rw [shownObjects_eq_mergeAfter, mergeExtensions, map_fieldless_mergeAfter,
      map_fieldless_mergeAfter]
  · rw [shownObjects_eq_mergeAfter, mergeExtensions, mergeAfter_eq_iff]
    simp

/-- A table with an extension that is named like a cue table. -/
def cueExtensionObjects : List TableObject :=
  TableObject.allIn .none "a.al"
    ("table 1 A \x7b \x7d tableextension 2 \"B Cue\" extends A \x7b fields" ++
      "\x7b field(1; X; Integer) \x7d \x7d")

/-- The extension is left out, but the field that it alone declares stays. -/
theorem shownObjects_ne_mergeExtensions :
    shownObjects cueExtensionObjects ≠ mergeExtensions (withoutCues cueExtensionObjects) ∧
      (shownObjects cueExtensionObjects).map
          (fun object => (object.name, object.fields.map (·.name))) = [("A", ["X"])] ∧
      (mergeExtensions (withoutCues cueExtensionObjects)).map
          (fun object => (object.name, object.fields.map (·.name))) = [("A", [])] := by
  decide +kernel

/-! ## Extensions that are not named like a cue table -/

/-- No extension is itself named like a cue table. -/
def NoCueExtension (objects : List TableObject) : Prop :=
  ∀ object ∈ objects, object.isExtension = true → isCueName object.name = false

instance (objects : List TableObject) : Decidable (NoCueExtension objects) :=
  inferInstanceAs (Decidable (∀ object ∈ objects, object.isExtension = true → _))

theorem isCue_of_extendsTable {extension : TableObject} {name : String}
    (plain : isCueName extension.name = false) (notCue : isCueName name = false)
    (extended : extension.extendsTable name = true) : extension.isCue = false := by
  have same := TableObject.lowercase_entityName_of_extendsTable extended
  exact TableObject.isCue_eq_false_iff.mpr
    ⟨plain, (isCueName_eq_of_lowercase_eq same).trans notCue⟩

private theorem contributedFields_withoutCues {name : String} (noCue : NoCueExtension objects)
    (notCue : isCueName name = false) :
    contributedFields (withoutCues objects) name = contributedFields objects name := by
  have same : (withoutCues objects).filter (·.extendsTable name) =
      objects.filter (·.extendsTable name) := by
    apply filter_filter_eq
    intro object member extended
    have isExtension := (TableObject.extendsTable_iff.mp extended).1
    simp [isCue_of_extendsTable (noCue object member isExtension) notCue extended]
  rw [contributedFields, contributedFields, same]

/-- Cue tables may as well be left out before the extensions are merged. -/
theorem shownObjects_eq_mergeExtensions (noCue : NoCueExtension objects) :
    shownObjects objects = mergeExtensions (withoutCues objects) := by
  rw [shownObjects_eq_mergeAfter]
  refine (mergeAfter_eq_iff _).mpr fun table member _ => ?_
  have notCue := isCueName_of_mem_firstTables_withoutCues member
  rw [TableObject.withContributions, TableObject.withContributions,
    contributedFields_withoutCues noCue notCue]

end Filtered

end TableAtlas
