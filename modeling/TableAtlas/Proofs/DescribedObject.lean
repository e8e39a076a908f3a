import TableAtlas.Proofs.DiagramGraph
import TableAtlas.Schema.Assembly
import TableAtlas.Schema.Description

/-!
# The described object

A query that is no number asks for an entity.  The object that it finds is the one
that the diagram shows as this entity, unless there is a table without a name.

The description of an object lists the extensions of its entity, but tells them
from the object itself by their ids.  Ids are given per kind of object, so an
extension may have the id of the table that it extends, and then it is missing.
-/

namespace TableAtlas

open TableAtlas.Text TableAtlas.Source

/-! ## The object that is found -/

namespace Schema

variable {schema : Schema} {name : String}

theorem not_mem_tableNames_of_find?_eq_none {object : TableObject}
    (named : ∀ table ∈ schema.objects, table.isTable = true → table.name ≠ "")
    (noTable : schema.objects.find?
      (fun table => table.isTable && lowercase table.name == lowercase name) = none)
    (isExtension : object.isExtension = true)
    (ofEntity : lowercase object.entityName = lowercase name) :
    lowercase object.base ∉ schema.tableNames := by
  intro inside
  obtain ⟨table, member, isTable, same⟩ := mem_tableNames.mp inside
  by_cases noBase : object.base = ""
  · rw [noBase, lowercase_empty, lowercase_eq_empty_iff] at same
    exact named table member isTable same
  · rw [TableObject.entityName_of_base isExtension noBase, ← same] at ofEntity
    have different := List.find?_eq_none.mp noTable table member
    exact different (by simp [isTable, ofEntity])

/-- The object of a name is the one that the diagram shows, if all tables are named. -/
theorem objectNamed?_eq_shownFor?
    (named : ∀ table ∈ schema.objects, table.isTable = true → table.name ≠ "") :
    schema.objectNamed? name = schema.shownFor? name := by
  rw [objectNamed?, shownFor?, find?_candidates]
  cases tables : schema.objects.find?
      (fun object => object.isTable && lowercase object.name == lowercase name) with
  | some table => rfl
  | none =>
      have extendsOutside : ∀ object ∈ schema.objects,
          (object.isExtension && lowercase object.entityName == lowercase name) =
            ((object.isExtension && !schema.tableNames.contains (lowercase object.base)) &&
              lowercase object.entityName == lowercase name) := by
        intro object _
        by_cases isExtension : object.isExtension = true
        · by_cases ofEntity : lowercase object.entityName = lowercase name
          · have outside :=
              not_mem_tableNames_of_find?_eq_none named tables isExtension ofEntity
            simp [isExtension, ofEntity, outside]
          · rw [beq_eq_false_iff_ne.mpr ofEntity, Bool.and_false, Bool.and_false]
        · simp [isExtension]
      rw [Option.none_or, Option.none_or, ← List.head?_filter, ← List.head?_filter,
        List.filter_congr extendsOutside]

end Schema

namespace Diagram

/-- A query that is no number finds an object exactly if the diagram has an entity of
that name, and then the entity shows this object. -/
theorem entity?_eq_map_find? {schema : Schema} (query : String)
    (named : ∀ table ∈ schema.objects, table.isTable = true → table.name ≠ "")
    (noId : queryId? (trim query.toList) = none) :
    (ofSchema schema).entity? (String.ofList (trim query.toList)) =
      (schema.find? query).map (·.toEntity) := by
  have found : schema.find? query =
      schema.shownFor? (String.ofList (trim query.toList)) := by
    rw [Schema.find?, noId]
    exact Schema.objectNamed?_eq_shownFor? named
  rw [entity?_ofSchema, found]

/-- A table that is declared twice and extended before, and an extension of no table.  Some
of the fields have captions, and one refers to another table. -/
def repeatedSchema : Schema :=
  { Schema.empty with
    objects :=
      [⟨1, "Ext", "", .tableExtension, "ITEM",
          [⟨50, "Grade", "Code[1]", "", .normal, "", false, false, "", ""⟩], [], ""⟩,
        ⟨2, "Item", "Article", .table, "",
          [⟨1, "No.", "Code[20]", "Number", .normal, "", true, false, "", ""⟩,
            ⟨2, "Vendor No.", "Code[20]", "", .normal, "Vendor", false, true, "Vendor", ""⟩],
          [], ""⟩,
        ⟨3, "item", "", .table, "",
          [⟨1, "Code", "Code[10]", "", .normal, "", true, false, "", ""⟩], [], ""⟩,
        ⟨4, "Orphan", "", .tableExtension, "",
          [⟨60, "Note", "Text[50]", "Remark", .normal, "", false, false, "", ""⟩], [], ""⟩] }

theorem entity?_eq_map_find?_repeated :
    let diagram := ofSchema repeatedSchema
    (∀ table ∈ repeatedSchema.objects, table.isTable = true → table.name ≠ "") ∧
      queryId? (trim " iTem ".toList) = none ∧
      (repeatedSchema.find? " iTem ").map (·.id) = some 2 ∧
      diagram.entity? "iTem" = some ⟨"Item", "Article",
        [⟨"No.", "Number", "Code[20]", true, false⟩,
          ⟨"Vendor No.", "Vendor No.", "Code[20]", false, true⟩]⟩ ∧
      diagram.entity? "ORPHAN" = some ⟨"Orphan", "Orphan",
        [⟨"Note", "Remark", "Text[50]", false, false⟩]⟩ ∧
      diagram.entity? "Ext" = none := by
  intro diagram
  have named : ∀ table ∈ repeatedSchema.objects, table.isTable = true → table.name ≠ "" := by
    decide
  obtain ⟨noId, noIdOrphan, noIdExt⟩ : queryId? (trim " iTem ".toList) = none ∧
      queryId? (trim "ORPHAN".toList) = none ∧ queryId? (trim "Ext".toList) = none := by
    decide +kernel
  refine ⟨named, noId, by decide +kernel, ?_, ?_, ?_⟩
  · exact (entity?_eq_map_find? " iTem " named noId).trans (by decide +kernel)
  · exact (entity?_eq_map_find? "ORPHAN" named noIdOrphan).trans (by decide +kernel)
  · exact (entity?_eq_map_find? "Ext" named noIdExt).trans (by decide +kernel)

end Diagram

/-! ## The extensions that are listed -/

/-- Whether an object is an extension of the entity of another object. -/
def TableObject.contributesTo (extension object : TableObject) : Bool :=
  extension.isExtension && sameName extension.entityName object.entityName

namespace Description

variable {schema : Schema} {object : TableObject} {before after : List TableObject}

/-- The names of the objects among `others` that contribute to the entity of an object. -/
def contributorNames (object : TableObject) (others : List TableObject) : List String :=
  (others.filter (·.contributesTo object)).map (·.name)

/-- Of the contributors at other positions, those with the id of the object are not listed. -/
theorem extendedBy_ofObject (position : schema.objects = before ++ object :: after) :
    (ofObject schema object).extendedBy =
      contributorNames object ((before ++ after).filter fun other => other.id != object.id) := by
  have isListed : ∀ other : TableObject,
      isContributor object other = (other.contributesTo object && other.id != object.id) :=
    fun _ => rfl
  have notItself : isContributor object object = false := by simp [isContributor]
  have listed : schema.objects.filter (isContributor object) =
      (before ++ after).filter (isContributor object) := by
    rw [position, List.filter_append, List.filter_append, List.filter_cons_of_neg]
    rw [notItself]
    decide
  rw [ofObject, listed, contributorNames, List.filter_filter]
  exact congrArg (List.map _) (List.filter_congr fun other _ => isListed other)

/-- All contributors but the object itself are listed, in the order of the schema,
exactly if none of them has the id of the object. -/
theorem extendedBy_eq_contributorNames_iff
    (position : schema.objects = before ++ object :: after) :
    (ofObject schema object).extendedBy = contributorNames object (before ++ after) ↔
      ∀ other ∈ before ++ after, other.contributesTo object = true → other.id ≠ object.id := by
  rw [extendedBy_ofObject position]
  constructor
  · intro complete other member contributes
    have kept : ((before ++ after).filter fun other => other.id != object.id).filter
        (·.contributesTo object) = (before ++ after).filter (·.contributesTo object) := by
      apply (List.filter_sublist.filter _).eq_of_length
      simpa [contributorNames] using congrArg List.length complete
    have listed : other ∈ ((before ++ after).filter fun other => other.id != object.id).filter
        (·.contributesTo object) := by
      rw [kept]
      exact List.mem_filter.mpr ⟨member, contributes⟩
    have differs := (List.mem_filter.mp (List.mem_filter.mp listed).1).2
    simpa using differs
  · intro differ
    apply congrArg (List.map _)
    apply filter_filter_eq
    intro other member contributes
    simpa using differ other member contributes

/-- Two extensions of a table in different spellings and another table of its id, none
of which is taken for the table. -/
theorem extendedBy_eq_contributorNames_item :
    let item : TableObject := ⟨1, "Item", "", .table, "", [], [], ""⟩
    let before : List TableObject :=
      [⟨2, "Ext A", "", .tableExtension, "ITEM", [], [], ""⟩,
        ⟨1, "Customer", "", .table, "", [], [], ""⟩]
    let after : List TableObject := [⟨3, "Ext B", "", .tableExtension, "item", [], [], ""⟩]
    let schema := { Schema.empty with objects := before ++ item :: after }
    (∀ other ∈ before ++ after, other.contributesTo item = true → other.id ≠ item.id) ∧
      (ofObject schema item).extendedBy = ["Ext A", "Ext B"] := by
  intro item before after schema
  have differ : ∀ other ∈ before ++ after,
      other.contributesTo item = true → other.id ≠ item.id := by
    decide +kernel
  have position : schema.objects = before ++ item :: after := rfl
  have complete := (extendedBy_eq_contributorNames_iff position).mpr differ
  have names : contributorNames item (before ++ after) = ["Ext A", "Ext B"] := by decide +kernel
  exact ⟨differ, complete.trans names⟩

/-- A table and an extension of it with the same id. -/
def sharedIdSources : Sources :=
  (TextFiles.ofList [("a.al", "table 50100 \"Loyalty Card\" \x7b \x7d"),
    ("b.al", "tableextension 50100 \"Card Ext\" extends \"Loyalty Card\" \x7b \x7d")]).sources

/-- The extension is the only contributor to the table and is not listed. -/
theorem extendedBy_ne_contributorNames :
    let schema := Schema.ofSources .none sharedIdSources
    ∃ table extension, schema.objects = [] ++ table :: [extension] ∧
      (ofObject schema table).extendedBy = [] ∧
      contributorNames table ([] ++ [extension]) = ["Card Ext"] := by
  refine ⟨⟨50100, "Loyalty Card", "", .table, "", [], [], "a.al"⟩,
    ⟨50100, "Card Ext", "", .tableExtension, "Loyalty Card", [], [], "b.al"⟩, ?_⟩
  decide +kernel

end Description

end TableAtlas
