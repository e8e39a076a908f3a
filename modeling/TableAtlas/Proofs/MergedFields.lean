import TableAtlas.Schema.Merge

/-!
# Merged fields

Merging copies the fields of extensions into the first table of each name and
changes nothing else.  A table keeps its own fields, gains only fields of its
extensions, and afterwards has a field for each name that an extension declares.
-/

namespace TableAtlas

open TableAtlas.Text

/-! ## Adding fields -/

section Adding

variable {fields additions : List Field} {field : Field}

private theorem mem_addField {addition : Field} (member : field ∈ addField fields addition) :
    field ∈ fields ∨ field = addition := by
  unfold addField at member
  split at member
  · exact .inl member
  · simpa using member

private theorem subset_addField (fields : List Field) (addition : Field) :
    fields ⊆ addField fields addition := by
  unfold addField
  split
  · exact List.Subset.refl fields
  · exact List.subset_append_left fields [addition]

private theorem exists_sameName_addField (fields : List Field) (addition : Field) :
    ∃ present ∈ addField fields addition, sameName present.name addition.name = true := by
  by_cases taken : (fields.any fun present => sameName present.name addition.name) = true
  · rw [addField, if_pos taken]
    exact List.any_eq_true.mp taken
  · rw [addField, if_neg taken]
    exact ⟨addition, by simp, sameName_self addition.name⟩

theorem mem_addFields (member : field ∈ addFields fields additions) :
    field ∈ fields ∨ field ∈ additions := by
  induction additions generalizing fields with
  | nil => exact .inl member
  | cons addition additions induction =>
      rcases induction member with present | added
      · rcases mem_addField present with old | rfl
        · exact .inl old
        · exact .inr (List.mem_cons_self ..)
      · exact .inr (List.mem_cons_of_mem addition added)

theorem subset_addFields (fields additions : List Field) :
    fields ⊆ addFields fields additions := by
  induction additions generalizing fields with
  | nil => exact List.Subset.refl fields
  | cons addition additions induction =>
      exact List.Subset.trans (subset_addField fields addition)
        (induction (addField fields addition))

theorem exists_sameName_addFields (member : field ∈ additions) :
    ∃ present ∈ addFields fields additions, sameName present.name field.name = true := by
  induction additions generalizing fields with
  | nil => simp at member
  | cons addition additions induction =>
      rcases List.mem_cons.mp member with rfl | later
      · obtain ⟨present, added, same⟩ := exists_sameName_addField fields field
        exact ⟨present, subset_addFields _ additions added, same⟩
      · exact induction later

end Adding

/-! ## Contributions -/

section Contributions

variable {objects : List TableObject} {object extension : TableObject} {field : Field}

theorem mem_contributedFields {name : String} :
    field ∈ contributedFields objects name ↔
      ∃ extension ∈ objects, extension.extendsTable name = true ∧ field ∈ extension.fields := by
  simp [contributedFields, and_assoc]

namespace TableObject

theorem extendsTable_iff {name : String} :
    extension.extendsTable name = true ↔
      extension.isExtension = true ∧ extension.base ≠ "" ∧
        lowercase extension.base = lowercase name := by
  simp [extendsTable, sameName_iff, and_assoc]

theorem lowercase_entityName_of_extendsTable {name : String}
    (extended : extension.extendsTable name = true) :
    lowercase extension.entityName = lowercase name := by
  obtain ⟨isExtension, named, same⟩ := extendsTable_iff.mp extended
  rw [entityName_of_base isExtension named, same]

@[simp] theorem withContributions_name (objects : List TableObject) (object : TableObject) :
    (object.withContributions objects).name = object.name := rfl

@[simp] theorem withContributions_isTable (objects : List TableObject) (object : TableObject) :
    (object.withContributions objects).isTable = object.isTable := rfl

@[simp] theorem withContributions_keys (objects : List TableObject) (object : TableObject) :
    (object.withContributions objects).keys = object.keys := rfl

theorem mem_withContributions (member : field ∈ (object.withContributions objects).fields) :
    field ∈ object.fields ∨
      ∃ extension ∈ objects, extension.extendsTable object.name = true ∧
        field ∈ extension.fields := by
  rcases mem_addFields member with own | contributed
  · exact .inl own
  · exact .inr (mem_contributedFields.mp contributed)

theorem exists_sameName_withContributions (member : extension ∈ objects)
    (extended : extension.extendsTable object.name = true) (declared : field ∈ extension.fields) :
    ∃ present ∈ (object.withContributions objects).fields,
      sameName present.name field.name = true :=
  exists_sameName_addFields (mem_contributedFields.mpr ⟨extension, member, extended, declared⟩)

end TableObject

end Contributions

/-! ## Merging -/

section Merging

variable {objects : List TableObject} {merged : TableObject}

/-- What merging makes of an object behind tables of the given names. -/
def mergedAfter (objects : List TableObject) (earlier : List String) (object : TableObject) :
    TableObject :=
  if object.isTable = true ∧ lowercase object.name ∉ earlier then object.withContributions objects
  else object

/-- The names of the tables passed once an object has been passed too. -/
def namesAfter (earlier : List String) (object : TableObject) : List String :=
  if object.isTable then lowercase object.name :: earlier else earlier

theorem mergeAfter_cons (objects : List TableObject) (earlier : List String)
    (object : TableObject) (list : List TableObject) :
    mergeAfter objects earlier (object :: list) =
      mergedAfter objects earlier object ::
        mergeAfter objects (namesAfter earlier object) list := by
  by_cases isTable : object.isTable = true
  · by_cases seen : lowercase object.name ∈ earlier
    · simp [mergeAfter, mergedAfter, namesAfter, isTable, seen]
    · simp [mergeAfter, mergedAfter, namesAfter, isTable, seen]
  · simp [mergeAfter, mergedAfter, namesAfter, isTable]

theorem mergedAfter_eq (objects : List TableObject) (earlier : List String)
    (object : TableObject) :
    mergedAfter objects earlier object = object ∨
      object.isTable = true ∧
        mergedAfter objects earlier object = object.withContributions objects := by
  unfold mergedAfter
  split
  · rename_i first
    exact .inr ⟨first.1, rfl⟩
  · exact .inl rfl

@[simp] theorem mergedAfter_isTable (objects : List TableObject) (earlier : List String)
    (object : TableObject) : (mergedAfter objects earlier object).isTable = object.isTable := by
  unfold mergedAfter
  split <;> rfl

@[simp] theorem mergedAfter_name (objects : List TableObject) (earlier : List String)
    (object : TableObject) : (mergedAfter objects earlier object).name = object.name := by
  unfold mergedAfter
  split <;> rfl

theorem mem_namesAfter {earlier : List String} {object : TableObject} {name : String} :
    name ∈ namesAfter earlier object ↔
      object.isTable = true ∧ name = lowercase object.name ∨ name ∈ earlier := by
  by_cases isTable : object.isTable = true
  · simp [namesAfter, isTable]
  · simp [namesAfter, isTable]

private theorem mem_mergeAfter {earlier : List String} {list : List TableObject}
    (member : merged ∈ mergeAfter objects earlier list) :
    ∃ object ∈ list, merged = object ∨
      object.isTable = true ∧ merged = object.withContributions objects := by
  induction list generalizing earlier with
  | nil => simp [mergeAfter] at member
  | cons object list induction =>
      rw [mergeAfter_cons] at member
      rcases List.mem_cons.mp member with rfl | later
      · exact ⟨object, List.mem_cons_self .., mergedAfter_eq objects earlier object⟩
      · obtain ⟨origin, originMember, origins⟩ := induction later
        exact ⟨origin, List.mem_cons_of_mem object originMember, origins⟩

/-- Each merged object is a parsed one, or a table with the fields of its extensions. -/
theorem mem_mergeExtensions (member : merged ∈ mergeExtensions objects) :
    ∃ object ∈ objects, merged = object ∨
      object.isTable = true ∧ merged = object.withContributions objects :=
  mem_mergeAfter member

theorem mem_of_mem_mergeExtensions_of_isExtension {extension : TableObject}
    (isExtension : extension.isExtension = true) (member : extension ∈ mergeExtensions objects) :
    extension ∈ objects := by
  obtain ⟨object, objectMember, rfl | ⟨isTable, rfl⟩⟩ := mem_mergeExtensions member
  · exact objectMember
  · have isMergedTable : (object.withContributions objects).isTable = true := isTable
    rw [TableObject.isTable_of_isExtension isExtension] at isMergedTable
    exact absurd isMergedTable (by decide)

private theorem exists_mem_mergeAfter {earlier : List String} {list : List TableObject}
    {object : TableObject} (member : object ∈ list) :
    ∃ merged ∈ mergeAfter objects earlier list, merged = object ∨
      object.isTable = true ∧ merged = object.withContributions objects := by
  induction list generalizing earlier with
  | nil => simp at member
  | cons first list induction =>
      rw [mergeAfter_cons]
      rcases List.mem_cons.mp member with rfl | later
      · exact ⟨_, List.mem_cons_self .., mergedAfter_eq objects earlier object⟩
      · obtain ⟨merged, mergedMember, origin⟩ := induction later
        exact ⟨merged, List.mem_cons_of_mem _ mergedMember, origin⟩

theorem exists_mem_mergeExtensions {object : TableObject} (member : object ∈ objects) :
    ∃ merged ∈ mergeExtensions objects, merged = object ∨
      object.isTable = true ∧ merged = object.withContributions objects :=
  exists_mem_mergeAfter member

/-- Merging keeps the objects of each kind, as long as fields do not count. -/
theorem exists_mergeExtensions_iff {ofKind : TableObject → Prop}
    (unaffected : ∀ object : TableObject,
      ofKind (object.withContributions objects) ↔ ofKind object) :
    (∃ merged ∈ mergeExtensions objects, ofKind merged) ↔ ∃ object ∈ objects, ofKind object := by
  constructor
  · rintro ⟨merged, member, holds⟩
    obtain ⟨object, objectMember, rfl | ⟨-, rfl⟩⟩ := mem_mergeExtensions member
    · exact ⟨merged, objectMember, holds⟩
    · exact ⟨object, objectMember, (unaffected object).mp holds⟩
  · rintro ⟨object, member, holds⟩
    obtain ⟨merged, mergedMember, rfl | ⟨-, rfl⟩⟩ := exists_mem_mergeExtensions member
    · exact ⟨merged, mergedMember, holds⟩
    · exact ⟨object.withContributions objects, mergedMember, (unaffected object).mpr holds⟩

private theorem find?_mergeAfter {earlier : List String} {name : String} (list : List TableObject)
    (unseen : name ∉ earlier) :
    (mergeAfter objects earlier list).find?
        (fun object => object.isTable && lowercase object.name == name) =
      (list.find? fun object => object.isTable && lowercase object.name == name).map
        (·.withContributions objects) := by
  induction list generalizing earlier with
  | nil => rfl
  | cons object list induction =>
      rw [mergeAfter_cons, List.find?_cons, List.find?_cons, mergedAfter_isTable, mergedAfter_name]
      by_cases sought : object.isTable = true ∧ lowercase object.name = name
      · have first : mergedAfter objects earlier object = object.withContributions objects :=
          if_pos ⟨sought.1, sought.2 ▸ unseen⟩
        simp [sought, first]
      · have unseenLater : name ∉ namesAfter earlier object := by
          intro passed
          rcases mem_namesAfter.mp passed with ⟨isTable, rfl⟩ | seen
          · exact sought ⟨isTable, rfl⟩
          · exact unseen seen
        have different : (object.isTable && lowercase object.name == name) = false := by
          simpa using sought
        rw [different]
        exact induction unseenLater

/-- The first table of a name receives the fields of its extensions. -/
theorem find?_mergeExtensions (objects : List TableObject) (name : String) :
    (mergeExtensions objects).find?
        (fun object => object.isTable && lowercase object.name == name) =
      (objects.find? fun object => object.isTable && lowercase object.name == name).map
        (·.withContributions objects) :=
  find?_mergeAfter objects (by simp)

end Merging

end TableAtlas
