import TableAtlas.Proofs.DistinctItems
import TableAtlas.Proofs.MergedFields

/-!
# Merging one extension at a time

The objects of a project can also be merged in place: one object after the other,
each extension adds its fields to the first table of the name that it extends.
After each step the list is the one merged with the extensions passed so far, for
no step changes an extension or the name of a table.

Either way, only the first table of each name changes.  It gains the fields of its
extensions whose names are neither its own nor those of earlier ones, and gains
them as they were declared.
-/

namespace TableAtlas

open TableAtlas.Text

/-! ## Fields gained -/

/-- What tells the fields of an object apart: their names in any case. -/
def Field.nameKey (field : Field) : String :=
  lowercase field.name

/-- The fields among further ones whose names are neither taken by the given fields
nor by earlier ones. -/
def newFields (fields additions : List Field) : List Field :=
  (firstItems Field.nameKey additions).filter fun field =>
    decide (field.nameKey ∉ fields.map Field.nameKey)

section Gained

variable {fields additions : List Field}

theorem any_sameName_iff {present : List Field} {field : Field} :
    (present.any fun other => sameName other.name field.name) = true ↔
      field.nameKey ∈ present.map Field.nameKey := by
  simp only [List.any_eq_true, sameName_iff, List.mem_map, Field.nameKey]

/-- The names seen are those of the fields that are already there. -/
private theorem addFields_eq_append_select {seen : SeenKeys String} {present : List Field}
    (agree : ∀ name, name ∈ seen.keys ↔ name ∈ present.map Field.nameKey) :
    addFields present additions = present ++ seen.select Field.nameKey additions := by
  induction additions generalizing present seen with
  | nil => simp [SeenKeys.select]
  | cons field additions induction =>
      rw [addFields_cons]
      by_cases taken : field.nameKey ∈ seen.keys
      · have kept : addField present field = present :=
          if_pos (any_sameName_iff.mpr ((agree _).mp taken))
        rw [kept, induction agree, SeenKeys.select_cons_of_mem taken]
      · have added : addField present field = present ++ [field] :=
          if_neg fun found => taken ((agree _).mpr (any_sameName_iff.mp found))
        have agreeAfter : ∀ name, name ∈ field.nameKey :: seen.keys ↔
            name ∈ (present ++ [field]).map Field.nameKey := by
          intro name
          rw [List.map_append, List.mem_append, List.mem_cons, agree]
          exact or_comm.trans (or_congr Iff.rfl List.mem_singleton.symm)
        rw [added, induction agreeAfter, SeenKeys.select_cons_of_not_mem taken, List.append_assoc,
          List.singleton_append]

theorem addFields_eq_append (fields additions : List Field) :
    addFields fields additions = fields ++ newFields fields additions := by
  have agree : ∀ name, name ∈ (⟨fields.map Field.nameKey⟩ : SeenKeys String).keys ↔
      name ∈ fields.map Field.nameKey := fun _ => Iff.rfl
  rw [addFields_eq_append_select agree, SeenKeys.select_eq_filter, distinctBy_eq_firstItems]
  rfl

theorem nodup_map_newFields (fields additions : List Field) :
    ((newFields fields additions).map Field.nameKey).Nodup := by
  have distinct := nodup_map_distinctBy Field.nameKey additions
  rw [distinctBy_eq_firstItems] at distinct
  exact distinct.sublist (List.filter_sublist.map Field.nameKey)

theorem hasField_eq_false_of_mem_newFields {object : TableObject} {field : Field}
    (gained : field ∈ newFields object.fields additions) : object.hasField field.name = false := by
  have isNew := (List.mem_filter.mp gained).2
  rw [← Bool.not_eq_true]
  intro found
  exact absurd (any_sameName_iff.mp found) (by simpa using isNew)

end Gained

/-! ## By position -/

/-- Whether an object at a position is the first table of its name. -/
def IsFirstTable (objects : List TableObject) (position : Nat) (object : TableObject) : Prop :=
  object.isTable = true ∧ ∀ earlier ∈ objects.take position,
    earlier.isTable = true → lowercase earlier.name ≠ lowercase object.name

/-- An object with further fields added to it. -/
def TableObject.adding (additions : List Field) (object : TableObject) : TableObject :=
  { object with fields := addFields object.fields additions }

theorem addFields_append (fields first second : List Field) :
    addFields fields (first ++ second) = addFields (addFields fields first) second :=
  List.foldl_append

section Positions

variable {objects contributors : List TableObject} {object extension : TableObject}
variable {position : Nat}

private theorem mem_foldl_namesAfter {list : List TableObject} {earlier : List String}
    {name : String} :
    name ∈ list.foldl namesAfter earlier ↔
      (∃ table ∈ list, table.isTable = true ∧ name = lowercase table.name) ∨ name ∈ earlier := by
  induction list generalizing earlier with
  | nil => simp
  | cons object list induction =>
      rw [List.foldl_cons, induction, mem_namesAfter, ← or_assoc]
      apply or_congr _ Iff.rfl
      rw [or_comm]
      simp

theorem getElem?_mergeAfter (contributors : List TableObject) (earlier : List String)
    (list : List TableObject) (position : Nat) :
    (mergeAfter contributors earlier list)[position]? =
      list[position]?.map
        (mergedAfter contributors ((list.take position).foldl namesAfter earlier)) := by
  induction list generalizing earlier position with
  | nil => rfl
  | cons object list induction =>
      rw [mergeAfter_cons]
      cases position with
      | zero => rfl
      | succ position =>
          rw [List.getElem?_cons_succ, List.getElem?_cons_succ, induction, List.take_succ_cons,
            List.foldl_cons]

/-- The first table of its name receives the contributions, any other object stays as it is. -/
theorem getElem?_mergeAfter_of_first (found : objects[position]? = some object)
    (first : IsFirstTable objects position object) :
    (mergeAfter contributors [] objects)[position]? =
      some (object.withContributions contributors) := by
  have unseen : lowercase object.name ∉ (objects.take position).foldl namesAfter [] := by
    intro seen
    rcases mem_foldl_namesAfter.mp seen with ⟨earlier, member, isTable, same⟩ | none
    · exact first.2 earlier member isTable same.symm
    · simp at none
  rw [getElem?_mergeAfter, found, Option.map_some, mergedAfter, if_pos ⟨first.1, unseen⟩]

theorem getElem?_mergeAfter_of_not_first (found : objects[position]? = some object)
    (notFirst : ¬IsFirstTable objects position object) :
    (mergeAfter contributors [] objects)[position]? = some object := by
  have seen : ¬(object.isTable = true ∧
      lowercase object.name ∉ (objects.take position).foldl namesAfter []) := by
    rintro ⟨isTable, unseen⟩
    refine notFirst ⟨isTable, fun earlier member earlierIsTable same => unseen ?_⟩
    exact mem_foldl_namesAfter.mpr (.inl ⟨earlier, member, earlierIsTable, same.symm⟩)
  rw [getElem?_mergeAfter, found, Option.map_some, mergedAfter, if_neg seen]

@[simp] theorem mergeAfter_nil (earlier : List String) (list : List TableObject) :
    mergeAfter [] earlier list = list := by
  induction list generalizing earlier with
  | nil => rfl
  | cons object list induction =>
      have unchanged : mergedAfter [] earlier object = object := by
        unfold mergedAfter
        split <;> rfl
      rw [mergeAfter_cons, unchanged, induction]

theorem length_mergeAfter (contributors : List TableObject) (earlier : List String)
    (list : List TableObject) : (mergeAfter contributors earlier list).length = list.length := by
  induction list generalizing earlier with
  | nil => rfl
  | cons object list induction =>
      rw [mergeAfter_cons, List.length_cons, induction, List.length_cons]

end Positions

/-! ## In place -/

/-- The position of the first table with a name in lowercase. -/
def tablePosition? (objects : List TableObject) (name : String) : Option Nat :=
  objects.findIdx? fun object => object.isTable && lowercase object.name == name

/-- The object at a position, if it is an extension, adds its fields to the table
that it extends, where that table stands at a known position. -/
def mergeStep (tables : String → Option Nat) (objects : List TableObject) (position : Nat) :
    List TableObject :=
  match objects[position]? with
  | none => objects
  | some extension =>
      if extension.isExtension = true ∧ extension.base ≠ "" then
        match tables (lowercase extension.base) with
        | none => objects
        | some target => objects.modify target (·.adding extension.fields)
      else objects

/-- Merges the extensions of a list into its tables, one after the other.  The
positions of the tables are those at the start. -/
def mergeInPlace (objects : List TableObject) : List TableObject :=
  (List.range objects.length).foldl (mergeStep (tablePosition? objects)) objects

section InPlace

variable {objects contributors : List TableObject} {object extension : TableObject}
variable {position : Nat}

private theorem findIdx?_eq_some_iff {α : Type} {items : List α} {item : α} {sought : α → Bool}
    (found : items[position]? = some item) :
    items.findIdx? sought = some position ↔
      sought item = true ∧ ∀ earlier ∈ items.take position, sought earlier = false := by
  obtain ⟨inside, rfl⟩ := List.getElem?_eq_some_iff.mp found
  rw [List.findIdx?_eq_some_iff_getElem]
  simp only [List.mem_take_iff_getElem, inside, exists_true_left]
  grind

theorem tablePosition?_eq_some_iff {name : String} (found : objects[position]? = some object) :
    tablePosition? objects name = some position ↔
      IsFirstTable objects position object ∧ lowercase object.name = name := by
  rw [tablePosition?, findIdx?_eq_some_iff found]
  simp only [Bool.and_eq_true, beq_iff_eq, Bool.and_eq_false_iff, beq_eq_false_iff_ne]
  constructor
  · rintro ⟨⟨isTable, rfl⟩, unlike⟩
    refine ⟨⟨isTable, fun earlier member earlierIsTable => ?_⟩, rfl⟩
    rcases unlike earlier member with notTable | different
    · exact absurd earlierIsTable (by simp [notTable])
    · exact different
  · rintro ⟨⟨isTable, unlike⟩, rfl⟩
    refine ⟨⟨isTable, rfl⟩, fun earlier member => ?_⟩
    cases earlierIsTable : earlier.isTable with
    | false => exact .inl rfl
    | true => exact .inr (unlike earlier member earlierIsTable)

/-- One more object contributes its own fields behind the others, if it extends the table. -/
private theorem withContributions_concat (contributors : List TableObject)
    (extension object : TableObject) :
    object.withContributions (contributors ++ [extension]) =
      if extension.extendsTable object.name = true then
        (object.withContributions contributors).adding extension.fields
      else object.withContributions contributors := by
  have contributed : contributedFields (contributors ++ [extension]) object.name =
      contributedFields contributors object.name ++
        if extension.extendsTable object.name = true then extension.fields else [] := by
    by_cases extended : extension.extendsTable object.name = true <;>
      simp [contributedFields, extended]
  rw [TableObject.withContributions, contributed, addFields_append]
  split <;> rfl

/-- What the next object changes when the objects before it have been merged: only the
first table of the name that it extends, which it gives its fields. -/
private theorem getElem?_mergeAfter_concat (contributors : List TableObject)
    (extension : TableObject) (found : objects[position]? = some object) :
    (mergeAfter (contributors ++ [extension]) [] objects)[position]? =
      (mergeAfter contributors [] objects)[position]?.map fun merged =>
        if extension.isExtension = true ∧ extension.base ≠ "" ∧
          tablePosition? objects (lowercase extension.base) = some position
        then merged.adding extension.fields else merged := by
  have sought : extension.isExtension = true ∧ extension.base ≠ "" ∧
        tablePosition? objects (lowercase extension.base) = some position ↔
      IsFirstTable objects position object ∧ extension.extendsTable object.name = true := by
    rw [tablePosition?_eq_some_iff found, TableObject.extendsTable_iff]
    constructor
    · rintro ⟨isExtension, named, first, same⟩
      exact ⟨first, isExtension, named, same.symm⟩
    · rintro ⟨first, isExtension, named, same⟩
      exact ⟨isExtension, named, first, same.symm⟩
  by_cases first : IsFirstTable objects position object
  · rw [getElem?_mergeAfter_of_first found first, getElem?_mergeAfter_of_first found first,
      withContributions_concat, Option.map_some]
    simp only [sought, first, true_and]
  · rw [getElem?_mergeAfter_of_not_first found first, getElem?_mergeAfter_of_not_first found first]
    simp only [sought, first, false_and, if_false, Option.map_some]

private theorem contributes_getElem?_mergeAfter {merged : TableObject}
    (found : objects[position]? = some object)
    (foundMerged : (mergeAfter contributors [] objects)[position]? = some merged) :
    merged.isExtension = object.isExtension ∧ merged.base = object.base ∧
      (object.isExtension = true → merged.fields = object.fields) := by
  by_cases first : IsFirstTable objects position object
  · rw [getElem?_mergeAfter_of_first found first] at foundMerged
    obtain rfl := Option.some.inj foundMerged
    refine ⟨rfl, rfl, fun isExtension => ?_⟩
    exact absurd first.1 (by simp [TableObject.isTable_of_isExtension isExtension])
  · rw [getElem?_mergeAfter_of_not_first found first] at foundMerged
    obtain rfl := Option.some.inj foundMerged
    exact ⟨rfl, rfl, fun _ => rfl⟩

/-- A step changes at most the object at the position of the table that is extended. -/
private theorem getElem?_mergeStep {tables : String → Option Nat}
    (found : objects[position]? = some extension) (index : Nat) :
    (mergeStep tables objects position)[index]? = objects[index]?.map fun object =>
      if extension.isExtension = true ∧ extension.base ≠ "" ∧
        tables (lowercase extension.base) = some index
      then object.adding extension.fields else object := by
  simp only [mergeStep, found, ← and_assoc]
  by_cases contributes : extension.isExtension = true ∧ extension.base ≠ ""
  · rw [if_pos contributes]
    cases target : tables (lowercase extension.base) with
    | none => simp
    | some target => simp [contributes, List.getElem?_modify]
  · simp [contributes]

/-- A step takes the list merged with the objects before a position to the list
merged with the object at that position as well. -/
theorem mergeStep_mergeAfter (inside : position < objects.length) :
    mergeStep (tablePosition? objects) (mergeAfter (objects.take position) [] objects) position =
      mergeAfter (objects.take (position + 1)) [] objects := by
  have found : objects[position]? = some objects[position] := List.getElem?_eq_getElem inside
  obtain ⟨merged, foundMerged⟩ :
      ∃ merged, (mergeAfter (objects.take position) [] objects)[position]? = some merged :=
    ⟨_, List.getElem?_eq_getElem ((length_mergeAfter ..).symm ▸ inside)⟩
  obtain ⟨sameKind, sameBase, sameFields⟩ := contributes_getElem?_mergeAfter found foundMerged
  apply List.ext_getElem?
  intro index
  rw [getElem?_mergeStep foundMerged, List.take_succ_eq_append_getElem inside, sameKind, sameBase]
  cases there : objects[index]? with
  | none =>
      have missing : ∀ contributors, (mergeAfter contributors [] objects)[index]? = none := by
        intro contributors
        rw [getElem?_mergeAfter, there, Option.map_none]
      rw [missing, missing, Option.map_none]
  | some object =>
      rw [getElem?_mergeAfter_concat _ _ there]
      congr 1
      funext merged
      split
      · rename_i contributes
        rw [sameFields contributes.1]
      · rfl

/-- Merging in place, one extension at a time, gives the merged list. -/
theorem mergeInPlace_eq_mergeExtensions (objects : List TableObject) :
    mergeInPlace objects = mergeExtensions objects := by
  have passed : ∀ count ≤ objects.length,
      (List.range count).foldl (mergeStep (tablePosition? objects)) objects =
        mergeAfter (objects.take count) [] objects := by
    intro count bound
    induction count with
    | zero => rw [List.range_zero, List.foldl_nil, List.take_zero, mergeAfter_nil]
    | succ count induction =>
        rw [List.range_succ, List.foldl_append, induction (Nat.le_of_succ_le bound)]
        exact mergeStep_mergeAfter bound
  rw [mergeInPlace, passed _ (Nat.le_refl _), List.take_length, mergeExtensions]

end InPlace

/-! ## What merging changes -/

/-- A table with the new fields of its extensions behind its own. -/
def TableObject.gaining (objects : List TableObject) (table : TableObject) : TableObject :=
  { table with
    fields := table.fields ++ newFields table.fields (contributedFields objects table.name) }

/-- The merged list differs from the objects only in the fields that the first table of
each name gains.  In particular no extension changes, nor does a table behind another
one of its name, and no field is gained whose name is taken or gained already. -/
structure IsMergeOf (merged objects : List TableObject) : Prop where
  length_eq : merged.length = objects.length
  gains : ∀ (position : Nat) (table : TableObject), objects[position]? = some table →
    IsFirstTable objects position table → merged[position]? = some (table.gaining objects)
  stays : ∀ (position : Nat) (object : TableObject), objects[position]? = some object →
    ¬IsFirstTable objects position object → merged[position]? = some object
  extension_stays : ∀ (position : Nat) (extension : TableObject),
    objects[position]? = some extension → extension.isExtension = true →
      merged[position]? = some extension
  repeated_stays : ∀ (first second : Nat) (table repeated : TableObject), first < second →
    objects[first]? = some table → objects[second]? = some repeated → table.isTable = true →
      lowercase table.name = lowercase repeated.name → merged[second]? = some repeated
  gains_once : ∀ (position : Nat) (object shown : TableObject),
    objects[position]? = some object → merged[position]? = some shown →
      ∃ gained : List Field, shown.fields = object.fields ++ gained ∧
        (gained.map Field.nameKey).Nodup ∧ ∀ field ∈ gained, object.hasField field.name = false

theorem withContributions_eq_gaining (objects : List TableObject) (table : TableObject) :
    table.withContributions objects = table.gaining objects := by
  rw [TableObject.withContributions, addFields_eq_append, TableObject.gaining]

theorem isMergeOf_mergeExtensions (objects : List TableObject) :
    IsMergeOf (mergeExtensions objects) objects where
  length_eq := length_mergeAfter objects [] objects
  gains position table found first := by
    rw [← withContributions_eq_gaining]
    exact getElem?_mergeAfter_of_first found first
  stays position object found notFirst := getElem?_mergeAfter_of_not_first found notFirst
  extension_stays position extension found isExtension := by
    apply getElem?_mergeAfter_of_not_first found
    intro first
    exact absurd first.1 (by simp [TableObject.isTable_of_isExtension isExtension])
  repeated_stays first second table repeated earlier foundFirst foundSecond isTable same := by
    apply getElem?_mergeAfter_of_not_first foundSecond
    intro isFirst
    have member : table ∈ objects.take second := by
      apply List.mem_of_getElem?
      rw [List.getElem?_take_of_lt earlier]
      exact foundFirst
    exact isFirst.2 table member isTable same
  gains_once position object shown found foundShown := by
    by_cases first : IsFirstTable objects position object
    · rw [mergeExtensions, getElem?_mergeAfter_of_first found first,
        withContributions_eq_gaining] at foundShown
      obtain rfl := Option.some.inj foundShown
      exact ⟨_, rfl, nodup_map_newFields _ _,
        fun field gained => hasField_eq_false_of_mem_newFields gained⟩
    · rw [mergeExtensions, getElem?_mergeAfter_of_not_first found first] at foundShown
      obtain rfl := Option.some.inj foundShown
      exact ⟨[], by simp, by simp, by simp⟩

theorem IsMergeOf.unique {objects first second : List TableObject}
    (isFirst : IsMergeOf first objects) (isSecond : IsMergeOf second objects) : first = second := by
  apply List.ext_getElem?
  intro position
  cases found : objects[position]? with
  | none =>
      have beyond : objects.length ≤ position := List.getElem?_eq_none_iff.mp found
      rw [List.getElem?_eq_none (isFirst.length_eq ▸ beyond),
        List.getElem?_eq_none (isSecond.length_eq ▸ beyond)]
  | some object =>
      by_cases isTable : IsFirstTable objects position object
      · rw [isFirst.gains position object found isTable,
          isSecond.gains position object found isTable]
      · rw [isFirst.stays position object found isTable,
          isSecond.stays position object found isTable]

/-- Merging, in place or not, is the only change of a list in which the first table of
each name gains the new fields of its extensions and nothing else changes. -/
theorem isMergeOf_iff (objects merged : List TableObject) :
    (IsMergeOf merged objects ↔ merged = mergeExtensions objects) ∧
      mergeInPlace objects = mergeExtensions objects := by
  refine ⟨?_, mergeInPlace_eq_mergeExtensions objects⟩
  constructor
  · intro isMerge
    exact isMerge.unique (isMergeOf_mergeExtensions objects)
  · rintro rfl
    exact isMergeOf_mergeExtensions objects

end TableAtlas
