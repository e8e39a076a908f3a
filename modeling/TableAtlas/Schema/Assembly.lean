import TableAtlas.Project.Sources
import TableAtlas.Schema.Cue
import TableAtlas.Schema.Merge
import TableAtlas.Source.TableDeclaration

/-!
# Assembling a schema

The schema of a project is assembled from the objects declared in its files:
extensions are merged into their tables, cue tables are left out, and each
field that refers to an entity gives a relation.  A file that could not be read
only adds a warning.
-/

namespace TableAtlas

open TableAtlas.Text TableAtlas.Source

namespace TableObject

/-- Whether an object is a cue table or contributes to one. -/
def isCue (object : TableObject) : Bool :=
  isCueName object.name || isCueName object.entityName

theorem isCue_eq_false_iff {object : TableObject} :
    object.isCue = false ↔
      isCueName object.name = false ∧ isCueName object.entityName = false := by
  rw [isCue, Bool.or_eq_false_iff]

/-- Whether a table is a cue table depends only on the lowercase form of its name. -/
theorem isCue_of_isTable {object : TableObject} (isTable : object.isTable = true) :
    object.isCue = isLowercaseCueName (lowercase object.name).toList := by
  rw [isCue, entityName_of_isTable isTable, Bool.or_self, isCueName]

/-- The relation that a field of an object stands for, unless it refers to
nothing or to a cue table. -/
def relation? (object : TableObject) (field : Field) : Option Relation :=
  if field.isForeignKey && field.relatedEntity != "" && !isCueName field.relatedEntity then
    some ⟨object.entityName, field.name, field.relatedEntity, field.relatedField⟩
  else none

theorem relation?_eq_some_iff {object : TableObject} {field : Field} {relation : Relation} :
    object.relation? field = some relation ↔
      field.isForeignKey = true ∧ field.relatedEntity ≠ "" ∧
        isCueName field.relatedEntity = false ∧
          ⟨object.entityName, field.name, field.relatedEntity, field.relatedField⟩ = relation := by
  unfold relation?
  split
  · rename_i related
    simp only [Bool.and_eq_true, bne_iff_ne, Bool.not_eq_true'] at related
    simp [related]
  · rename_i unrelated
    constructor
    · intro derived
      exact absurd derived (by simp)
    · rintro ⟨foreign, named, notCue, -⟩
      exact absurd (by simp [foreign, named, notCue]) unrelated

def relations (object : TableObject) : List Relation :=
  object.fields.filterMap object.relation?

end TableObject

def relationsOf (objects : List TableObject) : List Relation :=
  objects.flatMap (·.relations)

theorem mem_relationsOf {objects : List TableObject} {relation : Relation} :
    relation ∈ relationsOf objects ↔
      ∃ object ∈ objects, ∃ field ∈ object.fields, object.relation? field = some relation := by
  simp [relationsOf, TableObject.relations]

/-- The objects of a project as its schema shows them: merged, without cue tables. -/
def shownObjects (objects : List TableObject) : List TableObject :=
  (mergeExtensions objects).filter fun object => !object.isCue

/-- The warning about a project that declares no objects. -/
def noObjectsWarning : String := "No table objects found"

namespace SourceFile

/-- The objects declared in a file; none if it could not be read. -/
def objects (common : NamePrefix) (file : SourceFile) : List TableObject :=
  match file.text with
  | .ok text => TableObject.allIn common file.path text
  | .error _ => []

/-- The warning about a file that could not be read. -/
def warning? (file : SourceFile) : Option String :=
  match file.text with
  | .ok _ => none
  | .error failure => some failure.message

end SourceFile

namespace Schema

/-- The schema of a project from its parsed objects and the warnings so far. -/
def assemble (project : ProjectInfo) (objects : List TableObject) (warnings : List String) :
    Schema :=
  let shown := shownObjects objects
  { project := project
    objects := shown
    relations := relationsOf shown
    warnings := if shown.isEmpty then warnings ++ [noObjectsWarning] else warnings }

/-- The schema of a project, with names stripped of the prefix. -/
def ofSources (common : NamePrefix) (sources : Sources) : Schema :=
  assemble sources.project (sources.files.flatMap (·.objects common))
    (sources.warnings ++ sources.files.filterMap (·.warning?))

end Schema

end TableAtlas
