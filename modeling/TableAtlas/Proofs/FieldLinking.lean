import TableAtlas.Source.TableDeclaration

/-!
# Linked fields

Linking a field sets its key flags and its related names, and keeps everything
else.
-/

namespace TableAtlas.TableObject

open TableAtlas.Text TableAtlas.Source

variable (common : NamePrefix) (primaryNames : List String) (field : Field)

@[simp] theorem linkField_name : (linkField common primaryNames field).name = field.name := by
  unfold linkField
  split <;> rfl

@[simp] theorem linkField_fieldClass :
    (linkField common primaryNames field).fieldClass = field.fieldClass := by
  unfold linkField
  split <;> rfl

@[simp] theorem linkField_relation :
    (linkField common primaryNames field).relation = field.relation := by
  unfold linkField
  split <;> rfl

@[simp] theorem linkField_isPrimaryKey :
    (linkField common primaryNames field).isPrimaryKey =
      (field.isPrimaryKey || primaryNames.contains (lowercase field.name)) := by
  unfold linkField
  split <;> rfl

variable {field}

theorem linkField_of_relation (declared : field.relation ≠ "") :
    linkField common primaryNames field =
      { field with
        isPrimaryKey := field.isPrimaryKey || primaryNames.contains (lowercase field.name)
        isForeignKey := true
        relatedEntity :=
          String.ofList (RelationTarget.ofExpression common field.relation.toList).entity
        relatedField :=
          String.ofList (RelationTarget.ofExpression common field.relation.toList).field } := by
  rw [linkField, if_neg declared]

theorem linkField_of_no_relation (undeclared : field.relation = "") :
    linkField common primaryNames field =
      { field with
        isPrimaryKey := field.isPrimaryKey || primaryNames.contains (lowercase field.name) } := by
  rw [linkField, if_pos undeclared]

end TableAtlas.TableObject
