import TableAtlas.Proofs.CollapsedBlanks
import TableAtlas.Proofs.PrimaryFlags

/-!
# Consistent objects

Whatever a text looks like, the objects that are read from it are consistent: the
first key is the primary one, the fields that it lists are flagged, and a field
refers to what its relation expression says.  The fields and keys are read one by
one and linked afterwards, so each fact is shown for one declaration and kept by
linking.
-/

namespace TableAtlas

open TableAtlas.Text TableAtlas.Source

/-- Whether a field refers to what its relation expression says, if it has one. -/
structure Field.RefersAsDeclared (common : NamePrefix) (field : Field) : Prop where
  isForeignKey_iff : field.isForeignKey = true ↔ field.relation ≠ ""
  related : field.relation ≠ "" →
    RelationTarget.ofExpression common field.relation.toList =
      ⟨field.relatedEntity.toList, field.relatedField.toList⟩
  unrelated : field.relation = "" → field.relatedEntity = "" ∧ field.relatedField = ""

/-- What holds of every object that is read from a text. -/
structure TableObject.IsConsistent (common : NamePrefix) (object : TableObject) : Prop where
  firstPrimary : ∀ key ∈ object.keys.head?, key.isPrimaryKey = true
  othersNotPrimary : ∀ key ∈ object.keys.tail, key.isPrimaryKey = false
  stored : ∀ field ∈ object.fields, field.fieldClass = .normal
  flagged : ∀ field ∈ object.fields, field.isPrimaryKey = true ↔
    ∃ key ∈ object.keys.head?, ∃ listed ∈ key.fields, lowercase listed = lowercase field.name
  referring : ∀ field ∈ object.fields, field.RefersAsDeclared common
  collapsed : ∀ field ∈ object.fields, IsCollapsed field.relation.toList

theorem FieldClass.eq_normal {fieldClass : FieldClass}
    (notComputed : fieldClass.isComputed = false) : fieldClass = .normal := by
  cases fieldClass with
  | normal => rfl
  | flowField => exact absurd notComputed (by decide)
  | flowFilter => exact absurd notComputed (by decide)

/-! ## Keys -/

namespace Source

theorem isPrimaryKey_of_mem_head?_declaredKeys {common : NamePrefix} {body : List Char} {key : Key}
    (first : key ∈ (declaredKeys common body).head?) : key.isPrimaryKey = true := by
  unfold declaredKeys at first
  split at first
  · simp at first
  · obtain rfl := Option.some.inj first
    rfl

theorem isPrimaryKey_of_mem_tail_declaredKeys {common : NamePrefix} {body : List Char} {key : Key}
    (later : key ∈ (declaredKeys common body).tail) : key.isPrimaryKey = false := by
  unfold declaredKeys at later
  split at later
  · simp at later
  · obtain ⟨declaration, -, rfl⟩ := List.mem_map.mp later
    rfl

end Source

namespace TableObject

theorem primaryKey?_eq_head? {object : TableObject}
    (firstPrimary : ∀ key ∈ object.keys.head?, key.isPrimaryKey = true) :
    object.primaryKey? = object.keys.head? := by
  unfold primaryKey?
  cases keys : object.keys with
  | nil => rfl
  | cons first others =>
      have isPrimary : first.isPrimaryKey = true := firstPrimary first (by simp [keys])
      rw [List.find?_cons_of_pos isPrimary, List.head?_cons]

/-! ## Fields -/

variable {common : NamePrefix} {file text : String}

private theorem refersAsDeclared_linkField {primaryNames : List String} {field : Field}
    (unlinked : field.isForeignKey = false) (noEntity : field.relatedEntity = "")
    (noField : field.relatedField = "") :
    (linkField common primaryNames field).RefersAsDeclared common := by
  by_cases undeclared : field.relation = ""
  · rw [linkField_of_no_relation common primaryNames undeclared]
    constructor
    · simp [unlinked, undeclared]
    · intro declared
      exact absurd undeclared declared
    · intro _
      exact ⟨noEntity, noField⟩
  · rw [linkField_of_relation common primaryNames undeclared]
    constructor
    · simp [undeclared]
    · intro _
      simp only [String.toList_ofList]
    · intro nothing
      exact absurd nothing undeclared

/-- The fields of an object are linked fields of stored declarations. -/
theorem exists_declaration_of_mem_fields {object : TableObject} {field : Field}
    (member : object ∈ allIn common file text) (fieldMember : field ∈ object.fields) :
    ∃ declaration : FieldDeclaration, declaration.fieldClass.isComputed = false ∧
      ∃ primaryNames, field = linkField common primaryNames (declaration.toField common) := by
  obtain ⟨table, -, rfl⟩ := List.mem_map.mp member
  obtain ⟨unlinked, unlinkedMember, rfl⟩ := List.mem_map.mp fieldMember
  obtain ⟨declaration, stored, rfl⟩ := List.mem_map.mp unlinkedMember
  have notComputed : declaration.fieldClass.isComputed = false := by
    simpa using (List.mem_filter.mp stored).2
  exact ⟨declaration, notComputed, _, rfl⟩

theorem isConsistent_of_mem_allIn {object : TableObject}
    (member : object ∈ allIn common file text) : object.IsConsistent common := by
  obtain ⟨body, keys⟩ : ∃ body, object.keys = declaredKeys common body := by
    obtain ⟨declaration, -, rfl⟩ := List.mem_map.mp member
    exact ⟨declaration.body, rfl⟩
  have firstPrimary : ∀ key ∈ object.keys.head?, key.isPrimaryKey = true := by
    rw [keys]
    exact fun key => isPrimaryKey_of_mem_head?_declaredKeys
  refine ⟨firstPrimary, ?others, ?stored, ?flagged, ?referring, ?collapsed⟩
  case others =>
    rw [keys]
    exact fun key => isPrimaryKey_of_mem_tail_declaredKeys
  case stored =>
    intro field fieldMember
    obtain ⟨declaration, notComputed, _, rfl⟩ := exists_declaration_of_mem_fields member fieldMember
    rw [linkField_fieldClass]
    exact FieldClass.eq_normal notComputed
  case flagged =>
    intro field fieldMember
    rw [flagsAgree_of_mem_allIn member field fieldMember, KeyLists, primaryKey?_eq_head? firstPrimary]
    rfl
  case referring =>
    intro field fieldMember
    obtain ⟨declaration, -, _, rfl⟩ := exists_declaration_of_mem_fields member fieldMember
    exact refersAsDeclared_linkField rfl rfl rfl
  case collapsed =>
    intro field fieldMember
    obtain ⟨declaration, -, _, rfl⟩ := exists_declaration_of_mem_fields member fieldMember
    have collapsed := (stripsNames_stripQuoted common _).isCollapsed
      (isCollapsed_relationExpression declaration.properties)
    rw [linkField_relation]
    exact (String.toList_ofList ..).symm ▸ collapsed

/-- A table that ends inside its keys, with a computed field and with a condition behind
a relation whose blanks are spread over two lines. -/
def unfinishedText : String :=
  "table 1 A \x7b fields \x7b field(1; No; Code) field(2; B; Code) \x7b TableRelation =\n" ++
    "\"ABC  B\" WHERE (X); \x7d field(3; S; Code) \x7b FieldClass = FlowField; \x7d \x7d " ++
    "keys \x7b key(P; NO) key(Q; S"

theorem isConsistent_of_mem_allIn_unfinishedText :
    ∃ object ∈ allIn ⟨"ABC ".toList⟩ "a.al" unfinishedText,
      object.fields.map (fun field => (field.name, field.isPrimaryKey, field.relation)) =
        [("No", true, ""), ("B", false, "\"B\" WHERE (X)")] ∧
      object.IsConsistent ⟨"ABC ".toList⟩ := by
  obtain ⟨object, member, fields⟩ : ∃ object ∈ allIn ⟨"ABC ".toList⟩ "a.al" unfinishedText,
      object.fields.map (fun field => (field.name, field.isPrimaryKey, field.relation)) =
        [("No", true, ""), ("B", false, "\"B\" WHERE (X)")] := by
    decide +kernel
  exact ⟨object, member, fields, isConsistent_of_mem_allIn member⟩

end TableObject

end TableAtlas
