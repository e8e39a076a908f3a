import TableAtlas.Proofs.OutgoingEdges

/-!
# References from both ends

The description of an object lists the references of its entity and the relations
that lead to it, and leaves out those that repeat an earlier one.  The two lists tell
relations apart by different names, but between two given entities both come down to
the referring field.  So one entity lists a reference to another one exactly if the
other lists it as coming from there.
-/

namespace TableAtlas

open TableAtlas.Text

/-- What tells the relations apart that a description lists as leading to its entity:
the lowercase names of the referring entity and of its field. -/
def Relation.referrerKey (relation : Relation) : String × String :=
  (lowercase relation.sourceEntity, lowercase relation.sourceField)

theorem Relation.referrerKey_eq_iff {left right : Relation} :
    left.referrerKey = right.referrerKey ↔
      lowercase left.sourceEntity = lowercase right.sourceEntity ∧
        lowercase left.sourceField = lowercase right.sourceField := by
  simp [referrerKey]

/-- The relations that lead from the entity of an object to that of another one. -/
def Schema.relationsBetween (schema : Schema) (object other : TableObject) : List Relation :=
  schema.relations.filter fun relation =>
    sameName relation.sourceEntity object.entityName &&
      sameName relation.targetEntity other.entityName

namespace Description

/-- The listed references that lead to the entity of an object. -/
def referencesTo (description : Description) (other : TableObject) : List Relation :=
  description.references.filter fun relation => sameName relation.targetEntity other.entityName

/-- The listed relations that come from the entity of an object. -/
def referencedByFrom (description : Description) (object : TableObject) : List Relation :=
  description.referencedBy.filter fun relation => sameName relation.sourceEntity object.entityName

variable (schema : Schema) (object other : TableObject)

theorem mem_relationsBetween {schema : Schema} {object other : TableObject} {relation : Relation} :
    relation ∈ schema.relationsBetween object other ↔
      relation ∈ schema.relations ∧
        lowercase relation.sourceEntity = lowercase object.entityName ∧
        lowercase relation.targetEntity = lowercase other.entityName := by
  rw [Schema.relationsBetween, List.mem_filter, Bool.and_eq_true, sameName_iff, sameName_iff]

theorem referencesTo_ofObject :
    (ofObject schema object).referencesTo other =
      distinctBy Relation.referenceKey (schema.relationsBetween object other) := by
  have listed : (ofObject schema object).references =
      distinctBy Relation.referenceKey
        (schema.relations.filter fun relation =>
          sameName relation.sourceEntity object.entityName) :=
    rfl
  have ofKey : ∀ left right : Relation, left.referenceKey = right.referenceKey →
      sameName left.targetEntity other.entityName =
        sameName right.targetEntity other.entityName := by
    intro left right same
    rw [sameName, sameName, (Relation.referenceKey_eq_iff.mp same).2]
  rw [referencesTo, listed, filter_distinctBy ofKey, List.filter_filter, Schema.relationsBetween]
  apply congrArg
  apply List.filter_congr
  intro relation _
  exact Bool.and_comm ..

theorem referencedByFrom_ofObject :
    (ofObject schema other).referencedByFrom object =
      distinctBy Relation.referrerKey (schema.relationsBetween object other) := by
  have listed : (ofObject schema other).referencedBy =
      distinctBy Relation.referrerKey
        (schema.relations.filter fun relation =>
          sameName relation.targetEntity other.entityName) :=
    rfl
  have ofKey : ∀ left right : Relation, left.referrerKey = right.referrerKey →
      sameName left.sourceEntity object.entityName =
        sameName right.sourceEntity object.entityName := by
    intro left right same
    rw [sameName, sameName, (Relation.referrerKey_eq_iff.mp same).1]
  rw [referencedByFrom, listed, filter_distinctBy ofKey, List.filter_filter,
    Schema.relationsBetween]

/-- Both ends list the same relations, in the same order: between two entities only the
referring fields tell relations apart. -/
theorem referencesTo_eq_referencedByFrom :
    (ofObject schema object).referencesTo other = (ofObject schema other).referencedByFrom object := by
  rw [referencesTo_ofObject, referencedByFrom_ofObject]
  apply distinctBy_congr
  intro left leftMember right rightMember
  obtain ⟨-, leftSource, leftTarget⟩ := mem_relationsBetween.mp leftMember
  obtain ⟨-, rightSource, rightTarget⟩ := mem_relationsBetween.mp rightMember
  have sources : lowercase left.sourceEntity = lowercase right.sourceEntity :=
    leftSource.trans rightSource.symm
  have targets : lowercase left.targetEntity = lowercase right.targetEntity :=
    leftTarget.trans rightTarget.symm
  rw [Relation.referenceKey_eq_iff, Relation.referrerKey_eq_iff, and_iff_left targets,
    and_iff_right sources]

/-- One entity lists a reference from a field to another entity exactly if the other
lists a relation from that field of the first; neither list has two relations with the
same key. -/
theorem references_dual_referencedBy :
    (ofObject schema object).referencesTo other =
        (ofObject schema other).referencedByFrom object ∧
      (∀ field : String,
        (∃ relation ∈ (ofObject schema object).references,
          sameName relation.sourceField field = true ∧
            sameName relation.targetEntity other.entityName = true) ↔
        ∃ relation ∈ (ofObject schema other).referencedBy,
          sameName relation.sourceEntity object.entityName = true ∧
            sameName relation.sourceField field = true) ∧
      ((ofObject schema object).references.map fun relation =>
        (lowercase relation.sourceField, lowercase relation.targetEntity)).Nodup ∧
      ((ofObject schema other).referencedBy.map fun relation =>
        (lowercase relation.sourceEntity, lowercase relation.sourceField)).Nodup := by
  have same := referencesTo_eq_referencedByFrom schema object other
  refine ⟨same, fun field => ⟨?_, ?_⟩, nodup_map_distinctBy .., nodup_map_distinctBy ..⟩
  · rintro ⟨relation, listed, ofField, toOther⟩
    have atOther : relation ∈ (ofObject schema other).referencedByFrom object := by
      rw [← same]
      exact List.mem_filter.mpr ⟨listed, toOther⟩
    obtain ⟨listedThere, fromObject⟩ := List.mem_filter.mp atOther
    exact ⟨relation, listedThere, fromObject, ofField⟩
  · rintro ⟨relation, listed, fromObject, ofField⟩
    have atObject : relation ∈ (ofObject schema object).referencesTo other := by
      rw [same]
      exact List.mem_filter.mpr ⟨listed, fromObject⟩
    obtain ⟨listedThere, toOther⟩ := List.mem_filter.mp atObject
    exact ⟨relation, listedThere, ofField, toOther⟩

end Description

end TableAtlas
