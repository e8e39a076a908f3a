import TableAtlas.Proofs.FieldLinking
import TableAtlas.Proofs.MergedFields
import TableAtlas.Schema.Assembly

/-!
# Primary key flags

A declaration flags the fields that its own primary key lists.  Merging copies
fields with their flags but copies no keys, so the flags of a merged table agree
with its primary key exactly if the copied fields play the same part in both
primary keys.
-/

namespace TableAtlas

open TableAtlas.Text TableAtlas.Source

namespace TableObject

/-- Whether the object has a primary key that lists a name, in any case. -/
def KeyLists (object : TableObject) (name : String) : Prop :=
  ∃ key, object.primaryKey? = some key ∧ ∃ listed ∈ key.fields, lowercase listed = lowercase name

/-- Exactly the fields that the primary key lists are flagged. -/
def FlagsAgree (object : TableObject) : Prop :=
  ∀ field ∈ object.fields, field.isPrimaryKey = true ↔ object.KeyLists field.name

theorem mem_primaryNames_iff {object : TableObject} {name : String} :
    lowercase name ∈ object.primaryNames ↔ object.KeyLists name := by
  unfold primaryNames KeyLists
  cases object.primaryKey? with
  | none => simp
  | some key => simp

instance (object : TableObject) (name : String) : Decidable (object.KeyLists name) :=
  decidable_of_iff (lowercase name ∈ object.primaryNames) mem_primaryNames_iff

instance (object : TableObject) : Decidable object.FlagsAgree :=
  inferInstanceAs (Decidable (∀ field ∈ object.fields, _))

/-! ## Declared objects -/

variable {common : NamePrefix} {file : String}

private theorem isPrimaryKey_ofDeclaration {declaration : TableDeclaration} {field : Field}
    (member : field ∈ (ofDeclaration common file declaration).fields) :
    field.isPrimaryKey = false := by
  obtain ⟨declared, -, rfl⟩ := List.mem_map.mp member
  rfl

private theorem flagsAgree_linkFields {object : TableObject}
    (unflagged : ∀ field ∈ object.fields, field.isPrimaryKey = false) :
    (object.linkFields common).FlagsAgree := by
  intro field member
  obtain ⟨unlinked, unlinkedMember, rfl⟩ := List.mem_map.mp member
  rw [linkField_isPrimaryKey, unflagged unlinked unlinkedMember, Bool.false_or, linkField_name,
    List.contains_iff_mem]
  exact mem_primaryNames_iff

theorem flagsAgree_of_mem_allIn {text : String} {object : TableObject}
    (member : object ∈ allIn common file text) : object.FlagsAgree := by
  obtain ⟨declaration, -, rfl⟩ := List.mem_map.mp member
  exact flagsAgree_linkFields fun field => isPrimaryKey_ofDeclaration

end TableObject

namespace SourceFile

theorem flagsAgree_of_mem_objects {common : NamePrefix} {file : SourceFile} {object : TableObject}
    (member : object ∈ file.objects common) : object.FlagsAgree := by
  unfold objects at member
  split at member
  · exact TableObject.flagsAgree_of_mem_allIn member
  · simp at member

end SourceFile

/-! ## Merged objects -/

theorem TableObject.keyLists_withContributions {objects : List TableObject}
    {object : TableObject} {name : String} :
    (object.withContributions objects).KeyLists name ↔ object.KeyLists name :=
  Iff.rfl

theorem flagsAgree_iff_of_mem_mergeExtensions {objects : List TableObject} {merged : TableObject}
    (declared : ∀ object ∈ objects, object.FlagsAgree)
    (member : merged ∈ mergeExtensions objects) :
    merged.FlagsAgree ↔
      ∀ extension ∈ objects, extension.extendsTable merged.name = true →
        ∀ field ∈ extension.fields, field ∈ merged.fields →
          (extension.KeyLists field.name ↔ merged.KeyLists field.name) := by
  constructor
  · intro agree extension extensionMember _ field fieldMember shown
    exact (declared extension extensionMember field fieldMember).symm.trans (agree field shown)
  · intro samePart field shown
    obtain ⟨object, objectMember, rfl | ⟨-, rfl⟩⟩ := mem_mergeExtensions member
    · exact declared merged objectMember field shown
    · rcases TableObject.mem_withContributions shown with own | contributed
      · exact (declared object objectMember field own).trans
          TableObject.keyLists_withContributions.symm
      · obtain ⟨extension, extensionMember, extended, fieldMember⟩ := contributed
        exact (declared extension extensionMember field fieldMember).trans
          (samePart extension extensionMember extended field fieldMember shown)

namespace Schema

/-- The objects that the files of a project declare. -/
def declaredObjects (common : NamePrefix) (sources : Sources) : List TableObject :=
  sources.files.flatMap (·.objects common)

/-- The flags of an object of a schema agree with its primary key exactly if each
extension of it gives the fields it contributes the part that they play in that key. -/
theorem flagsAgree_iff (common : NamePrefix) (sources : Sources) {object : TableObject}
    (member : object ∈ (ofSources common sources).objects) :
    object.FlagsAgree ↔
      ∀ extension ∈ declaredObjects common sources, extension.extendsTable object.name = true →
        ∀ field ∈ extension.fields, field ∈ object.fields →
          (extension.KeyLists field.name ↔ object.KeyLists field.name) := by
  have declared : ∀ object ∈ declaredObjects common sources, object.FlagsAgree := by
    intro object objectMember
    obtain ⟨file, -, inFile⟩ := List.mem_flatMap.mp objectMember
    exact SourceFile.flagsAgree_of_mem_objects inFile
  exact flagsAgree_iff_of_mem_mergeExtensions declared (List.mem_filter.mp member).1

/-- A table and an extension that lists none of the fields it contributes. -/
def agreeingSources : Sources :=
  (TextFiles.ofList [("a.al",
    "table 1 A \x7b fields \x7b field(1; X; Integer) \x7d keys \x7b key(PK; X) \x7d \x7d" ++
    "tableextension 2 B extends A \x7b fields \x7b field(2; Y; Integer) \x7d \x7d")]).sources

theorem flagsAgree_agreeingSources :
    ∃ object ∈ (ofSources .none agreeingSources).objects,
      object.name = "A" ∧ object.fields.length = 2 ∧ object.FlagsAgree := by
  obtain ⟨object, member, name, length, samePart⟩ :
      ∃ object ∈ (ofSources .none agreeingSources).objects,
        object.name = "A" ∧ object.fields.length = 2 ∧
          ∀ extension ∈ declaredObjects .none agreeingSources,
            extension.extendsTable object.name = true →
              ∀ field ∈ extension.fields, field ∈ object.fields →
                (extension.KeyLists field.name ↔ object.KeyLists field.name) := by
    decide +kernel
  exact ⟨object, member, name, length, (flagsAgree_iff .none agreeingSources member).mpr samePart⟩

/-- A table whose key lists a field of its extension, which in turn lists another one. -/
def disagreeingSources : Sources :=
  (TextFiles.ofList [("a.al",
    "table 1 A \x7b fields \x7b field(1; X; Integer) \x7d keys \x7b key(PK; X, Y) \x7d \x7d" ++
    "tableextension 2 B extends A \x7b fields \x7b field(2; Y; Integer)" ++
    "field(3; Z; Integer) \x7d keys \x7b key(K; Z) \x7d \x7d")]).sources

/-- In the merged table the listed field is not flagged, and the other one is. -/
theorem not_flagsAgree_disagreeingSources :
    ∃ object ∈ (ofSources .none disagreeingSources).objects, object.name = "A" ∧
      object.fields.map (fun field => (field.name, field.isPrimaryKey)) =
        [("X", true), ("Y", false), ("Z", true)] ∧
      object.KeyLists "Y" ∧ ¬object.KeyLists "Z" ∧ ¬object.FlagsAgree := by
  decide +kernel

end Schema

end TableAtlas
