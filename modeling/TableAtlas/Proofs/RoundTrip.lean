import TableAtlas.Proofs.CanonicalText

/-!
# Reading canonical texts back

Parsing the canonical text of canonical objects gives the objects back.  The
argument follows the declarations from the inside out: first the properties of
a field, then fields and keys, then the sections of a body, then whole objects.
-/

namespace TableAtlas

open TableAtlas.Text TableAtlas.Source

variable {common : NamePrefix}

/-! ## Fields -/

namespace Field

variable {field : Field}

private theorem forall_relatedFieldName? {written : String → List Char}
    {motive : List Char → Prop}
    (related : field.relatedField ≠ "" → motive (written field.relatedField)) :
    ∀ name ∈ field.relatedFieldName?.map written, motive name := by
  intro name member
  by_cases empty : field.relatedField = ""
  · simp [relatedFieldName?, empty] at member
  · simp only [relatedFieldName?, empty, if_false, Option.map_some, Option.mem_def,
      Option.some.injEq] at member
    exact member ▸ related empty

theorem balanced_captionAssignment (common : NamePrefix) (caption : String) {rest : List Char}
    (balanced : Balanced rest) : Balanced (captionAssignment common caption ++ rest) :=
  .assignment_append rfl (.quotedValue_append _ (.plain rfl balanced))

private theorem balanced_relationAssignment (canonical : field.Canonical common)
    {rest : List Char} (balanced : Balanced rest) :
    Balanced (field.relationAssignment common ++ rest) := by
  by_cases unrelated : field.relatedEntity = ""
  · simpa [relationAssignment, unrelated] using balanced
  · rw [relationAssignment, if_neg unrelated]
    apply Balanced.assignment_append rfl
    apply Balanced.relationText_append (canonical.entityRelatable unrelated).unquoted
    · exact forall_relatedFieldName? fun related => (canonical.fieldRelatable related).unquoted
    · exact .plain rfl balanced

theorem written_toDeclaration (canonical : field.Canonical common) :
    (field.toDeclaration common).Written where
  number := ⟨field.id, rfl⟩
  name := canonical.name
  typeTrimmed := canonical.typeTrimmed
  typeArgument := canonical.typeArgument
  properties := by
    have relation := balanced_relationAssignment canonical .space
    have whole := balanced_captionAssignment common field.caption relation
    simpa [toDeclaration] using whole

private theorem passedOver_relationAssignment {word : List Char} {mark : Char}
    (punctuated : isPunctuated word mark = true)
    (headAvoids : Avoids word mark (' ' :: (relationProperty ++ [' ', '=', ' '])))
    (entityAvoids : field.relatedEntity ≠ "" → Avoids word mark (common.attach field.relatedEntity))
    (fieldAvoids : field.relatedField ≠ "" → Avoids word mark (common.attach field.relatedField)) :
    PassedOver word mark (field.relationAssignment common) := by
  by_cases unrelated : field.relatedEntity = ""
  · rw [relationAssignment, if_pos unrelated]
    exact .nil
  · rw [relationAssignment, if_neg unrelated]
    exact .assignment_relationText punctuated headAvoids (entityAvoids unrelated)
      (forall_relatedFieldName? fieldAvoids)

theorem passedOver_captionAssignment {word : List Char} {mark : Char} {caption : String}
    (punctuated : isPunctuated word mark = true)
    (headAvoids : Avoids word mark (' ' :: (captionProperty ++ [' ', '=', ' '])))
    (avoids : Avoids word mark (common.attach caption)) :
    PassedOver word mark (captionAssignment common caption) :=
  .assignment_quotedValue punctuated headAvoids avoids

theorem passedOver_toDeclaration (canonical : field.Canonical common) :
    PassedOver keysKeyword '{' (' ' :: (field.toDeclaration common).text) := by
  have caption : PassedOver keysKeyword '{' (captionAssignment common field.caption) :=
    passedOver_captionAssignment rfl rfl canonical.captionAvoidsKeys
  have relation : PassedOver keysKeyword '{' (field.relationAssignment common) :=
    passedOver_relationAssignment rfl rfl
      (fun related => (canonical.entityRelatable related).avoidsKeys)
      (fun related => (canonical.fieldRelatable related).avoidsKeys)
  exact FieldDeclaration.passedOver_text (written_toDeclaration canonical)
    canonical.nameAvoidsKeys canonical.typeAvoidsKeys rfl (caption.append relation)

theorem fieldClass_toDeclaration (canonical : field.Canonical common) :
    (field.toDeclaration common).fieldClass = .normal := by
  have caption : PassedOver classProperty '=' (captionAssignment common field.caption) :=
    passedOver_captionAssignment rfl rfl canonical.captionAvoidsClass
  have relation : PassedOver classProperty '=' (field.relationAssignment common) :=
    passedOver_relationAssignment rfl rfl
      (fun related => (canonical.entityRelatable related).avoidsClass)
      (fun related => (canonical.fieldRelatable related).avoidsClass)
  have undeclared := propertyValue_of_passedOver (caption.append relation)
  rw [FieldDeclaration.fieldClass, toDeclaration, undeclared]
  rfl

private theorem propertyValue_caption (common : NamePrefix) (field : Field) :
    propertyValue captionProperty (field.toDeclaration common).properties =
      common.attach field.caption := by
  have read : quotedProperty? captionProperty ([] ++ (captionAssignment common field.caption ++
      (field.relationAssignment common ++ [' ']))) = some (common.attach field.caption) :=
    quotedProperty?_assignment .nil rfl _ _
  have spelled : (field.toDeclaration common).properties =
      [] ++ (captionAssignment common field.caption ++
        (field.relationAssignment common ++ [' '])) := by
    simp [toDeclaration]
  rw [spelled, propertyValue, read]
  rfl

private theorem stripQuoted_relationExpression (canonical : field.Canonical common) :
    String.ofList (common.stripQuoted
      (Source.relationExpression (field.toDeclaration common).properties)) = field.relation := by
  have caption : PassedOver relationProperty '=' (captionAssignment common field.caption) :=
    passedOver_captionAssignment rfl rfl canonical.captionAvoidsRelation
  rw [canonical.relation, Field.relationExpression]
  by_cases unrelated : field.relatedEntity = ""
  · have undeclared := relationExpression_of_passedOver caption
    have spelled : (field.toDeclaration common).properties =
        captionAssignment common field.caption ++ [' '] := by
      simp [toDeclaration, relationAssignment, unrelated]
    rw [spelled, undeclared, if_pos unrelated]
    rfl
  · have entity := canonical.entityRelatable unrelated
    have fieldUnquoted : ∀ name ∈ field.relatedFieldName?.map common.attach, '"' ∉ name :=
      forall_relatedFieldName? fun related => (canonical.fieldRelatable related).unquoted
    have fieldSpaced : ∀ name ∈ field.relatedFieldName?.map common.attach,
        joinBlanks false name = name :=
      forall_relatedFieldName? fun related => (canonical.fieldRelatable related).spaced
    have fieldNonempty : ∀ name ∈ field.relatedFieldName?.map common.attach, name ≠ [] :=
      forall_relatedFieldName? fun related => common.attach_ne_nil related
    have declared := relationExpression_assignment caption entity.unquoted fieldUnquoted
      entity.spaced fieldSpaced [' ']
    have stripped := common.stripQuoted_relationText entity.unquoted fieldUnquoted
      (common.attach_ne_nil unrelated) fieldNonempty
    have spelled : (field.toDeclaration common).properties =
        captionAssignment common field.caption ++
          (assignment relationProperty (relationText (common.attach field.relatedEntity)
            (field.relatedFieldName?.map common.attach)) ++ [' ']) := by
      simp [toDeclaration, relationAssignment, unrelated]
    rw [spelled, declared, stripped, if_neg unrelated, NamePrefix.strip_attach, Option.map_map]
    simp only [Function.comp_def, NamePrefix.strip_attach]

/-- The declaration of a canonical field gives the field back, not yet linked. -/
private theorem toField_toDeclaration (canonical : field.Canonical common) :
    (field.toDeclaration common).toField common =
      { field with
        isPrimaryKey := false
        isForeignKey := false
        relatedEntity := ""
        relatedField := "" } := by
  have name : String.ofList (common.strip (field.toDeclaration common).name) = field.name := by
    simp [toDeclaration]
  have captioned : (common.attach field.caption).isEmpty = false := by
    simpa using canonical.caption
  have id : idOfDigits (field.toDeclaration common).number = field.id :=
    idOfDigits_toDigits canonical.id
  have type : String.ofList (field.toDeclaration common).type = field.type := by
    simp [toDeclaration]
  simp only [FieldDeclaration.toField, id, name, type, propertyValue_caption, captioned,
    fieldClass_toDeclaration canonical, stripQuoted_relationExpression canonical]
  simp [canonical.fieldClass]

private theorem ofExpression_relation (canonical : field.Canonical common)
    (related : field.relatedEntity ≠ "") :
    RelationTarget.ofExpression common field.relation.toList =
      ⟨field.relatedEntity.toList, field.relatedField.toList⟩ := by
  have entity := canonical.entityRelatable related
  have nonempty : field.relatedEntity.toList ≠ [] := by simpa using related
  rw [canonical.relation, Field.relationExpression, if_neg related, String.toList_ofList]
  have fieldUnquoted : ∀ name ∈ field.relatedFieldName?.map String.toList, '"' ∉ name :=
    forall_relatedFieldName? fun related => (canonical.fieldRelatable related).unquoted_toList
  have resolved := RelationTarget.ofExpression_relationText common entity.unquoted_toList
    fieldUnquoted nonempty
  have target : ((field.relatedFieldName?.map String.toList).map common.strip).getD [] =
      field.relatedField.toList := by
    by_cases unnamed : field.relatedField = ""
    · simp [relatedFieldName?, unnamed]
    · simp [relatedFieldName?, unnamed, (canonical.fieldRelatable unnamed).stable]
  rw [resolved, target, entity.stable]

private theorem linkField_toDeclaration (canonical : field.Canonical common)
    {primaryNames : List String}
    (isPrimary : field.isPrimaryKey = primaryNames.contains (lowercase field.name)) :
    TableObject.linkField common primaryNames ((field.toDeclaration common).toField common) =
      field := by
  rw [toField_toDeclaration canonical]
  by_cases unrelated : field.relatedEntity = ""
  · have empty : field.relation = "" := by
      rw [canonical.relation, Field.relationExpression, if_pos unrelated]
    have isForeign : field.isForeignKey = false := by
      simp [canonical.isForeignKey, unrelated]
    have fieldless := canonical.relatedField unrelated
    cases field
    simp_all [TableObject.linkField]
  · have declared : field.relation ≠ "" := by
      rw [canonical.relation, Field.relationExpression, if_neg unrelated]
      cases named : field.relatedFieldName? <;> simp [relationText, quotedName]
    have isForeign : field.isForeignKey = true := by
      simp [canonical.isForeignKey, unrelated]
    have resolved := ofExpression_relation canonical unrelated
    simp only [TableObject.linkField, declared, if_false, resolved, Bool.false_or, ← isPrimary,
      String.ofList_toList, ← isForeign]

end Field

/-! ## Keys -/

namespace Key

variable {key : Key}

theorem written_toDeclaration (canonical : key.Canonical common) :
    (key.toDeclaration common).Written where
  name := canonical.name
  fields := by
    intro name member
    obtain ⟨field, fieldMember, rfl⟩ := List.mem_map.mp member
    exact canonical.fields field fieldMember

private theorem toKey_toDeclaration (common : NamePrefix) (key : Key) :
    (key.toDeclaration common).toKey common key.isPrimaryKey = key := by
  have fields : (key.fields.map common.attach).map
      (fun field => String.ofList (common.strip field)) = key.fields :=
    map_map_eq_self fun field _ => by simp
  simp [toDeclaration, KeyDeclaration.toKey, fields]

private theorem map_toKey_toDeclaration (common : NamePrefix) {keys : List Key} {isPrimary : Bool}
    (flags : ∀ key ∈ keys, key.isPrimaryKey = isPrimary) :
    (keys.map (·.toDeclaration common)).map (·.toKey common isPrimary) = keys := by
  apply map_map_eq_self
  intro key member
  rw [← flags key member]
  exact toKey_toDeclaration common key

end Key

/-! ## Objects -/

namespace TableObject

variable {file : String} {object : TableObject}

private theorem passedOver_captionText {word : List Char} {mark : Char}
    (punctuated : isPunctuated word mark = true)
    (headAvoids : Avoids word mark (' ' :: (captionProperty ++ [' ', '=', ' '])))
    (avoids : object.caption ≠ "" → Avoids word mark (common.attach object.caption)) :
    PassedOver word mark (object.captionText common) := by
  by_cases empty : object.caption = ""
  · rw [captionText, if_pos empty]
    exact .nil
  · rw [captionText, if_neg empty]
    exact Field.passedOver_captionAssignment punctuated headAvoids (avoids empty)

private theorem fieldTexts_balanced (canonical : object.Canonical common file) :
    ∀ text ∈ (object.fields.map (·.toDeclaration common)).map FieldDeclaration.text,
      Balanced text := by
  intro text member
  obtain ⟨_, declared, rfl⟩ := List.mem_map.mp member
  obtain ⟨field, fieldMember, rfl⟩ := List.mem_map.mp declared
  have fieldCanonical := canonical.fields field fieldMember
  exact FieldDeclaration.balanced_text (Field.written_toDeclaration fieldCanonical)
    fieldCanonical.typeBalanced

private theorem keyTexts_balanced (canonical : object.Canonical common file) :
    ∀ text ∈ (object.keys.map (·.toDeclaration common)).map KeyDeclaration.text,
      Balanced text := by
  intro text member
  obtain ⟨_, declared, rfl⟩ := List.mem_map.mp member
  obtain ⟨key, keyMember, rfl⟩ := List.mem_map.mp declared
  exact KeyDeclaration.balanced_text (Key.written_toDeclaration (canonical.keys key keyMember))

private theorem balanced_bodyText (canonical : object.Canonical common file) :
    Balanced (object.bodyText common) := by
  have keys : Balanced (sectionText keysKeyword _) :=
    .sectionText rfl (keyTexts_balanced canonical)
  have fields : Balanced (sectionText fieldsKeyword _) :=
    .sectionText rfl (fieldTexts_balanced canonical)
  have sections := fields.append (keys.append .space (by simp)) (by simp [sectionText])
  by_cases empty : object.caption = ""
  · rw [bodyText, captionText, if_pos empty]
    exact sections
  · rw [bodyText, captionText, if_neg empty]
    exact Field.balanced_captionAssignment common object.caption sections

theorem written_toDeclaration (canonical : object.Canonical common file) :
    (object.toDeclaration common).Written where
  keyword := ⟨object.kind, rfl⟩
  number := ⟨object.id, rfl⟩
  nameUnquoted := canonical.nameUnquoted
  nameNonempty := canonical.nameNonempty
  baseUnquoted := by
    by_cases empty : object.base = ""
    · simp [toDeclaration, empty]
    · simpa [toDeclaration, empty] using canonical.baseUnquoted empty
  body := balanced_bodyText canonical

private theorem kind_toDeclaration (common : NamePrefix) (object : TableObject) :
    (object.toDeclaration common).kind = object.kind := by
  cases kind : object.kind <;> simp only [TableDeclaration.kind, toDeclaration, kind] <;> decide

private theorem all_fieldSection (canonical : object.Canonical common file) :
    FieldDeclaration.recogniser.all (sectionBody fieldsKeyword (object.bodyText common)) =
      object.fields.map (·.toDeclaration common) := by
  have caption : PassedOver fieldsKeyword '{' (object.captionText common) :=
    passedOver_captionText rfl rfl canonical.captionAvoidsFields
  apply all_sectionBody FieldDeclaration.recogniser caption rfl
  · exact fun declaration _ => declaration.startsWord_text
  · intro declaration member rest
    obtain ⟨field, fieldMember, rfl⟩ := List.mem_map.mp member
    exact FieldDeclaration.read_text
      (Field.written_toDeclaration (canonical.fields field fieldMember)) rest
  · exact Balanced.flatMap_space_append (fieldTexts_balanced canonical)

private theorem all_keySection (canonical : object.Canonical common file) :
    KeyDeclaration.recogniser.all (sectionBody keysKeyword (object.bodyText common)) =
      object.keys.map (·.toDeclaration common) := by
  have caption : PassedOver keysKeyword '{' (object.captionText common) :=
    passedOver_captionText rfl rfl canonical.captionAvoidsKeys
  have fields : PassedOver keysKeyword '{' (sectionText fieldsKeyword
      ((object.fields.map (·.toDeclaration common)).map FieldDeclaration.text)) := by
    apply PassedOver.fieldSection
    intro text member
    obtain ⟨_, declared, rfl⟩ := List.mem_map.mp member
    obtain ⟨field, fieldMember, rfl⟩ := List.mem_map.mp declared
    exact Field.passedOver_toDeclaration (canonical.fields field fieldMember)
  rw [bodyText, ← List.append_assoc]
  apply all_sectionBody KeyDeclaration.recogniser (caption.append fields) rfl
  · exact fun declaration _ => declaration.startsWord_text
  · intro declaration member rest
    obtain ⟨key, keyMember, rfl⟩ := List.mem_map.mp member
    exact KeyDeclaration.read_text
      (Key.written_toDeclaration (canonical.keys key keyMember)) rest
  · exact Balanced.flatMap_space_append (keyTexts_balanced canonical)

private theorem storedFields_bodyText (canonical : object.Canonical common file) :
    storedFields common (object.bodyText common) =
      object.fields.map fun field => (field.toDeclaration common).toField common := by
  have stored : ∀ declaration ∈ object.fields.map (·.toDeclaration common),
      (!declaration.fieldClass.isComputed) = true := by
    intro declaration member
    obtain ⟨field, fieldMember, rfl⟩ := List.mem_map.mp member
    rw [Field.fieldClass_toDeclaration (canonical.fields field fieldMember)]
    rfl
  rw [storedFields, all_fieldSection canonical, List.filter_eq_self.mpr stored, List.map_map]
  rfl

private theorem declaredKeys_bodyText (canonical : object.Canonical common file) :
    declaredKeys common (object.bodyText common) = object.keys := by
  have first := canonical.firstKeyPrimary
  have others := canonical.otherKeysSecondary
  rw [declaredKeys, all_keySection canonical]
  cases keys : object.keys with
  | nil => rfl
  | cons key later =>
      rw [keys] at first others
      have isPrimary : key.isPrimaryKey = true := first key rfl
      have primary := Key.toKey_toDeclaration common key
      rw [isPrimary] at primary
      have secondary := Key.map_toKey_toDeclaration common others
      simp only [List.tail_cons] at secondary
      simp only [List.map_cons, primary, secondary]

private theorem caption_bodyText (canonical : object.Canonical common file) :
    String.ofList (common.strip (TableDeclaration.caption (object.bodyText common))) =
      object.caption := by
  have passed : PassedOver fieldsKeyword '{' (object.captionText common) :=
    passedOver_captionText rfl rfl canonical.captionAvoidsFields
  have region : TableDeclaration.captionRegion (object.bodyText common) =
      object.captionText common ++ [' '] := by
    rw [TableDeclaration.captionRegion, bodyText, findSection_sectionText passed rfl]
  rw [TableDeclaration.caption, region]
  by_cases empty : object.caption = ""
  · have nothing : quotedProperty? captionProperty [' '] = none := rfl
    rw [captionText, if_pos empty, List.nil_append, nothing, Option.getD_none,
      NamePrefix.strip_nil, empty]
  · have read : quotedProperty? captionProperty
        ([] ++ (Field.captionAssignment common object.caption ++ [' '])) =
          some (common.attach object.caption) :=
      quotedProperty?_assignment .nil rfl _ _
    rw [List.nil_append] at read
    rw [captionText, if_neg empty, read, Option.getD_some, NamePrefix.strip_attach,
      String.ofList_toList]

/-- The declaration of a canonical object gives the object back. -/
private theorem linkFields_toDeclaration (canonical : object.Canonical common file) :
    (ofDeclaration common file (object.toDeclaration common)).linkFields common = object := by
  have id : idOfDigits (object.toDeclaration common).number = object.id :=
    idOfDigits_toDigits canonical.id
  have name : String.ofList (common.strip (object.toDeclaration common).name) = object.name := by
    simp [toDeclaration]
  have base : String.ofList (common.strip (object.toDeclaration common).base) = object.base := by
    by_cases empty : object.base = ""
    · simp [toDeclaration, empty, NamePrefix.strip_nil]
    · simp [toDeclaration, empty]
  have caption := caption_bodyText canonical
  have unlinked : ofDeclaration common file (object.toDeclaration common) =
      { object with
        fields := object.fields.map fun field =>
          (field.toDeclaration common).toField common } := by
    have body : (object.toDeclaration common).body = object.bodyText common := rfl
    rw [ofDeclaration, id, name, base, body, caption, kind_toDeclaration,
      storedFields_bodyText canonical, declaredKeys_bodyText canonical, canonical.file]
  have linked : (object.fields.map fun field =>
      (field.toDeclaration common).toField common).map (linkField common object.primaryNames) =
        object.fields := by
    apply map_map_eq_self
    intro field member
    exact Field.linkField_toDeclaration (canonical.fields field member)
      (canonical.primaryFields field member)
  rw [unlinked, linkFields]
  exact congrArg (fun fields => { object with fields := fields }) linked

/-- Parsing the canonical text of canonical objects gives exactly these objects. -/
theorem allIn_canonicalText (common : NamePrefix) (file : String) (objects : List TableObject)
    (canonical : ∀ object ∈ objects, object.Canonical common file) :
    allIn common file (canonicalText common objects) = objects := by
  have declared : TableDeclaration.recogniser.all (canonicalText common objects).toList =
      objects.map (·.toDeclaration common) := by
    have nothing : ∀ c ∈ ([] : List Char), isWordChar c = false := by simp
    have newline : ∀ c ∈ ['\n'], isWordChar c = false := List.forall_mem_singleton.mpr rfl
    have written : ∀ declaration ∈ objects.map (·.toDeclaration common), declaration.Written := by
      intro declaration member
      obtain ⟨object, objectMember, rfl⟩ := List.mem_map.mp member
      exact written_toDeclaration (canonical object objectMember)
    have recognised := TableDeclaration.recogniser.all_flatMap nothing newline nothing
      (fun declaration member => TableDeclaration.startsWord_text (written declaration member))
      (fun declaration member => TableDeclaration.read_text (written declaration member))
    simpa [canonicalText, List.flatMap_map] using recognised
  rw [allIn, declared]
  apply map_map_eq_self
  intro object member
  exact linkFields_toDeclaration (canonical object member)

/-- A table with a caption, a key and a field in it. -/
def sampleTable : TableObject where
  id := 50100
  name := "Customer"
  caption := "Customer\x27s card"
  kind := .table
  base := ""
  fields := [⟨1, "No.", "Code[20]", "Number", .normal, "", true, false, "", ""⟩]
  keys := [⟨"PK", ["no."], true⟩]
  file := "customer.al"

def sampleExtension : TableObject where
  id := 50101
  name := "Sales Extension"
  caption := ""
  kind := .tableExtension
  base := "Sales Header"
  fields :=
    [⟨50100, "Payer", "Code[20]", "Paid by", .normal, "\"Customer\".\"No.\"", false, true,
      "Customer", "No."⟩]
  keys := []
  file := "customer.al"

/-- The prefix in front of the names of the sample objects. -/
def sampleCommon : NamePrefix :=
  ⟨['A', 'B', 'C', ' ']⟩

private theorem canonical_sampleTable :
    sampleTable.Canonical sampleCommon "customer.al" where
  file := rfl
  id := by decide
  nameUnquoted := by decide
  nameNonempty := by decide
  baseUnquoted := fun extended => absurd rfl extended
  captionAvoidsFields := fun _ => rfl
  captionAvoidsKeys := fun _ => rfl
  fields := List.forall_mem_singleton.mpr
    { id := by decide
      name := ⟨by decide, by decide, rfl⟩
      nameAvoidsKeys := rfl
      typeTrimmed := rfl
      typeArgument := rfl
      typeBalanced := .of_plain rfl
      typeAvoidsKeys := rfl
      caption := by decide
      captionAvoidsRelation := rfl
      captionAvoidsClass := rfl
      captionAvoidsKeys := rfl
      fieldClass := rfl
      relation := rfl
      isForeignKey := rfl
      relatedField := fun _ => rfl
      entityRelatable := fun related => absurd rfl related
      fieldRelatable := fun related => absurd rfl related }
  keys := List.forall_mem_singleton.mpr
    { name := ⟨by decide, by decide, rfl⟩
      fields := List.forall_mem_singleton.mpr ⟨by decide, by decide, rfl⟩ }
  firstKeyPrimary := by simp [sampleTable]
  otherKeysSecondary := by simp [sampleTable]
  primaryFields := List.forall_mem_singleton.mpr rfl

private theorem canonical_sampleExtension :
    sampleExtension.Canonical sampleCommon "customer.al" where
  file := rfl
  id := by decide
  nameUnquoted := by decide
  nameNonempty := by decide
  baseUnquoted := by decide
  captionAvoidsFields := fun captioned => absurd rfl captioned
  captionAvoidsKeys := fun captioned => absurd rfl captioned
  fields := List.forall_mem_singleton.mpr
    { id := by decide
      name := ⟨by decide, by decide, rfl⟩
      nameAvoidsKeys := rfl
      typeTrimmed := rfl
      typeArgument := rfl
      typeBalanced := .of_plain rfl
      typeAvoidsKeys := rfl
      caption := by decide
      captionAvoidsRelation := rfl
      captionAvoidsClass := rfl
      captionAvoidsKeys := rfl
      fieldClass := rfl
      relation := rfl
      isForeignKey := rfl
      relatedField := fun unrelated => absurd unrelated (by decide)
      entityRelatable := fun _ => ⟨by decide, rfl, rfl, rfl, rfl⟩
      fieldRelatable := fun _ => ⟨by decide, rfl, rfl, rfl, rfl⟩ }
  keys := by simp [sampleExtension]
  firstKeyPrimary := by simp [sampleExtension]
  otherKeysSecondary := by simp [sampleExtension]
  primaryFields := List.forall_mem_singleton.mpr rfl

theorem allIn_canonicalText_sample :
    allIn sampleCommon "customer.al"
      (canonicalText sampleCommon [sampleTable, sampleExtension]) =
        [sampleTable, sampleExtension] := by
  apply allIn_canonicalText
  intro object member
  simp only [List.mem_cons, List.not_mem_nil, or_false] at member
  rcases member with rfl | rfl
  · exact canonical_sampleTable
  · exact canonical_sampleExtension

def oneFieldTable (caption fieldCaption : String) : TableObject where
  id := 1
  name := "Item"
  caption := caption
  kind := .table
  base := ""
  fields := [⟨1, "No", "Integer", fieldCaption, .normal, "", false, false, "", ""⟩]
  keys := []
  file := "item.al"

/-- Not every object is told from its canonical text: a field name is trimmed
before a prefix that starts with a blank could be removed, the head of a field
section counts inside a caption too, and so does a property inside the caption
of a field. -/
theorem allIn_canonicalText_ne :
    allIn ⟨[' ', 'A']⟩ "item.al" (canonicalText ⟨[' ', 'A']⟩ [oneFieldTable "" "No"]) ≠
        [oneFieldTable "" "No"] ∧
      allIn .none "item.al" (canonicalText .none [oneFieldTable "Fields \x7b\x7d" "No"]) ≠
        [oneFieldTable "Fields \x7b\x7d" "No"] ∧
      allIn .none "item.al"
          (canonicalText .none [oneFieldTable "" "FieldClass = FlowField;"]) ≠
        [oneFieldTable "" "FieldClass = FlowField;"] := by
  refine ⟨?_, ?_, ?_⟩ <;> decide +kernel

end TableObject

end TableAtlas
