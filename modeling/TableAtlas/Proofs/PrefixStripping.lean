import TableAtlas.Proofs.DeclarationText
import TableAtlas.Proofs.FieldLinking
import TableAtlas.Proofs.TargetResolution

/-!
# Stripping declared and referenced names

A declaration strips the prefix from its name once, a relation strips it from
the names in its expression and again from the names it resolves.  Both ways
give the same name unless the prefix stands twice in front of it.
-/

namespace TableAtlas

open TableAtlas.Text TableAtlas.Source

/-! ## Names and texts that contain them -/

/-- A name without double quotes and outer blanks, and with single spaces only. -/
structure PlainName (name : List Char) : Prop extends QuotableName name where
  spaced : joinBlanks false name = name

/-- The text that declares a table of the given name. -/
def declaringText (name : List Char) : String :=
  String.ofList
    (TableDeclaration.text ⟨ObjectKind.table.keyword.toList, ['1'], name, [], [' ']⟩)

/-- The text that declares an extension of the table of the given name. -/
def extendingText (name : List Char) : String :=
  String.ofList
    (TableDeclaration.text ⟨ObjectKind.tableExtension.keyword.toList, ['2'], ['X'], name, [' ']⟩)

def fieldTable (declaration : List Char) : TableDeclaration :=
  ⟨ObjectKind.table.keyword.toList, ['1'], ['T'], [],
    sectionText fieldsKeyword [declaration] ++ [' ']⟩

/-- The text of a table with the given field declaration. -/
def fieldText (declaration : List Char) : String :=
  String.ofList (fieldTable declaration).text

/-- The declaration of a field of the given name. -/
def declaredField (name : List Char) : FieldDeclaration :=
  ⟨['1'], name, ['C', 'o', 'd', 'e', '[', '2', '0', ']'], []⟩

/-- The declaration of a field that refers to an entity and possibly a field of it. -/
def referringField (entity : List Char) (field : Option (List Char)) : FieldDeclaration :=
  { declaredField ['F'] with
    properties := assignment relationProperty (relationText entity field) ++ [' '] }

example : (declaringText ['A']).toList = "table 1 \"A\" \x7b \x7d".toList ∧
    (extendingText ['A']).toList = "tableextension 2 \"X\" extends \"A\" \x7b \x7d".toList ∧
    (declaredField ['A']).head = "field(1; \"A\"; Code[20])".toList ∧
    (referringField ['A'] none).text =
      "field(1; \"F\"; Code[20]) \x7b TableRelation = \"A\"; \x7d".toList ∧
    (fieldText ['f']).toList = "table 1 \"T\" \x7b fields \x7b f \x7d \x7d".toList := by decide

/-! ## Objects and fields of single declarations -/

section Single

variable {common : NamePrefix} {file : String}

private theorem allIn_text {declaration : TableDeclaration} (written : declaration.Written) :
    TableObject.allIn common file (String.ofList declaration.text) =
      [(TableObject.ofDeclaration common file declaration).linkFields common] := by
  have first : TableDeclaration.recogniser.all (declaration.text ++ []) =
      declaration :: TableDeclaration.recogniser.all [] :=
    TableDeclaration.recogniser.all_append (TableDeclaration.startsWord_text written)
      (TableDeclaration.read_text written [])
  have last : TableDeclaration.recogniser.all [] = [] :=
    TableDeclaration.recogniser.all_of_none rfl
  rw [List.append_nil, last] at first
  rw [TableObject.allIn, String.toList_ofList, first]
  rfl

private theorem name_declaringText {name : List Char} (plain : PlainName name) :
    (TableObject.allIn common file (declaringText name)).map (·.name) =
      [String.ofList (common.strip name)] := by
  have written : TableDeclaration.Written
      ⟨ObjectKind.table.keyword.toList, ['1'], name, [], [' ']⟩ :=
    ⟨⟨.table, rfl⟩, ⟨1, rfl⟩, plain.unquoted, plain.nonempty, by simp, .space⟩
  rw [declaringText, allIn_text written]
  rfl

private theorem base_extendingText {name : List Char} (plain : PlainName name) :
    (TableObject.allIn common file (extendingText name)).map (·.base) =
      [String.ofList (common.strip name)] := by
  have written : TableDeclaration.Written
      ⟨ObjectKind.tableExtension.keyword.toList, ['2'], ['X'], name, [' ']⟩ :=
    ⟨⟨.tableExtension, rfl⟩, ⟨2, rfl⟩, by simp, by simp, plain.unquoted, .space⟩
  rw [extendingText, allIn_text written]
  rfl

private theorem fields_fieldText (common : NamePrefix) (file : String) {text : List Char}
    {declaration : FieldDeclaration} (isWord : startsWord text = true)
    (balanced : Balanced text)
    (read : FieldDeclaration.read (text ++ [' ']) = some (declaration, [' '])) :
    ∃ primaryNames, (TableObject.allIn common file (fieldText text)).flatMap (·.fields) =
      if declaration.fieldClass.isComputed then []
      else [TableObject.linkField common primaryNames (declaration.toField common)] := by
  have texts : ∀ part ∈ [text], Balanced part := by simpa using balanced
  have fieldSection : Balanced (sectionText fieldsKeyword [text]) :=
    .sectionText rfl texts
  have written : (fieldTable text).Written :=
    ⟨⟨.table, rfl⟩, ⟨1, rfl⟩, by simp [fieldTable], by simp [fieldTable], by simp [fieldTable],
      fieldSection.append .space (by simp)⟩
  have inside : sectionBody fieldsKeyword ([] ++ (sectionText fieldsKeyword [text] ++ [' '])) =
      ' ' :: (text ++ [' ']) := by
    rw [sectionBody_sectionText .nil rfl (Balanced.flatMap_space_append texts)]
    simp
  have recognised : FieldDeclaration.recogniser.all (' ' :: (text ++ [' '])) = [declaration] := by
    have last : FieldDeclaration.recogniser.all [' '] = [] :=
      FieldDeclaration.recogniser.all_of_none rfl
    rw [FieldDeclaration.recogniser.all_cons _ rfl,
      FieldDeclaration.recogniser.all_append isWord read, last]
  have body : (TableObject.ofDeclaration common file (fieldTable text)).fields =
      if declaration.fieldClass.isComputed then [] else [declaration.toField common] := by
    rw [List.nil_append] at inside
    simp only [TableObject.ofDeclaration, fieldTable, storedFields, inside, recognised]
    cases computed : declaration.fieldClass.isComputed <;> simp [computed]
  refine ⟨(TableObject.ofDeclaration common file (fieldTable text)).primaryNames, ?_⟩
  rw [fieldText, allIn_text written]
  simp only [TableObject.linkFields, List.flatMap_singleton, body]
  cases declaration.fieldClass.isComputed <;> rfl

private theorem name_fieldText {name : List Char} (plain : PlainName name) :
    ((TableObject.allIn common file (fieldText (declaredField name).head)).flatMap
      (·.fields)).map (·.name) = [String.ofList (common.strip name)] := by
  have written : (declaredField name).Written :=
    ⟨⟨1, rfl⟩, plain.toQuotableName, rfl, rfl, .nil⟩
  have balanced : Balanced (declaredField name).head := by
    have behind : Balanced [';', ' ', 'C', 'o', 'd', 'e', '[', '2', '0', ']', ')'] :=
      .of_plain rfl
    have whole : Balanced (['f', 'i', 'e', 'l', 'd', '(', '1', ';', ' '] ++ _) :=
      .plain_append rfl (behind.quotedName_append plain.unquoted)
    simpa [FieldDeclaration.head, declaredField] using whole
  have read : FieldDeclaration.read ((declaredField name).head ++ [' ']) =
      some (declaredField name, [' ']) := FieldDeclaration.read_head written [' ']
  obtain ⟨primaryNames, fields⟩ :=
    fields_fieldText common file (declaredField name).startsWord_head balanced read
  have stored : (declaredField name).fieldClass.isComputed = false := by
    have noClass : (FieldClass.ofValue (propertyValue classProperty [])).isComputed = false := by
      decide
    exact noClass
  rw [fields, stored]
  simp [FieldDeclaration.toField, declaredField]

private theorem relation_referringField (common : NamePrefix) {entity : List Char}
    {field : Option (List Char)} (plain : PlainName entity)
    (fieldPlain : ∀ name ∈ field, PlainName name) :
    ((referringField entity field).toField common).relation =
      String.ofList (relationText (common.strip entity) (field.map common.strip)) := by
  have declared : relationExpression ([] ++ (assignment relationProperty
      (relationText entity field) ++ [' '])) = relationText entity field :=
    relationExpression_assignment .nil plain.unquoted
      (fun name member => (fieldPlain name member).unquoted) plain.spaced
      (fun name member => (fieldPlain name member).spaced) [' ']
  have stripped := common.stripQuoted_relationText plain.unquoted
    (fun name member => (fieldPlain name member).unquoted) plain.nonempty
    (fun name member => (fieldPlain name member).nonempty)
  rw [List.nil_append] at declared
  rw [FieldDeclaration.toField, referringField, declared, stripped]

private theorem ofExpression_stripped (common : NamePrefix) {entity : List Char}
    {field : Option (List Char)} (plain : PlainName entity)
    (fieldPlain : ∀ name ∈ field, PlainName name) :
    RelationTarget.ofExpression common
        (relationText (common.strip entity) (field.map common.strip)) =
      if common.strip entity = [] then ⟨[], []⟩
      else ⟨common.strip (common.strip entity),
        ((field.map common.strip).map common.strip).getD []⟩ := by
  have fieldUnquoted : ∀ name ∈ field.map common.strip, '"' ∉ name := by
    intro stripped member
    obtain ⟨name, nameMember, rfl⟩ := Option.map_eq_some_iff.mp member
    exact NamePrefix.not_mem_strip (fieldPlain name nameMember).unquoted
  by_cases empty : common.strip entity = []
  · rw [if_pos empty, empty]
    exact RelationTarget.ofExpression_relationText_nil common fieldUnquoted
  · rw [if_neg empty]
    exact RelationTarget.ofExpression_relationText common
      (NamePrefix.not_mem_strip plain.unquoted) fieldUnquoted empty

private theorem related_fieldText (common : NamePrefix) (file : String) {entity : List Char}
    (field : Option (List Char)) (plain : PlainName entity)
    (fieldPlain : ∀ name ∈ field, PlainName name) :
    ((TableObject.allIn common file (fieldText (referringField entity field).text)).flatMap
      (·.fields)).map (fun found => (found.relatedEntity, found.relatedField)) =
        if (referringField entity field).fieldClass.isComputed then []
        else if common.strip entity = [] then [("", "")]
        else [(String.ofList (common.strip (common.strip entity)),
          String.ofList (((field.map common.strip).map common.strip).getD []))] := by
  have properties : Balanced (referringField entity field).properties := by
    apply Balanced.assignment_append rfl
    apply Balanced.relationText_append plain.unquoted
    · exact fun name member => (fieldPlain name member).unquoted
    · exact .plain rfl .space
  have quotable : QuotableName ['F'] := ⟨by decide, by decide, rfl⟩
  have written : (referringField entity field).Written :=
    ⟨⟨1, rfl⟩, quotable, rfl, rfl, properties⟩
  have balanced := FieldDeclaration.balanced_text written (.of_plain rfl)
  obtain ⟨primaryNames, fields⟩ := fields_fieldText common file
    (referringField entity field).startsWord_text balanced
    (FieldDeclaration.read_text written [' '])
  rw [fields]
  by_cases computed : (referringField entity field).fieldClass.isComputed = true
  · rw [if_pos computed, if_pos computed, List.map_nil]
  · have relation := relation_referringField common plain fieldPlain
    have declared : ((referringField entity field).toField common).relation ≠ "" := by
      rw [relation]
      cases field <;> simp [relationText, quotedName]
    have target := ofExpression_stripped common plain fieldPlain
    rw [if_neg computed, if_neg computed, List.map_singleton,
      TableObject.linkField_of_relation _ _ declared, relation, String.toList_ofList, target]
    by_cases empty : common.strip entity = []
    · simp [empty]
    · simp [empty]

private theorem relatedEntity_fieldText (common : NamePrefix) (file : String)
    {name : List Char} (plain : PlainName name) :
    ((TableObject.allIn common file (fieldText (referringField name none).text)).flatMap
      (·.fields)).map (·.relatedEntity) =
        if (referringField name none).fieldClass.isComputed then []
        else [String.ofList (common.strip (common.strip name))] := by
  have related := congrArg (List.map Prod.fst)
    (related_fieldText common file none plain (by simp))
  rw [List.map_map] at related
  refine related.trans ?_
  by_cases computed : (referringField name none).fieldClass.isComputed = true
  · rw [if_pos computed, if_pos computed, List.map_nil]
  · rw [if_neg computed, if_neg computed]
    by_cases empty : common.strip name = []
    · rw [if_pos empty, empty, NamePrefix.strip_nil]
      rfl
    · rw [if_neg empty]
      rfl

private theorem relatedField_fieldText (common : NamePrefix) (file : String)
    {name entity : List Char} (plain : PlainName name) (entityPlain : PlainName entity) :
    ((TableObject.allIn common file (fieldText (referringField entity (some name)).text)).flatMap
      (·.fields)).map (·.relatedField) =
        if (referringField entity (some name)).fieldClass.isComputed then []
        else if common.strip entity = [] then [""]
        else [String.ofList (common.strip (common.strip name))] := by
  have related := congrArg (List.map Prod.snd)
    (related_fieldText common file (some name) entityPlain (by simpa using plain))
  rw [List.map_map] at related
  refine related.trans ?_
  by_cases computed : (referringField entity (some name)).fieldClass.isComputed = true
  · rw [if_pos computed, if_pos computed, List.map_nil]
  · rw [if_neg computed, if_neg computed]
    by_cases empty : common.strip entity = []
    · rw [if_pos empty, if_pos empty]
      rfl
    · rw [if_neg empty, if_neg empty]
      rfl

end Single

/-! ## Agreement -/

/-- A name is stripped alike where a table, an extension of it and a field are
declared.  The entity that a relation refers to has the same name exactly if
the referring field is stored and the prefix, unless it is empty, does not stand
twice in front of the name.  The related field has the name of the declared one
under the same conditions; but if the prefix is the whole name of the entity,
the relation refers to nothing. -/
theorem strippedNames_agree_iff (common : NamePrefix) (file : String)
    {name entity : List Char} (plain : PlainName name) (entityPlain : PlainName entity) :
    let stripped := [String.ofList (common.strip name)]
    let declared := TableObject.allIn common file (declaringText name)
    let extension := TableObject.allIn common file (extendingText name)
    let table := TableObject.allIn common file (fieldText (declaredField name).head)
    let toEntity := referringField name none
    let toField := referringField entity (some name)
    let referring := TableObject.allIn common file (fieldText toEntity.text)
    let referringToField := TableObject.allIn common file (fieldText toField.text)
    declared.map (·.name) = stripped ∧
      extension.map (·.base) = stripped ∧
      (table.flatMap (·.fields)).map (·.name) = stripped ∧
      ((referring.flatMap (·.fields)).map (·.relatedEntity) = stripped ↔
        toEntity.fieldClass.isComputed = false ∧
          (common.letters = [] ∨ ¬common.letters ++ common.letters <+: name)) ∧
      ((referringToField.flatMap (·.fields)).map (·.relatedField) = stripped ↔
        toField.fieldClass.isComputed = false ∧
          if common.strip entity = [] then common.strip name = []
          else common.letters = [] ∨ ¬common.letters ++ common.letters <+: name) := by
  intro stripped declared extension table toEntity toField referring referringToField
  refine ⟨name_declaringText plain, base_extendingText plain, name_fieldText plain, ?_, ?_⟩
  · rw [relatedEntity_fieldText common file plain, ← NamePrefix.strip_strip_eq_iff]
    by_cases computed : toEntity.fieldClass.isComputed = true
    · simp [toEntity, stripped, computed]
    · simp [toEntity, stripped, computed, String.ofList_inj]
  · rw [relatedField_fieldText common file plain entityPlain, ← NamePrefix.strip_strip_eq_iff]
    by_cases computed : toField.fieldClass.isComputed = true
    · simp [toField, stripped, computed]
    · by_cases empty : common.strip entity = []
      · simp [toField, stripped, computed, empty]
      · simp [toField, stripped, computed, empty, String.ofList_inj]

theorem strippedNames_agree_sample :
    PlainName ['A', 'B', ' ', 'I', 't', 'e', 'm'] ∧
      ((TableObject.allIn ⟨['A', 'B', ' ']⟩ "item.al" (fieldText
        (referringField ['A', 'B', ' ', 'I', 't', 'e', 'm'] none).text)).flatMap (·.fields)).map
          (·.relatedEntity) = ["Item"] := by
  have plain : PlainName ['A', 'B', ' ', 'I', 't', 'e', 'm'] :=
    ⟨⟨by decide, by decide, rfl⟩, rfl⟩
  obtain ⟨-, -, -, agree, -⟩ :=
    strippedNames_agree_iff ⟨['A', 'B', ' ']⟩ "item.al" plain plain
  exact ⟨plain, agree.mpr ⟨rfl, by decide⟩⟩

/-- A name with the prefix twice in front loses both in a relation. -/
theorem strippedNames_disagree :
    (TableObject.allIn ⟨['A', 'B']⟩ "item.al" (declaringText ['A', 'B', 'A', 'B', 'C'])).map
        (·.name) = ["ABC"] ∧
      ((TableObject.allIn ⟨['A', 'B']⟩ "item.al" (fieldText
        (referringField ['A', 'B', 'A', 'B', 'C'] none).text)).flatMap (·.fields)).map
          (·.relatedEntity) = ["C"] := by
  constructor <;> decide +kernel

end TableAtlas
