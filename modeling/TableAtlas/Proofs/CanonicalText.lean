import TableAtlas.Proofs.DeclarationText
import TableAtlas.Proofs.TargetResolution

/-!
# Canonical texts

The canonical text of an object declares it with its caption, its fields and
its keys, every name with the prefix in front.  A canonical object is one whose
data can be told from this text: its flags and its relations agree with what
the declarations say, and its names and captions do not break off the text.
-/

namespace TableAtlas

open TableAtlas.Text TableAtlas.Source

namespace Source

/-- A name with the prefix in front. -/
def NamePrefix.attach (common : NamePrefix) (name : String) : List Char :=
  common.letters ++ name.toList

@[simp] theorem NamePrefix.strip_attach (common : NamePrefix) (name : String) :
    common.strip (common.attach name) = name.toList :=
  common.strip_append name.toList

theorem NamePrefix.attach_ne_nil (common : NamePrefix) {name : String} (nonempty : name ≠ "") :
    common.attach name ≠ [] := by
  simp [attach, nonempty]

end Source

/-! ## Fields -/

namespace Field

/-- The name of the related field, if the relation of a field names one. -/
def relatedFieldName? (field : Field) : Option String :=
  if field.relatedField = "" then none else some field.relatedField

/-- The expression that names what a field refers to; empty if it refers to nothing. -/
def relationExpression (field : Field) : String :=
  if field.relatedEntity = "" then ""
  else
    String.ofList
      (relationText field.relatedEntity.toList (field.relatedFieldName?.map String.toList))

/-- The assignment that declares what a field refers to. -/
def relationAssignment (common : NamePrefix) (field : Field) : List Char :=
  if field.relatedEntity = "" then []
  else
    assignment relationProperty
      (relationText (common.attach field.relatedEntity)
        (field.relatedFieldName?.map common.attach))

def captionAssignment (common : NamePrefix) (caption : String) : List Char :=
  assignment captionProperty (quotedValue (common.attach caption))

/-- The declaration that the canonical text contains for a field. -/
def toDeclaration (common : NamePrefix) (field : Field) : FieldDeclaration :=
  { number := Nat.toDigits 10 field.id
    name := common.attach field.name
    type := field.type.toList
    properties :=
      captionAssignment common field.caption ++ field.relationAssignment common ++ [' '] }

/-- A name that a relation can refer to and that the canonical text keeps: it is
written on one line with single spaces, it does not lose the prefix when it is
resolved, and it hides neither the class of the field nor the key section. -/
structure Relatable (common : NamePrefix) (name : String) : Prop where
  unquoted : '"' ∉ common.attach name
  spaced : joinBlanks false (common.attach name) = common.attach name
  stable : common.strip name.toList = name.toList
  avoidsClass : Avoids classProperty '=' (common.attach name)
  avoidsKeys : Avoids keysKeyword '{' (common.attach name)

/-- A field whose data can be told from its canonical declaration, apart from
its part in the primary key. -/
structure Canonical (common : NamePrefix) (field : Field) : Prop where
  id : field.id < idLimit
  name : QuotableName (common.attach field.name)
  nameAvoidsKeys : Avoids keysKeyword '{' (common.attach field.name)
  typeTrimmed : trim field.type.toList = field.type.toList
  typeArgument : isArgument false field.type.toList = true
  typeBalanced : Balanced field.type.toList
  typeAvoidsKeys : Avoids keysKeyword '{' field.type.toList
  caption : common.attach field.caption ≠ []
  captionAvoidsRelation : Avoids relationProperty '=' (common.attach field.caption)
  captionAvoidsClass : Avoids classProperty '=' (common.attach field.caption)
  captionAvoidsKeys : Avoids keysKeyword '{' (common.attach field.caption)
  fieldClass : field.fieldClass = .normal
  relation : field.relation = field.relationExpression
  isForeignKey : field.isForeignKey = (field.relatedEntity != "")
  relatedField : field.relatedEntity = "" → field.relatedField = ""
  entityRelatable : field.relatedEntity ≠ "" → Relatable common field.relatedEntity
  fieldRelatable : field.relatedField ≠ "" → Relatable common field.relatedField

namespace Relatable

variable {common : NamePrefix} {name : String}

theorem unquoted_toList (relatable : Relatable common name) : '"' ∉ name.toList := by
  intro member
  exact relatable.unquoted (List.mem_append_right common.letters member)

end Relatable

end Field

/-! ## Keys -/

namespace Key

/-- The declaration that the canonical text contains for a key. -/
def toDeclaration (common : NamePrefix) (key : Key) : KeyDeclaration :=
  { name := common.attach key.name
    fields := key.fields.map common.attach }

/-- A key whose names can be told from its canonical declaration. -/
structure Canonical (common : NamePrefix) (key : Key) : Prop where
  name : QuotableName (common.attach key.name)
  fields : ∀ field ∈ key.fields, QuotableName (common.attach field)

end Key

/-! ## Objects -/

namespace TableObject

/-- The caption of a table in front of its sections; nothing for a table without caption. -/
def captionText (common : NamePrefix) (object : TableObject) : List Char :=
  if object.caption = "" then [] else Field.captionAssignment common object.caption

def bodyText (common : NamePrefix) (object : TableObject) : List Char :=
  object.captionText common ++
    (sectionText fieldsKeyword
        ((object.fields.map (·.toDeclaration common)).map FieldDeclaration.text) ++
      (sectionText keysKeyword
          ((object.keys.map (·.toDeclaration common)).map KeyDeclaration.text) ++ [' ']))

/-- The declaration that the canonical text contains for an object. -/
def toDeclaration (common : NamePrefix) (object : TableObject) : TableDeclaration :=
  { keyword := object.kind.keyword.toList
    number := Nat.toDigits 10 object.id
    name := common.attach object.name
    base := if object.base = "" then [] else common.attach object.base
    body := object.bodyText common }

/-- An object whose data can be told from its canonical declaration in a file. -/
structure Canonical (common : NamePrefix) (file : String) (object : TableObject) : Prop where
  file : object.file = file
  id : object.id < idLimit
  nameUnquoted : '"' ∉ common.attach object.name
  nameNonempty : common.attach object.name ≠ []
  baseUnquoted : object.base ≠ "" → '"' ∉ common.attach object.base
  captionAvoidsFields :
    object.caption ≠ "" → Avoids fieldsKeyword '{' (common.attach object.caption)
  captionAvoidsKeys :
    object.caption ≠ "" → Avoids keysKeyword '{' (common.attach object.caption)
  fields : ∀ field ∈ object.fields, field.Canonical common
  keys : ∀ key ∈ object.keys, key.Canonical common
  firstKeyPrimary : ∀ key ∈ object.keys.head?, key.isPrimaryKey = true
  otherKeysSecondary : ∀ key ∈ object.keys.tail, key.isPrimaryKey = false
  primaryFields : ∀ field ∈ object.fields,
    field.isPrimaryKey = object.primaryNames.contains (lowercase field.name)

/-- The canonical text of a list of objects, one declaration on each line. -/
def canonicalText (common : NamePrefix) (objects : List TableObject) : String :=
  String.ofList (objects.flatMap fun object => (object.toDeclaration common).text ++ ['\n'])

end TableObject

end TableAtlas
