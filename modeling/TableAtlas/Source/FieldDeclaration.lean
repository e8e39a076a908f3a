import TableAtlas.Schema.Basic
import TableAtlas.Source.Block
import TableAtlas.Source.NamePrefix
import TableAtlas.Source.Property
import TableAtlas.Source.Section

/-!
# Field declarations

A field is declared by `field(number; name; type)`, possibly followed by a
block of properties.  Fields whose value is computed when they are read are not
part of the schema.
-/

namespace TableAtlas

open TableAtlas.Text

namespace FieldClass

/-- The class that a property value names, in any case of its ASCII letters.
Any other value stands for a normal field. -/
def ofValue (value : List Char) : FieldClass :=
  match (trim value).map Char.toLower with
  | ['f', 'l', 'o', 'w', 'f', 'i', 'e', 'l', 'd'] => flowField
  | ['f', 'l', 'o', 'w', 'f', 'i', 'l', 't', 'e', 'r'] => flowFilter
  | _ => normal

/-- Whether fields of the class are computed rather than stored. -/
def isComputed : FieldClass → Bool
  | normal => false
  | flowField => true
  | flowFilter => true

end FieldClass

namespace Source

structure FieldDeclaration where
  number : List Char
  name : List Char
  type : List Char
  properties : List Char
deriving DecidableEq, Repr

namespace FieldDeclaration

def read (text : List Char) : Option (FieldDeclaration × List Char) := do
  let (_, afterKeyword) ← readKeyword ['f', 'i', 'e', 'l', 'd'] text
  let opened ← readChar '(' (dropBlanks afterKeyword)
  let (number, afterNumber) ← readDigits (dropBlanks opened)
  let separated ← readChar ';' (dropBlanks afterNumber)
  let (name, afterName) ← readDeclaredName separated
  let (type, closed) ← readArguments afterName
  let (properties, rest) := trailingBlock closed
  return (⟨number, name, trim type, properties⟩, rest)

theorem read_shorter {text : List Char} {declaration : FieldDeclaration} {rest : List Char}
    (found : read text = some (declaration, rest)) : rest.length < text.length := by
  simp only [read, Option.bind_eq_bind, Option.bind_eq_some_iff, Prod.exists] at found
  obtain ⟨spelled, afterKeyword, keyword, opened, opening, number, afterNumber, digits,
    separated, separator, name, afterName, declared, type, closed, arguments, result⟩ := found
  simp only [Option.pure_def, Option.some.injEq, Prod.mk.injEq] at result
  obtain ⟨-, rfl⟩ := result
  have keywordLength := congrArg List.length (readKeyword_eq_append keyword).1
  have openingLength := congrArg List.length (readChar_eq_some_iff.mp opening)
  have numberLength := congrArg List.length (readDigits_eq_append digits)
  have separatorLength := congrArg List.length (readChar_eq_some_iff.mp separator)
  have nameBound := (readDeclaredName_suffix declared).length_le
  have typeBound := (readArguments_suffix arguments).length_le
  have blockBound := (trailingBlock_suffix closed).length_le
  have firstBlanks := (dropBlanks_suffix afterKeyword).length_le
  have secondBlanks := (dropBlanks_suffix opened).length_le
  have thirdBlanks := (dropBlanks_suffix afterNumber).length_le
  simp only [List.length_append, List.length_cons] at *
  omega

def recogniser : Recogniser FieldDeclaration :=
  ⟨read, read_shorter⟩

/-- The class that the properties of the declaration give the field. -/
def fieldClass (declaration : FieldDeclaration) : FieldClass :=
  FieldClass.ofValue (propertyValue classProperty declaration.properties)

/-- The declared field, its names stripped of the prefix.  It does not yet know
what it refers to, nor whether it belongs to a key. -/
def toField (common : NamePrefix) (declaration : FieldDeclaration) : Field :=
  let name := String.ofList (common.strip declaration.name)
  let caption := propertyValue captionProperty declaration.properties
  { id := idOfDigits declaration.number
    name := name
    type := String.ofList declaration.type
    caption := if caption.isEmpty then name else String.ofList (common.strip caption)
    fieldClass := declaration.fieldClass
    relation :=
      String.ofList (common.stripQuoted (relationExpression declaration.properties))
    isPrimaryKey := false
    isForeignKey := false
    relatedEntity := ""
    relatedField := "" }

end FieldDeclaration

def fieldsKeyword : List Char := ['f', 'i', 'e', 'l', 'd', 's']

/-- The stored fields declared in the first field section of a body. -/
def storedFields (common : NamePrefix) (body : List Char) : List Field :=
  ((FieldDeclaration.recogniser.all (sectionBody fieldsKeyword body)).filter
    fun declaration => !declaration.fieldClass.isComputed).map (·.toField common)

end Source

end TableAtlas
