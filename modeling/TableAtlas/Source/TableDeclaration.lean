import TableAtlas.Source.FieldDeclaration
import TableAtlas.Source.KeyDeclaration
import TableAtlas.Source.RelationTarget

/-!
# Table declarations

A table is declared by its keyword, number, name and body; a table extension
also names the table that it extends.  Files need not be complete or well
formed: whatever declarations can be recognised in a text are listed in order,
and the search goes on behind the body of each.
-/

namespace TableAtlas

namespace Source

open TableAtlas.Text

/-- Whether a character can start a bare object name: an underscore or, in any
case, an English letter. -/
def startsBareName (c : Char) : Bool :=
  (foldCase c).isAlpha || c == '_'

/-- Reads the longest run of word characters behind which `goOn` recognises
something. -/
def readLongest {α : Type} (goOn : List Char → Option α) : List Char → Option (List Char × α)
  | [] => none
  | c :: rest =>
      if isWordChar c then
        match readLongest goOn rest with
        | some (word, found) => some (c :: word, found)
        | none => (goOn rest).map fun found => ([c], found)
      else none

/-- What follows the run that was read is what `goOn` recognised. -/
theorem readLongest_eq_some {α : Type} {goOn : List Char → Option α} {text word : List Char}
    {found : α} (read : readLongest goOn text = some (word, found)) :
    ∃ rest, text = word ++ rest ∧ goOn rest = some found := by
  induction text generalizing word with
  | nil => simp [readLongest] at read
  | cons c rest hypothesis =>
      simp only [readLongest] at read
      split at read
      · split at read
        · rename_i inner value longer
          simp only [Option.some.injEq, Prod.mk.injEq] at read
          obtain ⟨rfl, rfl⟩ := read
          obtain ⟨left, rfl, recognised⟩ := hypothesis longer
          exact ⟨left, rfl, recognised⟩
        · simp only [Option.map_eq_some_iff, Prod.mk.injEq] at read
          obtain ⟨_, recognised, rfl, rfl⟩ := read
          exact ⟨rest, rfl, recognised⟩
      · exact absurd read (by simp)

/-- Reads an object name that is quoted, or bare and as long as `goOn` allows. -/
def readObjectName {α : Type} (goOn : List Char → Option α) (text : List Char) :
    Option (List Char × α) :=
  match readQuotedName text with
  | some (name, rest) => (goOn rest).map fun found => (name, found)
  | none =>
      match text with
      | [] => none
      | c :: _ => if startsBareName c then readLongest goOn text else none

theorem readObjectName_eq_some {α : Type} {goOn : List Char → Option α}
    {text name : List Char} {found : α}
    (read : readObjectName goOn text = some (name, found)) :
    ∃ rest, rest <:+ text ∧ goOn rest = some found := by
  unfold readObjectName at read
  split at read
  · rename_i quoted rest isQuoted
    simp only [Option.map_eq_some_iff, Prod.mk.injEq] at read
    obtain ⟨_, recognised, -, rfl⟩ := read
    refine ⟨rest, ⟨'"' :: (quoted ++ ['"']), ?_⟩, recognised⟩
    simp [(readQuotedName_eq_some_iff.mp isQuoted).1]
  · split at read
    · exact absurd read (by simp)
    · split at read
      · obtain ⟨rest, equal, recognised⟩ := readLongest_eq_some read
        exact ⟨rest, ⟨_, equal.symm⟩, recognised⟩
      · exact absurd read (by simp)

def readOpening (text : List Char) : Option (List Char) :=
  readChar '{' (dropBlanks text)

theorem readOpening_shorter {text rest : List Char} (read : readOpening text = some rest) :
    rest.length < text.length := by
  have length := congrArg List.length (readChar_eq_some_iff.mp read)
  have bound := (dropBlanks_suffix text).length_le
  simp only [List.length_cons] at length
  omega

/-- Reads the opening of a body, or before it the name of an extended table. -/
def readBase (text : List Char) : Option (List Char × List Char) :=
  match readOpening text with
  | some inside => some ([], inside)
  | none => do
      let (_, afterKeyword) ←
        readKeyword ['e', 'x', 't', 'e', 'n', 'd', 's'] (dropBlanks text)
      readObjectName readOpening (← readBlanks afterKeyword)

theorem readBase_shorter {text base rest : List Char} (read : readBase text = some (base, rest)) :
    rest.length < text.length := by
  unfold readBase at read
  split at read
  · rename_i inside opening
    simp only [Option.some.injEq, Prod.mk.injEq] at read
    obtain ⟨-, rfl⟩ := read
    exact readOpening_shorter opening
  · simp only [Option.bind_eq_bind, Option.bind_eq_some_iff, Prod.exists] at read
    obtain ⟨spelled, afterKeyword, keyword, separated, blanks, named⟩ := read
    obtain ⟨left, nameSuffix, opening⟩ := readObjectName_eq_some named
    have keywordLength := congrArg List.length (readKeyword_eq_append keyword).1
    have textBound := (dropBlanks_suffix text).length_le
    have blanksBound := (readBlanks_suffix blanks).length_le
    have nameBound := nameSuffix.length_le
    have openingBound := readOpening_shorter opening
    simp only [List.length_append] at keywordLength
    omega

structure TableDeclaration where
  keyword : List Char
  number : List Char
  name : List Char
  base : List Char
  body : List Char
deriving DecidableEq, Repr

namespace TableDeclaration

/-- Reads the keyword of a table or table extension and the blanks behind it. -/
def readObjectKeyword (text : List Char) : Option (List Char × List Char) := do
  let (table, afterTable) ← readKeyword ['t', 'a', 'b', 'l', 'e'] text
  match readBlanks afterTable with
  | some rest => return (table, rest)
  | none => do
      let (extension, afterExtension) ←
        readKeyword ['e', 'x', 't', 'e', 'n', 's', 'i', 'o', 'n'] afterTable
      let rest ← readBlanks afterExtension
      return (table ++ extension, rest)

theorem readObjectKeyword_suffix {text keyword rest : List Char}
    (read : readObjectKeyword text = some (keyword, rest)) : rest <:+ text := by
  simp only [readObjectKeyword, Option.bind_eq_bind, Option.bind_eq_some_iff,
    Prod.exists] at read
  obtain ⟨table, afterTable, isTable, result⟩ := read
  have tableSuffix : afterTable <:+ text :=
    ⟨table, (readKeyword_eq_append isTable).1.symm⟩
  split at result
  · rename_i left blanks
    simp only [Option.pure_def, Option.some.injEq, Prod.mk.injEq] at result
    obtain ⟨-, rfl⟩ := result
    exact (readBlanks_suffix blanks).trans tableSuffix
  · simp only [Option.bind_eq_some_iff, Prod.exists, Option.pure_def, Option.some.injEq,
      Prod.mk.injEq] at result
    obtain ⟨extension, afterExtension, isExtension, left, blanks, -, rfl⟩ := result
    have extensionSuffix : afterExtension <:+ afterTable :=
      ⟨extension, (readKeyword_eq_append isExtension).1.symm⟩
    exact (readBlanks_suffix blanks).trans (extensionSuffix.trans tableSuffix)

def read (text : List Char) : Option (TableDeclaration × List Char) := do
  let (keyword, afterKeyword) ← readObjectKeyword text
  let (number, afterNumber) ← readDigits afterKeyword
  let (name, base, inside) ← readObjectName readBase (← readBlanks afterNumber)
  let (body, rest) := splitBlock inside
  return (⟨keyword, number, name, base, body⟩, rest)

theorem read_shorter {text : List Char} {declaration : TableDeclaration} {rest : List Char}
    (found : read text = some (declaration, rest)) : rest.length < text.length := by
  simp only [read, Option.bind_eq_bind, Option.bind_eq_some_iff, Prod.exists] at found
  obtain ⟨keyword, afterKeyword, isKeyword, number, afterNumber, digits, separated, blanks,
    name, base, inside, named, result⟩ := found
  simp only [Option.pure_def, Option.some.injEq, Prod.mk.injEq] at result
  obtain ⟨-, rfl⟩ := result
  obtain ⟨left, nameSuffix, based⟩ := readObjectName_eq_some named
  have keywordBound := (readObjectKeyword_suffix isKeyword).length_le
  have numberLength := congrArg List.length (readDigits_eq_append digits)
  have blanksBound := (readBlanks_suffix blanks).length_le
  have nameBound := nameSuffix.length_le
  have baseBound := readBase_shorter based
  have blockBound := (splitBlock_suffix inside).length_le
  simp only [List.length_append] at numberLength
  omega

def recogniser : Recogniser TableDeclaration :=
  ⟨read, read_shorter⟩

/-- The kind of the declared object.  The keyword of an extension counts only
in ASCII letters, in any case. -/
def kind (declaration : TableDeclaration) : ObjectKind :=
  if declaration.keyword.map Char.toLower = ObjectKind.tableExtension.keyword.toList then
    .tableExtension
  else .table

/-- The number of characters in which a caption is searched for when a body has
no field section. -/
def captionReach : Nat := 500

/-- The part of a body in which the caption of the table is searched for: it
never reaches into the field section. -/
def captionRegion (body : List Char) : List Char :=
  match findSection fieldsKeyword body with
  | some (before, _) => before
  | none => body.take captionReach

/-- The caption that a body gives its table; empty if it gives none. -/
def caption (body : List Char) : List Char :=
  (quotedProperty? captionProperty (captionRegion body)).getD []

end TableDeclaration

end Source

namespace TableObject

open TableAtlas.Text TableAtlas.Source

/-- The lowercase names of the fields in the primary key. -/
def primaryNames (object : TableObject) : List String :=
  match object.primaryKey? with
  | some key => key.fields.map lowercase
  | none => []

/-- A field of an object with its key flags set: whether one of the given
lowercase names is its own, and what its relation refers to. -/
def linkField (common : NamePrefix) (primaryNames : List String) (field : Field) : Field :=
  let isPrimary := field.isPrimaryKey || primaryNames.contains (lowercase field.name)
  if field.relation = "" then { field with isPrimaryKey := isPrimary }
  else
    let target := RelationTarget.ofExpression common field.relation.toList
    { field with
      isPrimaryKey := isPrimary
      isForeignKey := true
      relatedEntity := String.ofList target.entity
      relatedField := String.ofList target.field }

/-- An object with the key flags of its fields set. -/
def linkFields (common : NamePrefix) (object : TableObject) : TableObject :=
  { object with fields := object.fields.map (linkField common object.primaryNames) }

/-- The object that a declaration declares, before its fields are linked. -/
def ofDeclaration (common : NamePrefix) (file : String) (declaration : TableDeclaration) :
    TableObject :=
  { id := idOfDigits declaration.number
    name := String.ofList (common.strip declaration.name)
    caption := String.ofList (common.strip (TableDeclaration.caption declaration.body))
    kind := declaration.kind
    base := String.ofList (common.strip declaration.base)
    fields := storedFields common declaration.body
    keys := declaredKeys common declaration.body
    file := file }

/-- The objects declared in the text of a file, in order. -/
def allIn (common : NamePrefix) (file text : String) : List TableObject :=
  (TableDeclaration.recogniser.all text.toList).map fun declaration =>
    (ofDeclaration common file declaration).linkFields common

end TableObject

end TableAtlas
