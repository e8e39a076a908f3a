import TableAtlas.Schema.Basic
import TableAtlas.Source.NamePrefix
import TableAtlas.Source.Section

/-!
# Key declarations

A key is declared by `key(name; field, field)`, possibly followed by a block.
Its fields are separated by commas outside double quotes.  The first key of a
table is its primary key.
-/

namespace TableAtlas.Source

open TableAtlas.Text

/-- The parts of a list between its commas outside double quotes. -/
def splitAtCommas (inQuotes : Bool) : List Char → List (List Char)
  | [] => [[]]
  | c :: rest =>
      if c = ',' ∧ inQuotes = false then [] :: splitAtCommas false rest
      else
        match splitAtCommas (inQuotes != (c == '"')) rest with
        | [] => [[c]]
        | first :: others => (c :: first) :: others

/-- A trimmed name without the double quotes around it, if it has both. -/
def unquote (name : List Char) : List Char :=
  match trim name with
  | '"' :: inside =>
      if inside.getLast? = some '"' then trim inside.dropLast else '"' :: inside
  | bare => bare

/-- The names in a comma-separated list, without those that are empty. -/
def listedNames (list : List Char) : List (List Char) :=
  ((splitAtCommas false list).map unquote).filter fun name => !name.isEmpty

structure KeyDeclaration where
  name : List Char
  fields : List (List Char)
deriving DecidableEq, Repr

namespace KeyDeclaration

def read (text : List Char) : Option (KeyDeclaration × List Char) := do
  let (_, afterKeyword) ← readKeyword ['k', 'e', 'y'] text
  let opened ← readChar '(' (dropBlanks afterKeyword)
  let (name, afterName) ← readDeclaredName opened
  let (list, closed) ← readArguments afterName
  return (⟨name, listedNames list⟩, (trailingBlock closed).2)

theorem read_shorter {text : List Char} {declaration : KeyDeclaration} {rest : List Char}
    (found : read text = some (declaration, rest)) : rest.length < text.length := by
  simp only [read, Option.bind_eq_bind, Option.bind_eq_some_iff, Prod.exists] at found
  obtain ⟨spelled, afterKeyword, keyword, opened, opening, name, afterName, declared, list,
    closed, arguments, result⟩ := found
  simp only [Option.pure_def, Option.some.injEq, Prod.mk.injEq] at result
  obtain ⟨-, rfl⟩ := result
  have keywordLength := congrArg List.length (readKeyword_eq_append keyword).1
  have openingLength := congrArg List.length (readChar_eq_some_iff.mp opening)
  have nameBound := (readDeclaredName_suffix declared).length_le
  have listBound := (readArguments_suffix arguments).length_le
  have blockBound := (trailingBlock_suffix closed).length_le
  have blanks := (dropBlanks_suffix afterKeyword).length_le
  simp only [List.length_append, List.length_cons] at *
  omega

def recogniser : Recogniser KeyDeclaration :=
  ⟨read, read_shorter⟩

/-- The declared key, its names stripped of the prefix. -/
def toKey (common : NamePrefix) (isPrimary : Bool) (declaration : KeyDeclaration) : Key :=
  { name := String.ofList (common.strip declaration.name)
    fields := declaration.fields.map fun field => String.ofList (common.strip field)
    isPrimaryKey := isPrimary }

end KeyDeclaration

def keysKeyword : List Char := ['k', 'e', 'y', 's']

/-- The keys declared in the first key section of a body, the first one primary. -/
def declaredKeys (common : NamePrefix) (body : List Char) : List Key :=
  match KeyDeclaration.recogniser.all (sectionBody keysKeyword body) with
  | [] => []
  | first :: others => first.toKey common true :: others.map (·.toKey common false)

end TableAtlas.Source
