import TableAtlas.Text.Reader
import TableAtlas.Text.Search

/-!
# Properties

A property is assigned inside a block: its name, an equals sign, and a value.
The value is either a text in single quotes, in which a quote is written twice,
or everything up to the next semicolon.  A relation expression ends at the
first semicolon outside quotes.  Property names are matched in any case.
-/

namespace TableAtlas.Source

open TableAtlas.Text

/-- The name of the property that holds a caption. -/
def captionProperty : List Char := ['C', 'a', 'p', 't', 'i', 'o', 'n']

/-- The name of the property that holds the class of a field. -/
def classProperty : List Char := ['F', 'i', 'e', 'l', 'd', 'C', 'l', 'a', 's', 's']

/-- The name of the property that holds a relation expression. -/
def relationProperty : List Char :=
  ['T', 'a', 'b', 'l', 'e', 'R', 'e', 'l', 'a', 't', 'i', 'o', 'n']

/-- Reads the name of a property and the equals sign. -/
def readAssignment (name text : List Char) : Option (List Char) := do
  let (_, afterName) ← readKeyword name text
  readChar '=' (dropBlanks afterName)

/-- Reads a value behind its opening quote, with each doubled quote as one.  If
the text ends before the value does, the value ends at its last doubled quote. -/
def readQuotedValue : List Char → Option (List Char)
  | [] => none
  | '\'' :: '\'' :: rest =>
      match readQuotedValue rest with
      | some value => some ('\'' :: value)
      | none => some []
  | c :: rest => if c = '\'' then some [] else (readQuotedValue rest).map (c :: ·)

/-- The value in single quotes of the first property of the given name that has one. -/
def quotedProperty? (name block : List Char) : Option (List Char) :=
  (firstMatch
    (fun text => do
      let assigned ← readAssignment name text
      readQuotedValue (← readChar '\'' (dropBlanks assigned)))
    false block).map (·.2)

/-- Reads a value up to the next semicolon, at least one character. -/
def readPlainValue (text : List Char) : Option (List Char) := do
  let (value, _) ← splitAtChar ';' text
  if value.isEmpty then none else some (trim value)

/-- The value up to a semicolon of the first property of the given name that has one. -/
def plainProperty? (name block : List Char) : Option (List Char) :=
  (firstMatch
    (fun text => do
      let assigned ← readAssignment name text
      readPlainValue assigned)
    false block).map (·.2)

/-- The value of a property: a quoted one anywhere in the block, otherwise a
plain one, and nothing if there is neither. -/
def propertyValue (name block : List Char) : List Char :=
  ((quotedProperty? name block).or (plainProperty? name block)).getD []

/-- Reads an expression up to the first semicolon outside quotes; `opened` is
the quote of the string or name that it starts in, if any. -/
def readExpression (opened : Option Char) : List Char → Option (List Char)
  | [] => none
  | c :: rest =>
      match opened with
      | some quote =>
          (readExpression (if c = quote then none else some quote) rest).map (c :: ·)
      | none =>
          if c = ';' then some []
          else
            (readExpression (if c = '\'' ∨ c = '"' then some c else none) rest).map (c :: ·)

/-- The relation expression of a field's property block, with its blanks
collapsed; empty if the block has none. -/
def relationExpression (block : List Char) : List Char :=
  ((firstMatch
    (fun text => do
      let assigned ← readAssignment relationProperty text
      readExpression none assigned)
    false block).map fun (_, expression) => collapseBlanks expression).getD []

end TableAtlas.Source
