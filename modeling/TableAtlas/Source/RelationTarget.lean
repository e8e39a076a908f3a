import TableAtlas.Source.NamePrefix
import TableAtlas.Text.Reader

/-!
# Relation targets

A relation expression names an entity, and possibly a field of it behind a dot.
A condition introduced by `WHERE` or `IF` outside double quotes is cut off
first.  Each name is either quoted or a bare word.
-/

namespace TableAtlas.Source

open TableAtlas.Text

/-- Whether a character continues an ASCII word, next to which no condition
keyword is recognised. -/
def isKeywordChar (c : Char) : Bool :=
  c.isAlphanum || c == '_'

/-- Whether a text starts with a keyword, given in lowercase, that is not
continued. -/
def startsKeyword : List Char → List Char → Bool
  | [], [] => true
  | [], c :: _ => !isKeywordChar c
  | _ :: _, [] => false
  | letter :: letters, c :: rest => c.toLower == letter && startsKeyword letters rest

/-- Whether a text starts with a keyword that introduces a condition. -/
def startsCondition (text : List Char) : Bool :=
  startsKeyword ['w', 'h', 'e', 'r', 'e'] text || startsKeyword ['i', 'f'] text

/-- An expression up to its first condition outside double quotes. -/
def cutCondition (inQuotes afterKeywordChar : Bool) : List Char → List Char
  | [] => []
  | c :: rest =>
      if !inQuotes && !afterKeywordChar && startsCondition (c :: rest) then []
      else c :: cutCondition (inQuotes != (c == '"')) (isKeywordChar c) rest

/-- Reads a name: a quoted name or a bare word. -/
def readName (text : List Char) : Option (List Char × List Char) :=
  (readQuotedName text).or (readWord text)

/-- What a relation expression refers to; either part may be empty. -/
structure RelationTarget where
  entity : List Char
  field : List Char
deriving DecidableEq, Repr

namespace RelationTarget

/-- Reads the field name behind the dot that follows an entity name. -/
def readField (afterEntity : List Char) : Option (List Char) := do
  let afterDot ← readChar '.' (dropBlanks afterEntity)
  let (field, _) ← readName (dropBlanks afterDot)
  return field

/-- The target of a relation expression, its names stripped of the prefix. -/
def ofExpression (common : NamePrefix) (expression : List Char) : RelationTarget :=
  match readName (trim (cutCondition false false expression)) with
  | none => ⟨[], []⟩
  | some (entity, rest) =>
      ⟨common.strip entity, ((readField rest).map common.strip).getD []⟩

end RelationTarget

end TableAtlas.Source
