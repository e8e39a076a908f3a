import TableAtlas.Diagram.Basic
import TableAtlas.Text.Spacing

/-!
# Mermaid diagrams

A diagram can be written as the source of a Mermaid entity relationship
diagram.  Names become identifiers of ASCII letters, digits and underscores,
and field types are reduced to a short label.
-/

namespace TableAtlas.Mermaid

open TableAtlas.Text

/-- Whether a character may stand in an identifier. -/
def isIdentifierChar (c : Char) : Bool :=
  c.isAlphanum || c == '_'

/-- Whether a character is dropped from a name rather than replaced. -/
def isDropped (c : Char) : Bool :=
  c == '"' || c == '\'' || c == '/'

/-- Replaces each run of characters outside identifiers by one underscore,
except that such a character right after another leaves nothing. -/
def joinForeign (afterForeign : Bool) : List Char → List Char
  | [] => []
  | c :: rest =>
      if isIdentifierChar c then c :: joinForeign false rest
      else if afterForeign then joinForeign true rest
      else '_' :: joinForeign true rest

def dropUnderscores (text : List Char) : List Char :=
  text.dropWhile (· == '_')

/-- The identifier that a name is written as, which may be empty. -/
def identifier (name : String) : String :=
  let joined := joinForeign false (name.toList.filter fun c => !isDropped c)
  String.ofList (dropUnderscores (dropUnderscores joined).reverse).reverse

/-- The types, in lowercase, that have a label of their own. -/
def typeLabels : List (String × String) :=
  [("integer", "int"), ("biginteger", "bigint"), ("decimal", "decimal"),
    ("boolean", "boolean"), ("date", "date"), ("time", "time"), ("datetime", "datetime"),
    ("duration", "duration"), ("dateformula", "dateformula"), ("guid", "guid"),
    ("blob", "blob"), ("media", "media"), ("mediaset", "mediaset"),
    ("recordid", "recordid"), ("option", "option")]

/-- The label of a declared type.  Codes and texts are strings whatever their
length, and so is any type that is not known. -/
def typeLabel (declared : String) : String :=
  let type := (lowercase (String.ofList (trim declared.toList))).toList
  if ['c', 'o', 'd', 'e'].isPrefixOf type || ['t', 'e', 'x', 't'].isPrefixOf type then "string"
  else if ['e', 'n', 'u', 'm'].isPrefixOf type then "enum"
  else (typeLabels.lookup (String.ofList type)).getD "string"

def keyMarks (field : DiagramField) : String :=
  match field.isPrimaryKey, field.isForeignKey with
  | true, true => " PK,FK"
  | true, false => " PK"
  | false, true => " FK"
  | false, false => ""

/-- The comment that shows the caption of a field, where it differs from the
name.  Double quotes become single ones. -/
def comment (field : DiagramField) : String :=
  if field.caption = "" ∨ field.caption = field.name then ""
  else
    " \"" ++ String.ofList (field.caption.toList.map fun c => if c = '"' then '\'' else c) ++ "\""

def fieldLine (field : DiagramField) : String :=
  "        " ++ typeLabel field.type ++ " " ++ identifier field.name ++ keyMarks field ++
    comment field

/-- The line that opens the block of the entity of a name. -/
def opening (name : String) : String :=
  "    " ++ identifier name ++ " \x7b"

def entityLines (entity : DiagramEntity) : List String :=
  opening entity.name :: entity.fields.map fieldLine ++ ["    \x7d"]

def relationLine (relation : Relation) : String :=
  "    " ++ identifier relation.sourceEntity ++ " \x7do--|| " ++
    identifier relation.targetEntity ++ " : \"" ++ identifier relation.sourceField ++ "\""

def lines (diagram : Diagram) : List String :=
  "erDiagram" :: diagram.entities.flatMap entityLines ++ diagram.relations.map relationLine

def render (diagram : Diagram) : String :=
  String.intercalate "\n" (lines diagram)

theorem opening_mem_lines {diagram : Diagram} {entity : DiagramEntity}
    (member : entity ∈ diagram.entities) : opening entity.name ∈ lines diagram := by
  have first : opening entity.name ∈ entityLines entity := by simp [entityLines]
  have block : opening entity.name ∈ diagram.entities.flatMap entityLines :=
    List.mem_flatMap.mpr ⟨entity, member, first⟩
  simp [lines, block]

theorem relationLine_mem_lines {diagram : Diagram} {relation : Relation}
    (member : relation ∈ diagram.relations) : relationLine relation ∈ lines diagram := by
  have line : relationLine relation ∈ diagram.relations.map relationLine :=
    List.mem_map_of_mem member
  simp [lines, line]

end TableAtlas.Mermaid
