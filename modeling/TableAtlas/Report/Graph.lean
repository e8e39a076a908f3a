import TableAtlas.Diagram.Mermaid
import TableAtlas.Report.Label

/-!
# Diagram reports

A diagram is reported as plain text, in one of two styles: a graph that lists
the entities with their fields and the relations, or the source of a Mermaid
diagram.
-/

namespace TableAtlas.Report

/-- The style in which a diagram is written as plain text. -/
inductive DiagramStyle where
  | graph
  | mermaid
deriving DecidableEq, Repr

/-- A diagram with the project that it belongs to and the warnings of its schema. -/
structure DiagramReport where
  project : String
  style : DiagramStyle
  warnings : List String
  diagram : Diagram
deriving DecidableEq, Repr

/-- The diagram of a schema with its project and warnings. -/
def DiagramReport.ofSchema (style : DiagramStyle) (schema : Schema) : DiagramReport :=
  ⟨schema.project.name, style, schema.warnings, Diagram.ofSchema schema⟩

/-- The mark of a field's keys, five columns wide. -/
def keyColumn (field : DiagramField) : String :=
  match field.isPrimaryKey, field.isForeignKey with
  | true, true => "PK,FK"
  | true, false => "PK   "
  | false, true => "FK   "
  | false, false => "     "

def graphFieldLine (field : DiagramField) : String :=
  "  " ++ keyColumn field ++ " " ++ field.name ++ ": " ++ field.type

/-- The lines of an entity, set off by an empty line. -/
def graphEntityLines (entity : DiagramEntity) : List String :=
  "" ::
    (if entity.caption = entity.name then entity.name
      else entity.name ++ " (" ++ entity.caption ++ ")") ::
    entity.fields.map graphFieldLine

def graph (report : DiagramReport) : String :=
  ofLines
    (("Diagram: " ++ report.project ++ " (" ++
        countLabel report.diagram.entities.length "entity" "entities" ++ ", " ++
        countLabel report.diagram.relations.length "relation" "relations" ++ ")") ::
      (if report.diagram.entities.isEmpty then ["", "No entities found."]
        else report.diagram.entities.flatMap graphEntityLines) ++
      relationSection report.diagram.relations ++ warningSection report.warnings)

def diagramText (report : DiagramReport) : String :=
  match report.style with
  | .graph => graph report
  | .mermaid => Mermaid.render report.diagram

end TableAtlas.Report
