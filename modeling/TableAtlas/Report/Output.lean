import TableAtlas.Encoding.SchemaJson
import TableAtlas.Encoding.Toon
import TableAtlas.Report.Detail
import TableAtlas.Report.Graph
import TableAtlas.Report.Listing

/-!
# Output formats

A result is shown as plain text, as a JSON document or as a TOON document.
-/

namespace TableAtlas

/-- The formats in which a result can be shown. -/
inductive OutputFormat where
  | table
  | json
  | toon
deriving DecidableEq, Repr

namespace OutputFormat

/-- The text of a result, given its plain text and its JSON value. -/
def render (format : OutputFormat) (plain : String) (value : Json) : String :=
  match format with
  | table => plain
  | json => value.text
  | toon => Toon.text value

end OutputFormat

def Schema.render (schema : Schema) (format : OutputFormat) : String :=
  format.render (Report.listing schema) schema.toJson

def Report.DiagramReport.render (report : Report.DiagramReport) (format : OutputFormat) : String :=
  format.render (Report.diagramText report) report.diagram.toJson

def Description.render (description : Description) (format : OutputFormat) : String :=
  format.render (Report.detail description) description.toJson

end TableAtlas
