import TableAtlas.Project.Loading
import TableAtlas.Report.Output
import TableAtlas.Schema.Assembly
import TableAtlas.Text.Substring

/-!
# Commands

A command works on the project at a path.  `scan` lists its schema, or the part
of it that a filter keeps; `diagram` shows the entities and their relations;
`describe` shows one object.  Every command reads the options of the project
first, in which a prefix from the command line takes precedence.
-/

namespace TableAtlas

open TableAtlas.Report TableAtlas.Source TableAtlas.Text

inductive Command where
  | scan (path : String) (filter : Option String)
  | diagram (path : String) (style : DiagramStyle)
  | describe (table path : String)
  | unknown (words : List String)
deriving DecidableEq, Repr

/-- Why a command gives no result. -/
inductive CommandError where
  | options (cause : OptionsError)
  | load (cause : LoadError)
  | tableNotFound (table project : String)
  | unknownCommand (word : String)
deriving DecidableEq, Repr

namespace CommandError

def message : CommandError → String
  | options cause => cause.message
  | load cause => cause.message
  | tableNotFound table project => "Table '" ++ table ++ "' not found in project " ++ project
  | unknownCommand word => "Unknown command: " ++ word

end CommandError

namespace Schema

/-- Whether a name contains a text, in any case. -/
def nameContains (part name : String) : Bool :=
  occursIn (lowercase part).toList (lowercase name).toList

/-- The objects of a schema whose name or entity contains a text, and the
relations of which either end does. -/
def filtered (schema : Schema) (part : String) : Schema :=
  { schema with
    objects := schema.objects.filter fun object =>
      nameContains part object.name || nameContains part object.entityName
    relations := schema.relations.filter fun relation =>
      nameContains part relation.sourceEntity || nameContains part relation.targetEntity }

/-- The schema of the project at a root, with a prefix that takes precedence
over the one in the project's options. -/
def ofRoot (path : String) (root : Root) (given : Option String) :
    Except CommandError Schema := do
  let options ← (Options.load root.options).mapError .options
  let options := options.withCommon given
  let sources ← (Sources.load path root options).mapError .load
  return .ofSources (.ofOption options.common) sources

end Schema

namespace Command

/-- The path of the project that a command works on. -/
def path? : Command → Option String
  | scan path _ => some path
  | diagram path _ => some path
  | describe _ path => some path
  | unknown _ => none

/-- The result of a command on the project at a root. -/
def run (command : Command) (root : Root) (given : Option String) (format : OutputFormat) :
    Except CommandError String :=
  match command with
  | scan path filter => do
      let schema ← Schema.ofRoot path root given
      return (match filter with
        | some part => schema.filtered part
        | none => schema).render format
  | diagram path style => do
      let schema ← Schema.ofRoot path root given
      return (DiagramReport.ofSchema style schema).render format
  | describe table path => do
      let schema ← Schema.ofRoot path root given
      match schema.find? table with
      | some object => return (Description.ofObject schema object).render format
      | none => .error (.tableNotFound table schema.project.name)
  | unknown words => .error (.unknownCommand (words.headD ""))

end Command

end TableAtlas
