import TableAtlas.Diagram.Basic
import TableAtlas.Schema.Assembly

/-!
# Workspaces

A workspace holds files that are edited one at a time, the common prefix of
their names, and the schema as of the last scan or of later changes to it.
-/

namespace TableAtlas

open TableAtlas.Source

/-- Files, a name prefix and a current schema. -/
structure Workspace where
  files : TextFiles
  common : Option String
  schema : Schema

namespace Workspace

def empty (common : Option String) : Workspace :=
  ⟨.empty, common, .empty⟩

def put (workspace : Workspace) (path text : String) : Workspace :=
  { workspace with files := workspace.files.put path text }

def remove (workspace : Workspace) (path : String) : Workspace :=
  { workspace with files := workspace.files.remove path }

def withCommon (workspace : Workspace) (common : Option String) : Workspace :=
  { workspace with common := common }

def scan (workspace : Workspace) : Workspace :=
  { workspace with
    schema := .ofSources (.ofOption workspace.common) workspace.files.sources }

def addObjects (workspace : Workspace) (objects : List TableObject) : Workspace :=
  { workspace with
    schema := { workspace.schema with objects := workspace.schema.objects ++ objects } }

/-- The objects that a text declares under the prefix of the workspace. -/
def parse (workspace : Workspace) (path text : String) : List TableObject :=
  TableObject.allIn (.ofOption workspace.common) path text

def clear (workspace : Workspace) : Workspace :=
  { workspace with schema := .empty }

/-- The workspace with the extensions of its schema merged into their tables. -/
def merge (workspace : Workspace) : Workspace :=
  { workspace with
    schema := { workspace.schema with objects := mergeExtensions workspace.schema.objects } }

/-- The workspace with the relations that the objects of its schema give. -/
def derive (workspace : Workspace) : Workspace :=
  { workspace with
    schema := { workspace.schema with relations := relationsOf workspace.schema.objects } }

end Workspace

end TableAtlas
