import TableAtlas.Schema.Basic
import TableAtlas.Settings.Document
import TableAtlas.Text.Spacing

/-!
# Project manifests

The manifest of a project may name it, its publisher and its version.
-/

namespace TableAtlas

open TableAtlas.Text

/-- What a manifest says; nothing in it is required. -/
structure Manifest where
  name : Option String
  publisher : Option String
  version : Option String
deriving DecidableEq, Repr

namespace Manifest

def fileName : String := "app.json"

/-- The project as its manifest describes it.  A blank name counts as none. -/
def info (manifest : Manifest) : ProjectInfo :=
  let name :=
    match manifest.name with
    | some name => if (trim name.toList).isEmpty then ProjectInfo.unnamed.name else name
    | none => ProjectInfo.unnamed.name
  ⟨name, manifest.publisher, manifest.version⟩

def shape : Settings.Shape :=
  ⟨"struct ProjectManifest", [("name", .text), ("publisher", .text), ("version", .text)]⟩

def ofDocument (text : String) : Except Settings.Failure Manifest :=
  (Settings.readDocument shape text).map fun values =>
    ⟨Settings.textOf values "name", Settings.textOf values "publisher",
      Settings.textOf values "version"⟩

end Manifest

end TableAtlas
