import TableAtlas.Settings.Document

/-!
# Project options

A project may hold a file with options: the common prefix of its names, and the
names of the folders that are left out when it is read.
-/

namespace TableAtlas

/-- How a project is to be read. -/
structure Options where
  common : Option String
  excluded : List String
deriving DecidableEq, Repr

/-- Why the options of a project could not be read. -/
inductive OptionsError where
  | readFailed (path reason : String)
  | invalid (path reason : String)
deriving DecidableEq, Repr

namespace OptionsError

def message : OptionsError → String
  | readFailed path reason => "Failed to read " ++ path ++ ": " ++ reason
  | invalid path reason => "Invalid JSON in " ++ path ++ ": " ++ reason

end OptionsError

/-- Whether two texts are equal up to the case of ASCII letters. -/
def sameAscii (left right : String) : Bool :=
  left.toList.map Char.toLower == right.toList.map Char.toLower

namespace Options

def fileName : String := ".al_schema.json"

def default : Options :=
  ⟨none, [".alpackages", ".git", ".snapshots", "node_modules"]⟩

def shape : Settings.Shape :=
  ⟨"struct ScanConfig", [("prefix", .text), ("exclude", .texts)]⟩

def ofDocument (text : String) : Except Settings.Failure Options :=
  (Settings.readDocument shape text).map fun values =>
    ⟨Settings.textOf values "prefix",
      (Settings.textsOf values "exclude").getD default.excluded⟩

def withCommon (options : Options) (given : Option String) : Options :=
  { options with common := given.or options.common }

/-- Whether a folder is left out, by its name in any case of ASCII letters. -/
def excludes (options : Options) (name : String) : Bool :=
  options.excluded.any fun excluded => sameAscii excluded name

end Options

end TableAtlas
