import TableAtlas.Project.Manifest

/-!
# Project sources

The sources of a project are its files in the order in which they were found,
together with the manifest and the warnings that arose on the way.  A file that
could not be read stays in the list with the reason.
-/

namespace TableAtlas

/-- Why a part of a project could not be loaded. -/
inductive LoadError where
  | rootNotFound (path : String)
  | readFailed (path reason : String)
  | manifestInvalid (path reason : String)
deriving DecidableEq, Repr

namespace LoadError

def message : LoadError → String
  | rootNotFound path => "Project directory not found: " ++ path
  | readFailed path reason => "Failed to read '" ++ path ++ "': " ++ reason
  | manifestInvalid path reason => "Failed to parse manifest '" ++ path ++ "': " ++ reason

end LoadError

/-- A folder that could not be listed. -/
structure WalkFailure where
  path : String
  reason : String
deriving DecidableEq, Repr

def WalkFailure.message (failure : WalkFailure) : String :=
  "Failed to walk '" ++ failure.path ++ "': " ++ failure.reason

/-- A source file of a project: its text, or why it could not be read. -/
structure SourceFile where
  path : String
  text : Except LoadError String

structure Sources where
  manifest : Option Manifest
  files : List SourceFile
  warnings : List String

def Sources.project (sources : Sources) : ProjectInfo :=
  match sources.manifest with
  | some manifest => manifest.info
  | none => .unnamed

/-- Texts by path, in increasing order of the paths. -/
structure TextFiles where
  entries : List (String × String)

namespace TextFiles

def empty : TextFiles :=
  ⟨[]⟩

/-- Puts a text at a path among entries in increasing order. -/
def putEntry (path text : String) : List (String × String) → List (String × String)
  | [] => [(path, text)]
  | (other, present) :: rest =>
      if path < other then (path, text) :: (other, present) :: rest
      else if path = other then (path, text) :: rest
      else (other, present) :: putEntry path text rest

/-- The files with a text at a path, which replaces an earlier text there. -/
def put (files : TextFiles) (path text : String) : TextFiles :=
  ⟨putEntry path text files.entries⟩

def paths (files : TextFiles) : List String :=
  files.entries.map (·.1)

theorem subset_putEntry {path text : String} {entries : List (String × String)}
    (new : path ∉ entries.map (·.1)) : entries ⊆ putEntry path text entries := by
  induction entries with
  | nil => exact List.nil_subset _
  | cons entry rest induction =>
      obtain ⟨different, newAmongRest⟩ : path ≠ entry.1 ∧ path ∉ rest.map (·.1) := by
        simpa [not_or] using new
      unfold putEntry
      split
      · exact List.subset_cons_self ..
      · exact List.cons_subset_cons entry (induction newAmongRest)

/-- A file at a new path leaves all others in place. -/
theorem entries_subset_put {files : TextFiles} {path : String} (new : path ∉ files.paths)
    (text : String) : files.entries ⊆ (files.put path text).entries :=
  subset_putEntry new

def remove (files : TextFiles) (path : String) : TextFiles :=
  ⟨files.entries.filter fun entry => decide (entry.1 ≠ path)⟩

def contains (files : TextFiles) (path : String) : Bool :=
  files.paths.contains path

/-- The files that a list of paths and texts describes; the last text at a path counts. -/
def ofList (entries : List (String × String)) : TextFiles :=
  entries.foldl (fun files entry => files.put entry.1 entry.2) empty

/-- The files as the sources of a project without a manifest. -/
def sources (files : TextFiles) : Sources :=
  ⟨none, files.entries.map fun entry => ⟨entry.1, .ok entry.2⟩, []⟩

end TextFiles

end TableAtlas
