import TableAtlas.CommandLine.Arguments

/-!
# The program

Reads the project that the command line names from the disk, runs the command
on it, and prints the result.  Links inside a project are not followed, so they
are left out when its folders are read.  What cannot be read is kept with the
reason, so that it costs nothing but itself.
-/

namespace TableAtlas

/-- What an action gives, or the reason why it failed, in one line. -/
def attempt {α : Type} (action : IO α) : IO (Except String α) := do
  try
    return .ok (← action)
  catch failure =>
    return .error (((toString failure).splitOn "\n").headD "")

/-- What is read from the file at an entry of a folder. -/
def readContent (entry : IO.FS.DirEntry) : IO Content := do
  match ← attempt (IO.FS.readBinFile entry.path) with
  | .ok bytes => return .bytes bytes
  | .error reason => return .unread reason

mutual

/-- The folder at an entry of a folder on the disk. -/
partial def readFolder (entry : IO.FS.DirEntry) : IO Folder := do
  match ← attempt entry.path.readDir with
  | .ok entries => readEntries entries.toList
  | .error reason => return .unlisted reason

/-- A folder with the given entries, of which only sources keep their content.  An
entry of an unknown kind is taken for a file if it has the name of a source. -/
partial def readEntries : List IO.FS.DirEntry → IO Folder
  | [] => return .empty
  | entry :: others => do
      let folder ← readEntries others
      let name := entry.fileName
      match (← attempt entry.path.symlinkMetadata).map IO.FS.Metadata.type with
      | .ok .dir => return folder.set name (.folder (← readFolder entry))
      | .ok .file =>
          if isSourceName name then return folder.set name (.stored (← readContent entry))
          else return folder
      | .ok _ => return folder
      | .error reason =>
          if isSourceName name then return folder.set name (.stored (.unread reason))
          else return folder.set name (.folder (.unlisted reason))

end

/-- What the path of an entry leads to, if it leads anywhere. -/
def typeAt? (entry : IO.FS.DirEntry) : IO (Option IO.FS.FileType) := do
  return ((← attempt entry.path.metadata).map IO.FS.Metadata.type).toOption

/-- What is read from the file of a name in a folder, if there is such a file. -/
def contentOf (folder name : String) : IO (Option Content) := do
  let entry := IO.FS.DirEntry.mk folder name
  match ← typeAt? entry with
  | some .file => return some (← readContent entry)
  | _ => return none

/-- The root of a project on the disk.  Only a root that is no folder is missed. -/
def readRoot (path : String) : IO Root := do
  let root := IO.FS.DirEntry.mk path "."
  let folder ←
    match ← typeAt? root with
    | some .dir => pure (some (← readFolder root))
    | _ => pure none
  return ⟨← contentOf path Options.fileName, ← contentOf path Manifest.fileName, folder⟩

end TableAtlas

open TableAtlas

/-- Runs the command line. -/
def main (words : List String) : IO UInt32 := do
  match CommandLine.parse words with
  | .error failure =>
      IO.eprintln failure.name
      return 2
  | .ok invocation =>
      let root ← readRoot (invocation.command.path?.getD CommandLine.defaultPath)
      match invocation.command.run root invocation.common invocation.format with
      | .ok text =>
          IO.println text
          return 0
      | .error failure =>
          IO.eprintln failure.message
          return 1
