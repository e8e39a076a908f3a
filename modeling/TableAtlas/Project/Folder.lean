/-!
# Folders

A folder holds files, folders and links in increasing order of their names.  A
path leads from a folder to one of its entries, at any depth, and follows links
on the way.  A file that cannot be read and a folder that cannot be listed stay
where they are, with the reason.
-/

namespace TableAtlas

/-- What is read from a file: its bytes, or the reason why it cannot be read. -/
inductive Content where
  | bytes (stored : ByteArray)
  | unread (reason : String)

/-- The entries of a folder, or the reason why they cannot be listed. -/
inductive Folder where
  | empty
  | unlisted (reason : String)
  | file (name : String) (content : Content) (others : Folder)
  | folder (name : String) (inside : Folder) (others : Folder)
  | link (name : String) (target : String) (others : Folder)

/-- What a name stands for in a folder. -/
inductive Entry where
  | stored (content : Content)
  | folder (inside : Folder)
  | link (target : String)

/-- A file that can be read. -/
def Entry.file (bytes : ByteArray) : Entry :=
  .stored (.bytes bytes)

namespace Folder

def addFront (name : String) (entry : Entry) (others : Folder) : Folder :=
  match entry with
  | .stored content => .file name content others
  | .folder inside => .folder name inside others
  | .link target => .link name target others

def find? (name : String) : Folder → Option Entry
  | empty => none
  | unlisted _ => none
  | file other content others =>
      if other = name then some (.stored content) else others.find? name
  | folder other inside others =>
      if other = name then some (.folder inside) else others.find? name
  | link other target others => if other = name then some (.link target) else others.find? name

/-- A folder with an entry of a name, which replaces an earlier one. -/
def set (name : String) (entry : Entry) : Folder → Folder
  | empty => addFront name entry empty
  | unlisted reason => addFront name entry (unlisted reason)
  | file other content others =>
      if name < other then addFront name entry (file other content others)
      else if name = other then addFront name entry others
      else file other content (others.set name entry)
  | folder other inside others =>
      if name < other then addFront name entry (folder other inside others)
      else if name = other then addFront name entry others
      else folder other inside (others.set name entry)
  | link other target others =>
      if name < other then addFront name entry (link other target others)
      else if name = other then addFront name entry others
      else link other target (others.set name entry)

/-- The folder inside a folder, empty if there is none of that name. -/
def inside (name : String) (outer : Folder) : Folder :=
  match outer.find? name with
  | some (.folder inside) => inside
  | _ => empty

/-- A folder with an entry at a path of names, the folders on the way created. -/
def put (entry : Entry) : List String → Folder → Folder
  | [], outer => outer
  | [name], outer => outer.set name entry
  | name :: next :: path, outer =>
      outer.set name (.folder (put entry (next :: path) (outer.inside name)))

/-- A folder with a folder at a path of names, which keeps what it holds. -/
def putFolder : List String → Folder → Folder
  | [], outer => outer
  | name :: path, outer => outer.set name (.folder (putFolder path (outer.inside name)))

/-- The most links that a path may follow. -/
def linkLimit : Nat := 40

/-- Follows the parts of a path.  `outer` are the folders around `here`, the
innermost first.  A path leads nowhere if it goes through a file, leaves the
outermost folder, or follows too many links. -/
def follow (links : Nat) (outer : List Folder) (here : Folder) : List String → Option Entry
  | [] => some (.folder here)
  | part :: path =>
      if part = "" ∨ part = "." then follow links outer here path
      else if part = ".." then
        match outer with
        | [] => none
        | parent :: others => follow links others parent path
      else
        match here.find? part with
        | none => none
        | some (.stored content) => if path.isEmpty then some (.stored content) else none
        | some (.folder inside) => follow links (here :: outer) inside path
        | some (.link target) =>
            match links with
            | 0 => none
            | fewer + 1 =>
                if target.startsWith "/" then none
                else follow fewer outer here (target.splitOn "/" ++ path)
termination_by path => (links, path.length)

def resolve? (folder : Folder) (path : String) : Option Entry :=
  if path.startsWith "/" then none else folder.follow linkLimit [] (path.splitOn "/")

/-- The content of the file that a path leads to. -/
def fileAt? (folder : Folder) (path : String) : Option Content :=
  match folder.resolve? path with
  | some (.stored content) => some content
  | _ => none

/-- The folder that a path leads to.  The empty path leads nowhere. -/
def folderAt? (folder : Folder) (path : String) : Option Folder :=
  if path = "" then none
  else
    match folder.resolve? path with
    | some (.folder inside) => some inside
    | _ => none

end Folder

end TableAtlas
