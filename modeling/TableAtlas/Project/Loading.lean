import TableAtlas.Project.Folder
import TableAtlas.Project.Options
import TableAtlas.Project.Sources

/-!
# Loading projects

A project is loaded from its root: the file with its options, its manifest, and
the source files in its folders.  Folders are entered in the order of their
names, before the entries behind them; links are not followed.  A manifest that
cannot be read and a folder that cannot be listed only give a warning each.
-/

namespace TableAtlas

/-- What is found at the root of a project: the contents of the options file and
of the manifest, where they are files, and the folder, where the root is one. -/
structure Root where
  options : Option Content
  manifest : Option Content
  folder : Option Folder

namespace Root

def entryPath (root name : String) : String :=
  if root = "" then name
  else if root.endsWith "/" then root ++ name
  else root ++ "/" ++ name

/-- What a path leads to, as the root of a project. -/
def ofPath (tree : Folder) (path : String) : Root :=
  { options := tree.fileAt? (entryPath path Options.fileName)
    manifest := tree.fileAt? (entryPath path Manifest.fileName)
    folder := tree.folderAt? path }

end Root

/-- The reason why a file that is not text cannot be read. -/
def notText : String := "stream did not contain valid UTF-8"

/-- The text that a file holds, or the reason why it cannot be read. -/
def Content.text : Content → Except String String
  | .bytes stored =>
      match String.fromUTF8? stored with
      | some text => .ok text
      | none => .error notText
  | .unread reason => .error reason

namespace Options

/-- The options that a file holds, or those of a project without such a file. -/
def load (content : Option Content) : Except OptionsError Options :=
  match content with
  | none => .ok default
  | some present =>
      match present.text with
      | .error reason => .error (.readFailed fileName reason)
      | .ok text =>
          match ofDocument text with
          | .ok options => .ok options
          | .error failure => .error (.invalid fileName failure.message)

end Options

namespace Manifest

/-- The manifest that a file holds; nothing if there is no such file. -/
def load (content : Option Content) : Except LoadError (Option Manifest) :=
  match content with
  | none => .ok none
  | some present =>
      match present.text with
      | .error reason => .error (.readFailed fileName reason)
      | .ok text =>
          match ofDocument text with
          | .ok manifest => .ok (some manifest)
          | .error failure => .error (.manifestInvalid fileName failure.message)

/-- The manifest of a root and the warning about it.  A manifest is missed, and
one that cannot be read is reported. -/
def loadWithWarning (root : String) (content : Option Content) :
    Option Manifest × List String :=
  match load content with
  | .ok (some manifest) => (some manifest, [])
  | .ok none => (none, ["No " ++ fileName ++ " found in " ++ root])
  | .error failure => (none, [failure.message])

end Manifest

/-- The part of a file name behind its last dot, unless that dot comes first. -/
def extension? (name : String) : Option String :=
  let ending := name.toList.reverse.takeWhile (· != '.')
  let stem := name.toList.length - ending.length
  if stem ≤ 1 then none else some (String.ofList ending.reverse)

/-- Whether a file holds source text, by its name. -/
def isSourceName (name : String) : Bool :=
  match extension? name with
  | some extension => sameAscii extension "al"
  | none => false

/-- A path as it is shown: backslashes count as separators. -/
def shownPath (path : String) : String :=
  String.ofList (path.toList.map fun c => if c = '\\' then '/' else c)

namespace SourceFile

/-- A source file with the text that its content stands for. -/
def ofContent (path : String) (content : Content) : SourceFile :=
  ⟨path, content.text.mapError (.readFailed path)⟩

end SourceFile

namespace Folder

/-- The source files below a folder at a path, which ends in a slash or is empty. -/
def sourceFiles (options : Options) (path : String) : Folder → List SourceFile
  | empty => []
  | unlisted _ => []
  | file name content others =>
      if isSourceName name then
        SourceFile.ofContent (shownPath (path ++ name)) content ::
          others.sourceFiles options path
      else others.sourceFiles options path
  | folder name inside others =>
      if options.excludes name then others.sourceFiles options path
      else inside.sourceFiles options (path ++ name ++ "/") ++ others.sourceFiles options path
  | link _ _ others => others.sourceFiles options path

/-- The folders that cannot be listed, from a folder at a path of names on. -/
def walkFailures (options : Options) (names : List String) : Folder → List WalkFailure
  | empty => []
  | unlisted reason => [⟨shownPath ("/".intercalate names), reason⟩]
  | file _ _ others => others.walkFailures options names
  | folder name inside others =>
      if options.excludes name then others.walkFailures options names
      else inside.walkFailures options (names ++ [name]) ++ others.walkFailures options names
  | link _ _ others => others.walkFailures options names

end Folder

namespace Sources

def load (path : String) (root : Root) (options : Options) : Except LoadError Sources :=
  match root.folder with
  | none => .error (.rootNotFound path)
  | some folder =>
      let (manifest, warnings) := Manifest.loadWithWarning path root.manifest
      let files := folder.sourceFiles options ""
      .ok
        { manifest := manifest
          files := files
          warnings :=
            warnings ++ (folder.walkFailures options []).map (·.message) ++
              if files.isEmpty then ["No .al files found in " ++ path] else [] }

end Sources

end TableAtlas
