import TableAtlas.CommandLine.Command
import TableAtlas.Proofs.FoldersWithoutManifests
import TableAtlas.Proofs.PathParts
import TableAtlas.Proofs.UnreadableFiles

/-!
# Projects and their manifests

A project cannot be scanned exactly if its options cannot be used or its root is no
folder.  The manifest decides what the project is called and gives at most one
warning, but no object and no relation, as long as the options are not read from the
manifest itself: the path of the options may be a link to it.
-/

namespace TableAtlas

open TableAtlas.Source

/-! ## What is loaded from a root -/

namespace Options

/-- Whether options can be read from the content of a file. -/
def IsValidContent (content : Content) : Prop :=
  ∃ text options, content.text = .ok text ∧ ofDocument text = .ok options

theorem load_of_isText {content : Content} {text : String} (isText : content.text = .ok text) :
    load (some content) =
      (ofDocument text).mapError fun failure => .invalid fileName failure.message := by
  simp only [load, isText]
  cases ofDocument text <;> rfl

end Options

namespace Manifest

/-- The warning about a manifest that is missing or cannot be read. -/
def warning? (root : String) (content : Option Content) : Option String :=
  match load content with
  | .ok (some _) => none
  | .ok none => some ("No " ++ fileName ++ " found in " ++ root)
  | .error failure => some failure.message

theorem loadWithWarning_snd (root : String) (content : Option Content) :
    (loadWithWarning root content).2 = (warning? root content).toList := by
  unfold loadWithWarning warning?
  rcases load content with failure | _ | manifest <;> rfl

end Manifest

namespace Sources

/-- The warnings about the folder of a project: one for each folder in it that cannot be
listed, and one if it has no source files. -/
def folderWarnings (root : String) (options : Options) (folder : Folder) : List String :=
  (folder.walkFailures options []).map (·.message) ++
    if (folder.sourceFiles options "").isEmpty then ["No .al files found in " ++ root] else []

theorem folderWarnings_withoutManifests (root : String) (options : Options) (folder : Folder) :
    folderWarnings root options folder.withoutManifests = folderWarnings root options folder := by
  rw [folderWarnings, folderWarnings, Folder.walkFailures_withoutManifests,
    Folder.sourceFiles_withoutManifests]

theorem load_of_folder (path : String) {root : Root} (options : Options) {folder : Folder}
    (found : root.folder = some folder) :
    ∃ sources, load path root options = .ok sources ∧
      sources.files = folder.sourceFiles options "" ∧
      sources.warnings =
        (Manifest.warning? path root.manifest).toList ++ folderWarnings path options folder := by
  refine ⟨_, by rw [load, found], rfl, ?_⟩
  rw [Manifest.loadWithWarning_snd, folderWarnings, List.append_assoc]

end Sources

namespace Root

/-- Why the project at a root cannot be scanned. -/
inductive Fails (path : String) (root : Root) : CommandError → Prop
  | unreadable {content : Content} {reason : String} (present : root.options = some content)
      (noText : content.text = .error reason) :
      Fails path root (.options (.readFailed Options.fileName reason))
  | invalid {content : Content} {text : String} {failure : Settings.Failure}
      (present : root.options = some content) (isText : content.text = .ok text)
      (rejected : Options.ofDocument text = .error failure) :
      Fails path root (.options (.invalid Options.fileName failure.message))
  | noFolder (valid : ∀ content ∈ root.options, Options.IsValidContent content)
      (missing : root.folder = none) : Fails path root (.load (.rootNotFound path))

variable {root : Root}

theorem load_options_of_valid (valid : ∀ content ∈ root.options, Options.IsValidContent content) :
    ∃ options, Options.load root.options = .ok options := by
  cases present : root.options with
  | none => exact ⟨_, rfl⟩
  | some content =>
      obtain ⟨text, options, isText, read⟩ := valid content present
      exact ⟨options, by rw [Options.load_of_isText isText, read]; rfl⟩

theorem fails_or_loads (path : String) (root : Root) :
    (∃ failure, root.Fails path failure) ∨
      ∃ options folder, Options.load root.options = .ok options ∧ root.folder = some folder := by
  have valid_or_fails : (∀ content ∈ root.options, Options.IsValidContent content) ∨
      ∃ failure, root.Fails path failure := by
    cases present : root.options with
    | none => exact .inl (by simp)
    | some content =>
        cases isText : content.text with
        | error reason => exact .inr ⟨_, .unreadable present isText⟩
        | ok text =>
            cases read : Options.ofDocument text with
            | error failure => exact .inr ⟨_, .invalid present isText read⟩
            | ok options =>
                have isValid : Options.IsValidContent content := ⟨text, options, isText, read⟩
                exact .inl (by simpa using isValid)
  rcases valid_or_fails with valid | fails
  · obtain ⟨options, loaded⟩ := load_options_of_valid valid
    cases found : root.folder with
    | none => exact .inl ⟨_, .noFolder valid found⟩
    | some folder => exact .inr ⟨options, folder, loaded, rfl⟩
  · exact .inl fails

end Root

/-! ## Scans of a root -/

namespace Schema

variable (path : String) {root : Root} (given : Option String)

theorem ofRoot_of_error {cause : OptionsError} (failed : Options.load root.options = .error cause) :
    ofRoot path root given = .error (.options cause) := by
  rw [ofRoot, failed]
  rfl

theorem ofRoot_of_no_folder {options : Options} (loaded : Options.load root.options = .ok options)
    (missing : root.folder = none) :
    ofRoot path root given = .error (.load (.rootNotFound path)) := by
  rw [ofRoot, loaded]
  simp only [Sources.load, missing]
  rfl

theorem ofRoot_of_folder {options : Options} {folder : Folder}
    (loaded : Options.load root.options = .ok options) (found : root.folder = some folder) :
    ∃ sources, ofRoot path root given =
        .ok (.ofSources (.ofOption (options.withCommon given).common) sources) ∧
      sources.files = folder.sourceFiles (options.withCommon given) "" ∧
      sources.warnings =
        (Manifest.warning? path root.manifest).toList ++
          Sources.folderWarnings path (options.withCommon given) folder := by
  obtain ⟨sources, sourcesLoaded, files, warnings⟩ :=
    Sources.load_of_folder path (options.withCommon given) found
  refine ⟨sources, ?_, files, warnings⟩
  simp only [ofRoot, loaded, Except.mapError, Except.bind, bind, sourcesLoaded]
  rfl

theorem ofRoot_of_fails {failure : CommandError} (fails : root.Fails path failure) :
    ofRoot path root given = .error failure := by
  cases fails with
  | unreadable present noText =>
      apply ofRoot_of_error
      simp only [present, Options.load, noText]
  | invalid present isText rejected =>
      apply ofRoot_of_error
      rw [present, Options.load_of_isText isText, rejected]
      rfl
  | noFolder valid missing =>
      obtain ⟨options, loaded⟩ := Root.load_options_of_valid valid
      exact ofRoot_of_no_folder path given loaded missing

theorem ofRoot_eq_error_iff {failure : CommandError} :
    ofRoot path root given = .error failure ↔ root.Fails path failure := by
  constructor
  · intro failed
    rcases root.fails_or_loads path with ⟨reason, fails⟩ | ⟨options, folder, loaded, found⟩
    · rw [ofRoot_of_fails path given fails] at failed
      cases failed
      exact fails
    · obtain ⟨sources, scanned, -⟩ := ofRoot_of_folder path given loaded found
      rw [scanned] at failed
      cases failed
  · exact ofRoot_of_fails path given

/-- Two scans agree: they fail alike, or they find the same objects and relations, and
their warnings are the same behind one that each may give about its manifest. -/
inductive ScansAgree (warning otherWarning : Option String) :
    Except CommandError Schema → Except CommandError Schema → Prop
  | failed (failure : CommandError) :
      ScansAgree warning otherWarning (.error failure) (.error failure)
  | found {schema other : Schema} (objects : schema.objects = other.objects)
      (relations : schema.relations = other.relations) (shared : List String)
      (warnings : schema.warnings = warning.toList ++ shared)
      (otherWarnings : other.warnings = otherWarning.toList ++ shared) :
      ScansAgree warning otherWarning (.ok schema) (.ok other)

theorem scansAgree_ofSources (common : NamePrefix) {sources other : Sources}
    {warning otherWarning : Option String} {shared : List String}
    (files : sources.files = other.files)
    (warnings : sources.warnings = warning.toList ++ shared)
    (otherWarnings : other.warnings = otherWarning.toList ++ shared) :
    ScansAgree warning otherWarning (.ok (ofSources common sources))
      (.ok (ofSources common other)) := by
  have objects : (ofSources common sources).objects = (ofSources common other).objects := by
    simp only [ofSources, assemble, files]
  have failures : sources.failures = other.failures := by
    rw [Sources.failures, Sources.failures, files]
  refine .found objects (congrArg relationsOf objects)
    (shared ++ other.failures.map (·.message) ++
      if (ofSources common other).objects = [] then [noObjectsWarning] else []) ?_ ?_
  · rw [warnings_ofSources, warnings, failures, objects]
    simp only [List.append_assoc]
  · rw [warnings_ofSources, otherWarnings]
    simp only [List.append_assoc]

/-- A scan depends on the manifest of a root only in the project and in one warning. -/
theorem scansAgree_ofRoot (root other : Root)
    (options : Options.load root.options = Options.load other.options)
    (folder : root.folder.map Folder.withoutManifests =
      other.folder.map Folder.withoutManifests) :
    ScansAgree (Manifest.warning? path root.manifest) (Manifest.warning? path other.manifest)
      (ofRoot path root given) (ofRoot path other given) := by
  cases loaded : Options.load root.options with
  | error cause =>
      rw [ofRoot_of_error path given loaded, ofRoot_of_error path given (options ▸ loaded)]
      exact .failed _
  | ok read =>
      cases found : root.folder with
      | none =>
          rw [found, Option.map_none] at folder
          have missing := Option.map_eq_none_iff.mp folder.symm
          rw [ofRoot_of_no_folder path given loaded found,
            ofRoot_of_no_folder path given (options ▸ loaded) missing]
          exact .failed _
      | some inside =>
          rw [found, Option.map_some] at folder
          obtain ⟨otherInside, otherFound, same⟩ := Option.map_eq_some_iff.mp folder.symm
          obtain ⟨sources, scanned, files, warnings⟩ := ofRoot_of_folder path given loaded found
          obtain ⟨otherSources, otherScanned, otherFiles, otherWarnings⟩ :=
            ofRoot_of_folder path given (options ▸ loaded) otherFound
          have sameFiles : sources.files = otherSources.files := by
            rw [files, otherFiles, ← Folder.sourceFiles_withoutManifests, ← same,
              Folder.sourceFiles_withoutManifests]
          rw [← Sources.folderWarnings_withoutManifests, same,
            Sources.folderWarnings_withoutManifests] at otherWarnings
          rw [scanned, otherScanned]
          exact scansAgree_ofSources _ sameFiles warnings otherWarnings

end Schema

/-! ## A tree with one project -/

/-- A tree with a project. -/
def projectTree (project : Folder) : Folder :=
  .folder "p" project .empty

/-- The text of a file with one table. -/
def tableSource : Content :=
  .bytes "table 1 \"AB Item\" \x7b \x7d".toUTF8

/-- A project with one table, an entry for its options, and a manifest. -/
def tableProject (options : Entry) (manifest : String) : Folder :=
  .addFront Options.fileName options
    (.file "a.al" tableSource (.file Manifest.fileName (.bytes manifest.toUTF8) .empty))

theorem ne_manifestName : "a.al" ≠ Manifest.fileName ∧ Options.fileName ≠ Manifest.fileName := by
  decide

section Paths

variable {project : Folder} {name : String} {content : Content}

theorem find?_projectTree (project : Folder) :
    (projectTree project).find? "p" = some (.folder project) :=
  if_pos rfl

theorem folderAt?_projectTree (project : Folder) :
    (projectTree project).folderAt? "p" = some project := by
  have parts : "p".splitOn "/" = ["p"] := splitOn_of_not_mem (by decide)
  have relative : ¬"p".startsWith "/" = true := by decide +kernel
  rw [Folder.folderAt?, if_neg (by decide), Folder.resolve?, if_neg relative, parts,
    Folder.follow_folder (by decide) (by decide) (find?_projectTree project), Folder.follow]

theorem splitOn_entryPath :
    ∀ name ∈ [Options.fileName, Manifest.fileName],
      (Root.entryPath "p" name).splitOn "/" = ["p", name] ∧
        ¬(Root.entryPath "p" name).startsWith "/" = true := by
  simp only [splitOn_separator]
  decide +kernel

theorem resolve?_entryPath (isRead : name ∈ [Options.fileName, Manifest.fileName]) :
    (projectTree project).resolve? (Root.entryPath "p" name) =
      project.follow Folder.linkLimit [projectTree project] [name] := by
  obtain ⟨parts, relative⟩ := splitOn_entryPath name isRead
  rw [Folder.resolve?, if_neg relative, parts]
  exact Folder.follow_folder (by decide) (by decide) (find?_projectTree project)

theorem fileAt?_entryPath (isRead : name ∈ [Options.fileName, Manifest.fileName])
    (found : project.find? name = some (.stored content)) :
    (projectTree project).fileAt? (Root.entryPath "p" name) = some content := by
  have named : ∀ name ∈ [Options.fileName, Manifest.fileName],
      ¬(name = "" ∨ name = ".") ∧ ¬name = ".." := by decide
  rw [Folder.fileAt?, resolve?_entryPath isRead,
    Folder.follow_stored (named name isRead).1 (named name isRead).2 found]
  rfl

theorem fileAt?_entryPath_of_link
    (found : project.find? Options.fileName = some (.link Manifest.fileName))
    (manifest : project.find? Manifest.fileName = some (.stored content)) :
    (projectTree project).fileAt? (Root.entryPath "p" Options.fileName) = some content := by
  have parts : Manifest.fileName.splitOn "/" = [Manifest.fileName] :=
    splitOn_of_not_mem (by decide)
  have relative : ¬Manifest.fileName.startsWith "/" = true := by decide +kernel
  rw [Folder.fileAt?, resolve?_entryPath (by simp), Folder.linkLimit,
    Folder.follow_link (by decide) (by decide) found, if_neg relative, parts,
    List.singleton_append, Folder.follow_stored (by decide) (by decide) manifest]
  rfl

end Paths

section Project

variable (options : Entry) (manifest : String)

theorem hasDistinctNames_projectTree (wellFormed : options.WellFormed) :
    (projectTree (tableProject options manifest)).HasDistinctNames := by
  apply Folder.WellFormed.hasDistinctNames
  have behindSource : ∀ other ∈ [Manifest.fileName], "a.al" < other := by decide
  have behindOptions : ∀ other ∈ ["a.al", Manifest.fileName], Options.fileName < other := by
    decide
  have alone : ∀ other ∈ ([] : List String), Manifest.fileName < other := by decide
  refine ⟨by decide, by simp [Folder.names], Folder.wellFormed_addFront.mpr ?_, trivial⟩
  exact ⟨by decide, behindOptions, wellFormed, by decide, behindSource, by decide, alone, trivial⟩

theorem withoutManifests_tableProject :
    (tableProject options manifest).withoutManifests =
      .addFront Options.fileName options.withoutManifests (.file "a.al" tableSource .empty) := by
  cases options <;>
    simp [tableProject, Folder.addFront, Folder.withoutManifests, Entry.withoutManifests,
      ne_manifestName]

theorem find?_options :
    (tableProject options manifest).find? Options.fileName = some options := by
  rw [tableProject, Folder.find?_addFront, if_pos rfl]

theorem find?_manifest :
    (tableProject options manifest).find? Manifest.fileName =
      some (.stored (.bytes manifest.toUTF8)) := by
  simp [tableProject, Folder.find?_addFront, Folder.find?, ne_manifestName]

theorem not_leadsToManifest_projectTree (content : Content) :
    ¬(projectTree (tableProject (.stored content) manifest)).LeadsToManifest
      (Root.entryPath "p" Options.fileName) := by
  rintro ⟨-, gone⟩
  have kept : (tableProject (.stored content) manifest).withoutManifests.find? Options.fileName =
      some (.stored content) := by
    rw [withoutManifests_tableProject, Folder.find?_addFront, if_pos rfl]
    rfl
  have found := fileAt?_entryPath (by simp) kept
  exact absurd (found.symm.trans gone) (by simp)

theorem ofPath_projectTree {content : Content}
    (found : (projectTree (tableProject options manifest)).fileAt?
      (Root.entryPath "p" Options.fileName) = some content) :
    Root.ofPath (projectTree (tableProject options manifest)) "p" =
      ⟨some content, some (.bytes manifest.toUTF8), some (tableProject options manifest)⟩ := by
  rw [Root.ofPath, found, fileAt?_entryPath (by simp) (find?_manifest options manifest),
    folderAt?_projectTree]

end Project

/-! ## Scans of a tree -/

/-- The warning about the manifest of the project at a path of a tree. -/
def Folder.manifestWarning? (tree : Folder) (path : String) : Option String :=
  Manifest.warning? path (tree.fileAt? (Root.entryPath path Manifest.fileName))

namespace Schema

/-- The schema of the project at a path of a tree. -/
def ofTree (tree : Folder) (path : String) (given : Option String) :
    Except CommandError Schema :=
  ofRoot path (.ofPath tree path) given

/-- A scan fails exactly if the options cannot be used or the root is no folder.  Trees
that differ only in their manifests are scanned alike if the same options are read from
them, as they are unless the path of the options leads to a manifest. -/
theorem scansAgree_ofTree (path : String) (given : Option String) :
    (∀ tree failure,
      ofTree tree path given = .error failure ↔ (Root.ofPath tree path).Fails path failure) ∧
    ∀ tree other : Folder, tree.HasDistinctNames → other.HasDistinctNames →
      tree.withoutManifests = other.withoutManifests →
      let options := Root.entryPath path Options.fileName
      (¬tree.LeadsToManifest options → ¬other.LeadsToManifest options →
        tree.fileAt? options = other.fileAt? options) ∧
      (Options.load (tree.fileAt? options) = Options.load (other.fileAt? options) →
        ScansAgree (tree.manifestWarning? path) (other.manifestWarning? path)
          (ofTree tree path given) (ofTree other path given)) := by
  refine ⟨fun tree failure => ofRoot_eq_error_iff path given, ?_⟩
  intro tree other distinct otherDistinct same options
  constructor
  · intro elsewhere otherElsewhere
    rw [← Folder.fileAt?_withoutManifests_of_not_leadsToManifest distinct elsewhere, same,
      Folder.fileAt?_withoutManifests_of_not_leadsToManifest otherDistinct otherElsewhere]
  · intro sameOptions
    have sameFolder : (tree.folderAt? path).map Folder.withoutManifests =
        (other.folderAt? path).map Folder.withoutManifests := by
      rw [← Folder.folderAt?_withoutManifests distinct,
        ← Folder.folderAt?_withoutManifests otherDistinct, same]
    exact scansAgree_ofRoot path given (.ofPath tree path) (.ofPath other path) sameOptions
      sameFolder

theorem scansAgree_ofTree_unreadableManifest :
    let options := Entry.file "\x7b\"prefix\": \"AB \"\x7d".toUTF8
    let tree := projectTree (tableProject options "\x7b\"name\": \"P\"\x7d")
    let other := projectTree (tableProject options "P")
    tree.HasDistinctNames ∧ other.HasDistinctNames ∧
      tree.withoutManifests = other.withoutManifests ∧
      ¬tree.LeadsToManifest (Root.entryPath "p" Options.fileName) ∧
      ¬other.LeadsToManifest (Root.entryPath "p" Options.fileName) ∧
      ScansAgree (tree.manifestWarning? "p") (other.manifestWarning? "p")
        (ofTree tree "p" none) (ofTree other "p" none) ∧
      (ofTree tree "p" none).toOption.map (·.objects.map (·.name)) = some ["Item"] ∧
      tree.manifestWarning? "p" = none ∧ (other.manifestWarning? "p").isSome = true := by
  intro options tree other
  have distinct := hasDistinctNames_projectTree options "\x7b\"name\": \"P\"\x7d" trivial
  have otherDistinct := hasDistinctNames_projectTree options "P" trivial
  have same : tree.withoutManifests = other.withoutManifests := by
    simp only [tree, other, projectTree, Folder.withoutManifests, withoutManifests_tableProject]
  have elsewhere (manifest : String) :
      ¬(projectTree (tableProject options manifest)).LeadsToManifest
        (Root.entryPath "p" Options.fileName) :=
    not_leadsToManifest_projectTree manifest _
  obtain ⟨sameOptions, agree⟩ :=
    (scansAgree_ofTree "p" none).2 tree other distinct otherDistinct same
  have sameLoaded := congrArg Options.load (sameOptions (elsewhere _) (elsewhere _))
  refine ⟨distinct, otherDistinct, same, elsewhere _, elsewhere _, agree sameLoaded, ?_, ?_, ?_⟩
  · have found := fileAt?_entryPath (by simp) (find?_options options "\x7b\"name\": \"P\"\x7d")
    rw [ofTree, ofPath_projectTree options _ found]
    decide +kernel
  · rw [Folder.manifestWarning?, fileAt?_entryPath (by simp) (find?_manifest options _)]
    decide +kernel
  · rw [Folder.manifestWarning?, fileAt?_entryPath (by simp) (find?_manifest options _)]
    decide +kernel

/-- Here the path of the options is a link to the manifest, which gives the prefix. -/
theorem ofTree_ne_linkedOptions :
    let options := Entry.link Manifest.fileName
    let tree := projectTree (tableProject options "\x7b\"name\": \"P\", \"prefix\": \"AB \"\x7d")
    let other := projectTree (tableProject options "\x7b\"name\": \"P\"\x7d")
    tree.HasDistinctNames ∧ other.HasDistinctNames ∧
      tree.withoutManifests = other.withoutManifests ∧
      (ofTree tree "p" none).toOption.map (·.objects.map (·.name)) = some ["Item"] ∧
      (ofTree other "p" none).toOption.map (·.objects.map (·.name)) = some ["AB Item"] := by
  intro options tree other
  have found (manifest : String) :
      (projectTree (tableProject options manifest)).fileAt? (Root.entryPath "p" Options.fileName) =
        some (.bytes manifest.toUTF8) :=
    fileAt?_entryPath_of_link (find?_options options manifest) (find?_manifest options manifest)
  refine ⟨hasDistinctNames_projectTree options _ trivial,
    hasDistinctNames_projectTree options _ trivial, ?_, ?_, ?_⟩
  · simp only [tree, other, projectTree, Folder.withoutManifests, withoutManifests_tableProject]
  · rw [ofTree, ofPath_projectTree options _ (found _)]
    decide +kernel
  · rw [ofTree, ofPath_projectTree options _ (found _)]
    decide +kernel

end Schema

end TableAtlas
