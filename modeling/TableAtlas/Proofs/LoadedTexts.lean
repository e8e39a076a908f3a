import TableAtlas.Proofs.PathParts
import TableAtlas.Proofs.WalkOrder
import TableAtlas.Schema.Assembly

/-!
# Texts of a loaded project

The texts of a loaded project can be collected by their paths.  Nothing is lost
or repeated by that, but the paths are then in increasing order, while a walk
meets them in the order in which the separator comes first.  The two orders agree
exactly if no path parts from another one at a separator where that one has a
lesser character.
-/

namespace TableAtlas

open TableAtlas.Source

/-! ## Texts by path -/

namespace TextFiles

variable {entries : List (String × String)}

theorem putEntry_perm {path : String} (text : String) (new : path ∉ entries.map (·.1)) :
    (putEntry path text entries).Perm ((path, text) :: entries) := by
  induction entries with
  | nil => exact .refl _
  | cons entry rest induction =>
      obtain ⟨different, newAmongRest⟩ : path ≠ entry.1 ∧ path ∉ rest.map (·.1) := by
        simpa [not_or] using new
      rw [putEntry]
      split
      · exact .refl _
      · exact ((induction newAmongRest).cons entry).trans (.swap (path, text) entry rest)

theorem mem_paths_putEntry {path text other : String}
    (member : other ∈ (putEntry path text entries).map (·.1)) :
    other = path ∨ other ∈ entries.map (·.1) := by
  induction entries with
  | nil => simpa [putEntry] using member
  | cons entry rest induction =>
      rw [putEntry] at member
      split at member
      · simpa using member
      · split at member
        · rename_i same
          simpa [same] using member
        · rcases List.mem_cons.mp member with rfl | later
          · exact .inr (List.mem_cons_self ..)
          · exact (induction later).imp id (List.mem_cons_of_mem entry.1)

theorem pairwise_putEntry (path text : String)
    (increasing : (entries.map (·.1)).Pairwise (· < ·)) :
    ((putEntry path text entries).map (·.1)).Pairwise (· < ·) := by
  induction entries with
  | nil => simp [putEntry]
  | cons entry rest induction =>
      obtain ⟨first, later⟩ := List.pairwise_cons.mp increasing
      rw [putEntry]
      split
      · rename_i less
        refine .cons (List.forall_mem_cons.mpr ⟨less, fun other member => ?_⟩) increasing
        exact less.trans (first other member)
      · split
        · rename_i same
          exact .cons (fun other member => same ▸ first other member) later
        · rename_i notLess different
          have greater : entry.1 < path := lt_of_le_of_ne (not_lt.mp notLess) (Ne.symm different)
          refine .cons (fun other member => ?_) (induction later)
          rcases mem_paths_putEntry member with rfl | present
          · exact greater
          · exact first other present

private theorem pairwise_foldl_put (list : List (String × String)) {files : TextFiles}
    (increasing : files.paths.Pairwise (· < ·)) :
    (list.foldl (fun files entry => files.put entry.1 entry.2) files).paths.Pairwise (· < ·) := by
  induction list generalizing files with
  | nil => exact increasing
  | cons entry list induction => exact induction (pairwise_putEntry entry.1 entry.2 increasing)

theorem pairwise_paths_ofList (list : List (String × String)) :
    (ofList list).paths.Pairwise (· < ·) :=
  pairwise_foldl_put list .nil

private theorem foldl_put_perm {list : List (String × String)} {files : TextFiles}
    (distinct : (list.map (·.1)).Nodup) (new : ∀ path ∈ list.map (·.1), path ∉ files.paths) :
    (list.foldl (fun files entry => files.put entry.1 entry.2) files).entries.Perm
      (files.entries ++ list) := by
  induction list generalizing files with
  | nil => simp
  | cons entry list induction =>
      obtain ⟨absent, laterDistinct⟩ := List.nodup_cons.mp distinct
      obtain ⟨firstNew, laterNew⟩ := List.forall_mem_cons.mp new
      have stillNew : ∀ path ∈ list.map (·.1), path ∉ (files.put entry.1 entry.2).paths := by
        intro path member present
        rcases mem_paths_putEntry present with rfl | old
        · exact absent member
        · exact laterNew path member old
      have placed : ((files.put entry.1 entry.2).entries ++ list).Perm
          (entry :: files.entries ++ list) :=
        (putEntry_perm entry.2 firstNew).append_right list
      exact (induction laterDistinct stillNew).trans (placed.trans List.perm_middle.symm)

theorem ofList_perm {list : List (String × String)} (distinct : (list.map (·.1)).Nodup) :
    (ofList list).entries.Perm list :=
  foldl_put_perm distinct (by simp [paths, empty])

/-- Texts are collected in their own order exactly if their paths increase. -/
theorem entries_ofList_eq_iff {list : List (String × String)}
    (distinct : (list.map (·.1)).Nodup) :
    (ofList list).entries = list ↔ (list.map (·.1)).Pairwise (· < ·) := by
  constructor
  · intro same
    have increasing := pairwise_paths_ofList list
    rwa [paths, same] at increasing
  · intro increasing
    refine (ofList_perm distinct).eq_of_pairwise (fun entry other _ _ less greater => ?_)
      (List.pairwise_map.mp (pairwise_paths_ofList list)) (List.pairwise_map.mp increasing)
    exact absurd greater (lt_asymm less)

end TextFiles

/-! ## Loaded texts -/

/-- Whether no path parts from another one at a separator where that one has a
character that sorts before the separator. -/
def SeparatorsFirst (paths : List String) : Prop :=
  ∀ path ∈ paths, ∀ other ∈ paths, ∀ folder inside rest c,
    path.toList = folder ++ '/' :: inside → other.toList = folder ++ c :: rest → '/' ≤ c

theorem separatorsFirst_iff {paths : List String} :
    SeparatorsFirst paths ↔
      ∀ path ∈ paths, ∀ other ∈ paths, separatorFirst path.toList other.toList = true := by
  simp only [SeparatorsFirst, separatorFirst_iff]

instance (paths : List String) : Decidable (SeparatorsFirst paths) :=
  decidable_of_iff _ separatorsFirst_iff.symm

/-- On a walk the paths increase exactly if separators sort first. -/
theorem pairwise_lt_iff_separatorsFirst {paths : List String}
    (walked : paths.Pairwise walkedBefore) :
    paths.Pairwise (· < ·) ↔ SeparatorsFirst paths := by
  rw [separatorsFirst_iff]
  constructor
  · intro increasing
    induction paths with
    | nil => simp
    | cons first paths induction =>
        obtain ⟨walkedFirst, walkedLater⟩ := List.pairwise_cons.mp walked
        obtain ⟨increasingFirst, increasingLater⟩ := List.pairwise_cons.mp increasing
        have withFirst : ∀ other ∈ paths, separatorFirst first.toList other.toList = true ∧
            separatorFirst other.toList first.toList = true := fun other member =>
          separatorFirst_of_lex_lt (walkedFirst other member)
            (String.lt_iff_toList_lt.mp (increasingFirst other member))
        have amongLater := induction walkedLater increasingLater
        intro path pathMember other otherMember
        rcases List.mem_cons.mp pathMember with rfl | pathLater
        · rcases List.mem_cons.mp otherMember with rfl | otherLater
          · exact separatorFirst_self _
          · exact (withFirst other otherLater).1
        · rcases List.mem_cons.mp otherMember with rfl | otherLater
          · exact (withFirst path pathLater).2
          · exact amongLater path pathLater other otherLater
  · intro ordered
    refine walked.imp_of_mem fun pathMember otherMember before => ?_
    exact String.lt_iff_toList_lt.mpr
      (lex_lt_of_walksBefore before (ordered _ pathMember _ otherMember))

namespace Sources

/-- The readable files with their texts. -/
def readable (sources : Sources) : List (String × String) :=
  sources.files.filterMap fun file => file.text.toOption.map fun text => (file.path, text)

/-- The texts of the readable files, by their paths. -/
def textFiles (sources : Sources) : TextFiles :=
  .ofList sources.readable

/-- Whether all files could be read. -/
def IsReadable (sources : Sources) : Prop :=
  ∀ file ∈ sources.files, file.text.isOk = true

instance (sources : Sources) : Decidable sources.IsReadable :=
  inferInstanceAs (Decidable (∀ file ∈ sources.files, file.text.isOk = true))

theorem files_eq_map_readable {sources : Sources} (isReadable : sources.IsReadable) :
    sources.readable.map (fun entry => ⟨entry.1, .ok entry.2⟩) = sources.files := by
  have step : ∀ file ∈ sources.files,
      ((file.text.toOption.map fun text => (file.path, text)).map fun entry =>
        (⟨entry.1, .ok entry.2⟩ : SourceFile)) = some file := by
    rintro ⟨path, text⟩ member
    cases text with
    | ok text => rfl
    | error failure => exact absurd (isReadable _ member) (by simp [Except.isOk, Except.toBool])
  rw [readable, List.map_filterMap, List.filterMap_congr step, List.filterMap_some]

/-- A project is loaded exactly if its root is a folder, and then its files are
those of that folder. -/
theorem load_eq_ok_iff {path : String} {root : Root} {options : Options} {files : List SourceFile} :
    (∃ sources, load path root options = .ok sources ∧ sources.files = files) ↔
      ∃ folder, root.folder = some folder ∧ folder.sourceFiles options "" = files := by
  unfold load
  cases root.folder with
  | none => simp
  | some folder => simp

/-- The files of a loaded project are met in the order of a walk. -/
theorem pairwise_files_of_load {tree : Folder} {path : String} {options : Options}
    {sources : Sources} (wellFormed : tree.WellFormed)
    (loaded : load path (.ofPath tree path) options = .ok sources) :
    (sources.files.map (·.path)).Pairwise walkedBefore := by
  obtain ⟨folder, found, files⟩ := load_eq_ok_iff.mp ⟨sources, loaded, rfl⟩
  rw [← files]
  exact List.pairwise_map.mpr
    (Folder.pairwise_sourceFiles (wellFormed.of_folderAt? found) (by simp))

theorem map_readable {sources : Sources} (isReadable : sources.IsReadable) :
    sources.readable.map (·.1) = sources.files.map (·.path) := by
  conv_rhs => rw [← files_eq_map_readable isReadable, List.map_map]
  rfl

/-- The map of its texts holds the files of a loaded project once each.  It holds
them in the order in which they were found, exactly if separators sort first in
their paths, and then it gives the same schema. -/
theorem load_textFiles (common : NamePrefix) {tree : Folder} {path : String} {options : Options}
    {sources : Sources} (wellFormed : tree.WellFormed)
    (loaded : load path (.ofPath tree path) options = .ok sources)
    (isReadable : sources.IsReadable) :
    sources.textFiles.sources.files.Perm sources.files ∧
      (sources.textFiles.sources.files = sources.files ↔
        SeparatorsFirst (sources.files.map (·.path))) ∧
      (SeparatorsFirst (sources.files.map (·.path)) →
        (Schema.ofSources common sources.textFiles.sources).objects =
            (Schema.ofSources common sources).objects ∧
          (Schema.ofSources common sources.textFiles.sources).relations =
            (Schema.ofSources common sources).relations) := by
  have walked := pairwise_files_of_load wellFormed loaded
  have distinct : (sources.readable.map (·.1)).Nodup := by
    rw [map_readable isReadable]
    exact walked.imp ne_of_walkedBefore
  have sameOrder : sources.textFiles.sources.files = sources.files ↔
      SeparatorsFirst (sources.files.map (·.path)) := by
    have asEntries : sources.textFiles.sources.files = sources.files ↔
        sources.textFiles.entries = sources.readable := by
      conv_lhs => rw [← files_eq_map_readable isReadable]
      exact List.map_inj_right fun _ _ same => by simpa [Prod.ext_iff] using same
    rw [asEntries, textFiles, TextFiles.entries_ofList_eq_iff distinct, map_readable isReadable,
      pairwise_lt_iff_separatorsFirst walked]
  refine ⟨?_, sameOrder, fun ordered => ?_⟩
  · have collected := (TextFiles.ofList_perm distinct).map fun entry =>
      (⟨entry.1, .ok entry.2⟩ : SourceFile)
    rwa [files_eq_map_readable isReadable] at collected
  · have sameFiles := sameOrder.mpr ordered
    simp only [Schema.ofSources, Schema.assemble, sameFiles, and_self]

/-- A project with a table in a folder and one in a file beside the folder. -/
def besideTree (fileName : String) : Folder :=
  Folder.empty
    |>.put (.file "table 1 A \x7b \x7d".toUTF8) ["p", "a", "x.al"]
    |>.put (.file "table 2 B \x7b \x7d".toUTF8) ["p", fileName]

theorem wellFormed_besideTree {fileName : String} (isName : isEntryName fileName = true) :
    (besideTree fileName).WellFormed := by
  have first : (Folder.empty.put (.file "table 1 A \x7b \x7d".toUTF8) ["p", "a", "x.al"]).WellFormed :=
    Folder.WellFormed.put trivial (by decide) trivial
  exact first.put (by simpa using ⟨by decide, isName⟩) trivial

theorem exists_load_besideTree (fileName : String) (options : Options) :
    ∃ sources, load "p" (.ofPath (besideTree fileName) "p") options = .ok sources ∧
      sources.files = ((besideTree fileName).inside "p").sourceFiles options "" := by
  have parts : "p".splitOn "/" = ["p"] := splitOn_of_not_mem (by decide)
  have relative : "p".startsWith "/" = false := by decide +kernel
  refine load_eq_ok_iff.mpr ⟨_, ?_, rfl⟩
  simp [Root.ofPath, Folder.folderAt?, Folder.resolve?, parts, relative, Folder.follow, besideTree,
    Folder.put, Folder.inside, Folder.set, Folder.addFront, Folder.find?]

theorem load_textFiles_besideTree :
    ∃ sources, load "p" (.ofPath (besideTree "a_1.al") "p") .default = .ok sources ∧
      sources.files.map (·.path) = ["a/x.al", "a_1.al"] ∧
      (Schema.ofSources .none sources.textFiles.sources).objects =
        (Schema.ofSources .none sources).objects := by
  obtain ⟨sources, loaded, files⟩ := exists_load_besideTree "a_1.al" .default
  have isReadable : sources.IsReadable := by
    rw [IsReadable, files]
    decide +kernel
  have paths : sources.files.map (·.path) = ["a/x.al", "a_1.al"] := by
    rw [files]
    decide +kernel
  have ordered : SeparatorsFirst (sources.files.map (·.path)) := by
    rw [paths]
    decide
  have whole := load_textFiles .none (wellFormed_besideTree (by decide)) loaded isReadable
  exact ⟨sources, loaded, paths, (whole.2.2 ordered).1⟩

/-- A dot sorts before the separator, so the order of the two files differs. -/
theorem load_textFiles_ne :
    (besideTree "a.al").WellFormed ∧
    ∃ sources, load "p" (.ofPath (besideTree "a.al") "p") .default = .ok sources ∧
      sources.IsReadable ∧
      (Schema.ofSources .none sources).objects.map (·.name) = ["A", "B"] ∧
      (Schema.ofSources .none sources.textFiles.sources).objects.map (·.name) = ["B", "A"] := by
  obtain ⟨sources, loaded, files⟩ := exists_load_besideTree "a.al" .default
  refine ⟨wellFormed_besideTree (by decide), sources, loaded, ?_⟩
  simp only [IsReadable, Schema.ofSources, Schema.assemble, textFiles, readable, files]
  decide +kernel

end Sources

end TableAtlas
