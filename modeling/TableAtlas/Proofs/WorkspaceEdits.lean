import Mathlib.Data.List.Induction
import Mathlib.Data.List.Nodup
import TableAtlas.Project.Workspace
import TableAtlas.Proofs.LoadedTexts
import TableAtlas.Proofs.PrimaryFlags

/-!
# Edits of a workspace

The files of a workspace are a map from paths to texts, in increasing order of the
paths.  An edit changes the text at its own path and nothing else, so a run of edits
leaves at each path what the last edit there says.  A scan depends only on these texts
and on the prefix, neither on the edits that led to them nor on the schema before, and
it is the sum of its steps.
-/

namespace TableAtlas

open TableAtlas.Source

/-! ## Texts by path -/

namespace TextFiles

/-- The text at a path. -/
def text? (files : TextFiles) (path : String) : Option String :=
  (files.entries.find? fun entry => entry.1 = path).map (·.2)

/-- Whether the paths stand in increasing order. -/
def IsSorted (files : TextFiles) : Prop :=
  files.paths.Pairwise (· < ·)

variable {files other : TextFiles}

theorem text?_put (files : TextFiles) (path text sought : String) :
    (files.put path text).text? sought =
      if path = sought then some text else files.text? sought := by
  obtain ⟨entries⟩ := files
  rw [put, text?, text?]
  induction entries with
  | nil =>
      simp only [putEntry, List.find?_cons, List.find?_nil]
      by_cases here : path = sought <;> simp [here]
  | cons entry rest induction =>
      rw [putEntry]
      split
      · by_cases here : path = sought <;> simp [here]
      · split
        · rename_i same
          by_cases here : path = sought <;> simp [← same, here]
        · rename_i different
          by_cases first : entry.1 = sought
          · have elsewhere : path ≠ sought := first ▸ different
            simp [first, elsewhere]
          · simpa [first] using induction

theorem text?_remove (files : TextFiles) (path sought : String) :
    (files.remove path).text? sought = if path = sought then none else files.text? sought := by
  rw [remove, text?, text?, List.find?_filter]
  by_cases here : path = sought
  · subst here
    simp
  · have kept (entry : String × String) :
        (decide (entry.1 ≠ path) = true ∧ decide (entry.1 = sought) = true) ↔
          entry.1 = sought := by
      rw [decide_eq_true_iff, decide_eq_true_iff]
      exact and_iff_right_of_imp fun found => found ▸ Ne.symm here
    simp only [kept, if_neg here]

theorem IsSorted.put (sorted : files.IsSorted) (path text : String) :
    (files.put path text).IsSorted :=
  pairwise_putEntry path text sorted

theorem IsSorted.remove (sorted : files.IsSorted) (path : String) : (files.remove path).IsSorted :=
  List.Pairwise.sublist (List.filter_sublist.map _) sorted

theorem IsSorted.nodup_paths (sorted : files.IsSorted) : files.paths.Nodup :=
  sorted.imp ne_of_lt

theorem mem_entries_iff (sorted : files.IsSorted) {entry : String × String} :
    entry ∈ files.entries ↔ files.text? entry.1 = some entry.2 := by
  rw [text?, Option.map_eq_some_iff]
  constructor
  · intro member
    obtain ⟨found, isFound⟩ : ∃ found, files.entries.find? (fun other => other.1 = entry.1) =
        some found := Option.isSome_iff_exists.mp (List.find?_isSome.mpr ⟨entry, member, by simp⟩)
    have same : found.1 = entry.1 := by simpa using List.find?_some isFound
    obtain rfl := List.inj_on_of_nodup_map sorted.nodup_paths
      (List.mem_of_find?_eq_some isFound) member same
    exact ⟨found, isFound, rfl⟩
  · rintro ⟨found, isFound, sameText⟩
    have samePath : found.1 = entry.1 := by simpa using List.find?_some isFound
    obtain rfl : found = entry := Prod.ext samePath sameText
    exact List.mem_of_find?_eq_some isFound

/-- Of several texts for a path the last one is kept. -/
theorem text?_ofList (list : List (String × String)) (path : String) :
    (ofList list).text? path = (list.reverse.find? fun entry => entry.1 = path).map (·.2) := by
  induction list using List.reverseRecOn with
  | nil => rfl
  | append_singleton list entry induction =>
      rw [ofList, List.foldl_concat, text?_put, List.reverse_concat, List.find?_cons]
      by_cases here : entry.1 = path
      · simp [here]
      · rw [if_neg here, decide_eq_false here]
        exact induction

theorem contains_eq_isSome (files : TextFiles) (path : String) :
    files.contains path = (files.text? path).isSome := by
  rw [contains, paths, text?, Option.isSome_map, Bool.eq_iff_iff, List.contains_iff_mem,
    List.mem_map, List.find?_isSome]
  simp

/-- Files in order are determined by the text at each path. -/
theorem eq_iff_text?_eq (sorted : files.IsSorted) (otherSorted : other.IsSorted) :
    files = other ↔ ∀ path, files.text? path = other.text? path := by
  constructor
  · rintro rfl path
    rfl
  · intro same
    have members : ∀ entry, entry ∈ files.entries ↔ entry ∈ other.entries := fun entry => by
      rw [mem_entries_iff sorted, mem_entries_iff otherSorted, same]
    have increasing := List.pairwise_map.mp sorted
    have otherIncreasing := List.pairwise_map.mp otherSorted
    have permuted : files.entries.Perm other.entries :=
      (List.perm_ext_iff_of_nodup (sorted.nodup_paths.of_map _)
        (otherSorted.nodup_paths.of_map _)).mpr members
    have entries : files.entries = other.entries :=
      permuted.eq_of_pairwise (fun entry other _ _ less greater => absurd greater (lt_asymm less))
        increasing otherIncreasing
    cases files
    cases other
    exact congrArg mk entries

end TextFiles

/-! ## Runs of edits -/

/-- A change of the files. -/
inductive Edit where
  | put (path text : String)
  | remove (path : String)

namespace Edit

def path : Edit → String
  | put path _ => path
  | remove path => path

/-- The text that an edit leaves at its path. -/
def text? : Edit → Option String
  | put _ text => some text
  | remove _ => none

/-- The last edit of a run at a path. -/
def lastAt? (edits : List Edit) (path : String) : Option Edit :=
  edits.reverse.find? fun edit => edit.path = path

theorem lastAt?_concat (edits : List Edit) (edit : Edit) (path : String) :
    lastAt? (edits ++ [edit]) path =
      if edit.path = path then some edit else lastAt? edits path := by
  rw [lastAt?, List.reverse_concat, List.find?_cons]
  by_cases here : edit.path = path <;> simp [here, lastAt?]

end Edit

namespace Workspace

variable {workspace other : Workspace}

def edit (workspace : Workspace) : Edit → Workspace
  | .put path text => workspace.put path text
  | .remove path => workspace.remove path

/-- A workspace after a run of edits. -/
def editAll (workspace : Workspace) (edits : List Edit) : Workspace :=
  edits.foldl edit workspace

/-- An edit changes the text at its path only. -/
theorem text?_edit (workspace : Workspace) (edit : Edit) (path : String) :
    (workspace.edit edit).files.text? path =
      if edit.path = path then edit.text? else workspace.files.text? path := by
  cases edit with
  | put edited text => exact workspace.files.text?_put edited text path
  | remove edited => exact workspace.files.text?_remove edited path

/-- Whether two workspaces differ in their files only, which are in order in both. -/
structure FilesChange (before after : Workspace) : Prop where
  common : after.common = before.common
  schema : after.schema = before.schema
  sorted : before.files.IsSorted → after.files.IsSorted

theorem filesChange_edit (workspace : Workspace) (edit : Edit) :
    FilesChange workspace (workspace.edit edit) := by
  cases edit with
  | put path text => exact ⟨rfl, rfl, fun sorted => sorted.put path text⟩
  | remove path => exact ⟨rfl, rfl, fun sorted => sorted.remove path⟩

theorem filesChange_editAll (workspace : Workspace) (edits : List Edit) :
    FilesChange workspace (workspace.editAll edits) := by
  induction edits generalizing workspace with
  | nil => exact ⟨rfl, rfl, id⟩
  | cons edit edits induction =>
      have first := workspace.filesChange_edit edit
      have later := induction (workspace.edit edit)
      exact ⟨later.common.trans first.common, later.schema.trans first.schema,
        fun sorted => later.sorted (first.sorted sorted)⟩

theorem editAll_withCommon (workspace : Workspace) (common : Option String) (edits : List Edit) :
    (workspace.withCommon common).editAll edits = (workspace.editAll edits).withCommon common := by
  induction edits generalizing workspace with
  | nil => rfl
  | cons edit edits induction =>
      have first : (workspace.withCommon common).edit edit =
          (workspace.edit edit).withCommon common := by
        cases edit <;> rfl
      rw [editAll, List.foldl_cons, first]
      exact induction (workspace.edit edit)

theorem isSorted_editAll_empty (common : Option String) (edits : List Edit) :
    ((empty common).editAll edits).files.IsSorted :=
  ((empty common).filesChange_editAll edits).sorted .nil

/-- A run of edits leaves at a path what the last edit there says. -/
theorem text?_editAll (workspace : Workspace) (edits : List Edit) (path : String) :
    (workspace.editAll edits).files.text? path =
      match Edit.lastAt? edits path with
      | some last => last.text?
      | none => workspace.files.text? path := by
  induction edits using List.reverseRecOn with
  | nil => rfl
  | append_singleton edits edit induction =>
      rw [editAll, List.foldl_concat, text?_edit, Edit.lastAt?_concat]
      split
      · rfl
      · exact induction

/-- Runs that leave the same text at each path give the same workspace. -/
theorem editAll_eq_iff (sorted : workspace.files.IsSorted) (edits others : List Edit) :
    workspace.editAll edits = workspace.editAll others ↔
      ∀ path, (workspace.editAll edits).files.text? path =
        (workspace.editAll others).files.text? path := by
  have change := workspace.filesChange_editAll edits
  have otherChange := workspace.filesChange_editAll others
  constructor
  · intro same path
    rw [same]
  · intro same
    have files := (TextFiles.eq_iff_text?_eq (change.sorted sorted) (otherChange.sorted sorted)).mpr
      same
    have common := change.common.trans otherChange.common.symm
    have schema := change.schema.trans otherChange.schema.symm
    exact (mk.injEq ..).mpr ⟨files, common, schema⟩

/-- Edits of different paths may be made in either order. -/
theorem edit_comm (sorted : workspace.files.IsSorted) {first second : Edit}
    (different : first.path ≠ second.path) :
    (workspace.edit first).edit second = (workspace.edit second).edit first := by
  refine (editAll_eq_iff sorted [first, second] [second, first]).mpr fun path => ?_
  simp only [editAll, List.foldl_cons, List.foldl_nil, text?_edit]
  by_cases here : first.path = path
  · subst here
    simp [Ne.symm different]
  · simp [here]

theorem edit_edit_of_path_eq (sorted : workspace.files.IsSorted) {first second : Edit}
    (same : first.path = second.path) :
    (workspace.edit first).edit second = workspace.edit second := by
  refine (editAll_eq_iff sorted [first, second] [second]).mpr fun path => ?_
  simp only [editAll, List.foldl_cons, List.foldl_nil, text?_edit, same]
  by_cases here : second.path = path <;> simp [here]

/-! ## Scans -/

/-- A scan depends on the prefix and on the text at each path, on nothing else. -/
theorem scan_eq_scan_iff (sorted : workspace.files.IsSorted) (otherSorted : other.files.IsSorted) :
    workspace.scan = other.scan ↔ workspace.common = other.common ∧
      ∀ path, workspace.files.text? path = other.files.text? path := by
  rw [← TextFiles.eq_iff_text?_eq sorted otherSorted]
  constructor
  · intro same
    have sameCommon : workspace.scan.common = other.scan.common := by rw [same]
    have sameFiles : workspace.scan.files = other.scan.files := by rw [same]
    exact ⟨sameCommon, sameFiles⟩
  · rintro ⟨common, files⟩
    simp only [scan, common, files]

/-- A workspace whose schema holds what its files declare, read one after the other. -/
def parseAll (workspace : Workspace) : Workspace :=
  workspace.files.entries.foldl
    (fun current entry => current.addObjects (current.parse entry.1 entry.2)) workspace.clear

/-- Whether two workspaces differ in their schemas only. -/
structure SchemaChange (before after : Workspace) : Prop where
  files : after.files = before.files
  common : after.common = before.common

/-- Files that are read add what they declare to the objects, in order. -/
theorem objects_foldl_parse (workspace : Workspace) (entries : List (String × String)) :
    let read := entries.foldl
      (fun current entry => current.addObjects (current.parse entry.1 entry.2)) workspace
    SchemaChange workspace read ∧
      read.schema.objects = workspace.schema.objects ++
        entries.flatMap fun entry => workspace.parse entry.1 entry.2 := by
  induction entries generalizing workspace with
  | nil => exact ⟨⟨rfl, rfl⟩, (List.append_nil _).symm⟩
  | cons entry entries induction =>
      obtain ⟨change, objects⟩ := induction (workspace.addObjects (workspace.parse entry.1 entry.2))
      refine ⟨⟨change.files, change.common⟩, ?_⟩
      rw [List.foldl_cons, objects, List.flatMap_cons, ← List.append_assoc]
      rfl

theorem objects_parseAll (workspace : Workspace) :
    workspace.parseAll.schema.objects =
      Schema.declaredObjects (.ofOption workspace.common) workspace.files.sources := by
  obtain ⟨-, objects⟩ := objects_foldl_parse workspace.clear workspace.files.entries
  rw [parseAll, objects, Schema.declaredObjects, TextFiles.sources, List.flatMap_map]
  rfl

/-- A scan reads all files, merges the extensions, leaves out the cue tables, and derives
the relations of what is left. -/
theorem scan_eq_steps (workspace : Workspace) :
    let shown := workspace.parseAll.merge.schema.objects.filter fun object => !object.isCue
    workspace.scan.schema.objects = shown ∧
      workspace.scan.schema.relations =
        (workspace.clear.addObjects shown).derive.schema.relations ∧
      SchemaChange workspace workspace.scan ∧ SchemaChange workspace workspace.parseAll.merge := by
  have objects : workspace.scan.schema.objects =
      workspace.parseAll.merge.schema.objects.filter fun object => !object.isCue := by
    rw [merge, objects_parseAll]
    rfl
  obtain ⟨change, -⟩ := objects_foldl_parse workspace.clear workspace.files.entries
  refine ⟨objects, ?_, ⟨rfl, rfl⟩, ⟨change.files, change.common⟩⟩
  exact congrArg relationsOf objects

end Workspace

end TableAtlas
