import TableAtlas.Proofs.WalkOrder

/-!
# Folders without manifests

Two trees differ in their manifests only if they are equal once all manifests are left
out.  A path then leads to the same entry in both, unless it leads to a manifest
itself, possibly through links; and a walk meets the same sources.
-/

namespace TableAtlas

namespace Folder

/-- Whether the entries of a folder, and of the folders in it, have different names. -/
def HasDistinctNames : Folder → Prop
  | empty => True
  | unlisted _ => True
  | file name _ others => name ∉ others.names ∧ others.HasDistinctNames
  | folder name inside others =>
      name ∉ others.names ∧ inside.HasDistinctNames ∧ others.HasDistinctNames
  | link name _ others => name ∉ others.names ∧ others.HasDistinctNames

theorem WellFormed.hasDistinctNames {folder : Folder} (wellFormed : folder.WellFormed) :
    folder.HasDistinctNames := by
  have notAmong {name : String} {others : List String} (less : ∀ other ∈ others, name < other) :
      name ∉ others := fun member => lt_irrefl name (less name member)
  induction folder with
  | empty | unlisted reason => trivial
  | file name content others induction =>
      obtain ⟨-, increasing, othersWellFormed⟩ := wellFormed
      exact ⟨notAmong increasing, induction othersWellFormed⟩
  | folder name inside others insideInduction induction =>
      obtain ⟨-, increasing, insideWellFormed, othersWellFormed⟩ := wellFormed
      exact ⟨notAmong increasing, insideInduction insideWellFormed, induction othersWellFormed⟩
  | link name target others induction =>
      obtain ⟨-, increasing, othersWellFormed⟩ := wellFormed
      exact ⟨notAmong increasing, induction othersWellFormed⟩

/-- A folder without the manifests in it and in the folders below it. -/
def withoutManifests : Folder → Folder
  | empty => empty
  | unlisted reason => unlisted reason
  | file name content others =>
      if name = Manifest.fileName then others.withoutManifests
      else file name content others.withoutManifests
  | folder name inside others => folder name inside.withoutManifests others.withoutManifests
  | link name target others => link name target others.withoutManifests

end Folder

/-- An entry without the manifests below it. -/
def Entry.withoutManifests : Entry → Entry
  | stored content => stored content
  | folder inside => folder inside.withoutManifests
  | link target => link target

/-- What is found in a tree, and what is found when its manifests are left out: the same
entry, or nothing in place of a file. -/
inductive LosesManifest : Option Entry → Option Entry → Prop
  | kept (found : Option Entry) : LosesManifest found (found.map Entry.withoutManifests)
  | lost (content : Content) : LosesManifest (some (.stored content)) none

namespace LosesManifest

theorem eq_none {bare : Option Entry} (loses : LosesManifest none bare) : bare = none := by
  cases loses with
  | kept => rfl

theorem eq_folder {inside : Folder} {bare : Option Entry}
    (loses : LosesManifest (some (.folder inside)) bare) :
    bare = some (.folder inside.withoutManifests) := by
  cases loses with
  | kept => rfl

theorem eq_link {target : String} {bare : Option Entry}
    (loses : LosesManifest (some (.link target)) bare) : bare = some (.link target) := by
  cases loses with
  | kept => rfl

theorem eq_stored {content : Content} {bare : Option Entry}
    (loses : LosesManifest (some (.stored content)) bare) :
    bare = some (.stored content) ∨ bare = none := by
  cases loses with
  | kept => exact .inl rfl
  | lost => exact .inr rfl

end LosesManifest

namespace Folder

/-! ## Looking entries up -/

theorem find?_eq_none_of_not_mem_names {folder : Folder} {name : String}
    (absent : name ∉ folder.names) : folder.find? name = none := by
  induction folder using addFront_induction with
  | empty | unlisted reason => rfl
  | front other present others induction =>
      rw [names_addFront, List.mem_cons, not_or] at absent
      rw [find?_addFront, if_neg (Ne.symm absent.1)]
      exact induction absent.2

theorem losesManifest_find? {folder : Folder} (distinct : folder.HasDistinctNames)
    (name : String) : LosesManifest (folder.find? name) (folder.withoutManifests.find? name) := by
  induction folder with
  | empty | unlisted reason => exact .kept none
  | file other content others induction =>
      have later := induction distinct.2
      by_cases isManifest : other = Manifest.fileName
      · rw [withoutManifests, if_pos isManifest, find?]
        split
        · rename_i sought
          have noOther : others.find? name = none :=
            find?_eq_none_of_not_mem_names (sought ▸ distinct.1)
          rw [noOther] at later
          rw [later.eq_none]
          exact .lost content
        · exact later
      · rw [withoutManifests, if_neg isManifest, find?, find?]
        split
        · exact .kept (some (.stored content))
        · exact later
  | folder other inside others _ induction =>
      rw [withoutManifests, find?, find?]
      split
      · exact .kept (some (.folder inside))
      · exact induction distinct.2.2
  | link other target others induction =>
      rw [withoutManifests, find?, find?]
      split
      · exact .kept (some (.link target))
      · exact induction distinct.2

theorem HasDistinctNames.of_find? {folder inside : Folder} {name : String}
    (distinct : folder.HasDistinctNames) (found : folder.find? name = some (.folder inside)) :
    inside.HasDistinctNames := by
  induction folder with
  | empty | unlisted reason => exact absurd found (by simp [find?])
  | file other content others induction =>
      rw [find?] at found
      split at found
      · exact absurd found (by simp)
      · exact induction distinct.2 found
  | folder other present others _ induction =>
      rw [find?] at found
      split at found
      · cases found
        exact distinct.2.1
      · exact induction distinct.2.2 found
  | link other target others induction =>
      rw [find?] at found
      split at found
      · exact absurd found (by simp)
      · exact induction distinct.2 found

/-! ## Following paths -/

section Steps

variable {links : Nat} {outer : List Folder} {here : Folder} {part : String} {path : List String}

theorem follow_here (stays : part = "" ∨ part = ".") :
    follow links outer here (part :: path) = follow links outer here path := by
  rw [follow.eq_def]
  exact if_pos stays

variable (named : ¬(part = "" ∨ part = ".")) (notParent : ¬part = "..")
include named notParent

theorem follow_absent (absent : here.find? part = none) :
    follow links outer here (part :: path) = none := by
  rw [follow.eq_def]
  simp only [if_neg named, if_neg notParent, absent]

theorem follow_stored {content : Content} (found : here.find? part = some (.stored content)) :
    follow links outer here (part :: path) =
      if path.isEmpty then some (.stored content) else none := by
  rw [follow.eq_def]
  simp only [if_neg named, if_neg notParent, found]

theorem follow_folder {inside : Folder} (found : here.find? part = some (.folder inside)) :
    follow links outer here (part :: path) = follow links (here :: outer) inside path := by
  rw [follow.eq_def]
  simp only [if_neg named, if_neg notParent, found]

theorem follow_link {target : String} (found : here.find? part = some (.link target)) :
    follow (links + 1) outer here (part :: path) =
      if target.startsWith "/" then none
      else follow links outer here (target.splitOn "/" ++ path) := by
  rw [follow.eq_def]
  simp only [if_neg named, if_neg notParent, found]

theorem follow_last_link {target : String} (found : here.find? part = some (.link target)) :
    follow 0 outer here (part :: path) = none := by
  rw [follow.eq_def]
  simp only [if_neg named, if_neg notParent, found]

end Steps

/-- Links and the folders around are the same without the manifests, so a path takes the
same way until it comes to a file. -/
theorem losesManifest_follow {links : Nat} {outer : List Folder} {here : Folder}
    {path : List String} (outerDistinct : ∀ around ∈ outer, around.HasDistinctNames)
    (distinct : here.HasDistinctNames) :
    LosesManifest (follow links outer here path)
      (follow links (outer.map withoutManifests) here.withoutManifests path) := by
  fun_induction follow links outer here path with
  | case1 links outer here =>
      rw [follow]
      exact .kept (some (.folder here))
  | case2 links outer here part path stays induction =>
      rw [follow_here stays]
      exact induction outerDistinct distinct
  | case3 links here path named =>
      rw [List.map_nil, follow, if_neg named, if_pos rfl]
      exact .kept none
  | case4 links here path parent others named induction =>
      rw [List.map_cons, follow, if_neg named, if_pos rfl]
      obtain ⟨parentDistinct, othersDistinct⟩ := List.forall_mem_cons.mp outerDistinct
      exact induction othersDistinct parentDistinct
  | case5 links outer here part path named notParent absent =>
      have bare := absent ▸ losesManifest_find? distinct part
      rw [follow_absent named notParent bare.eq_none]
      exact .kept none
  | case6 links outer here part path named notParent content found isLast =>
      have bare := found ▸ losesManifest_find? distinct part
      rcases bare.eq_stored with kept | lost
      · rw [follow_stored named notParent kept, if_pos isLast]
        exact .kept (some (.stored content))
      · rw [follow_absent named notParent lost]
        exact .lost content
  | case7 links outer here part path named notParent content found notLast =>
      have bare := found ▸ losesManifest_find? distinct part
      rcases bare.eq_stored with kept | lost
      · rw [follow_stored named notParent kept, if_neg notLast]
        exact .kept none
      · rw [follow_absent named notParent lost]
        exact .kept none
  | case8 links outer here part path named notParent inside found induction =>
      have bare := found ▸ losesManifest_find? distinct part
      rw [follow_folder named notParent bare.eq_folder]
      exact induction (List.forall_mem_cons.mpr ⟨distinct, outerDistinct⟩) (distinct.of_find? found)
  | case9 outer here part path named notParent target found =>
      have bare := found ▸ losesManifest_find? distinct part
      rw [follow_last_link named notParent bare.eq_link]
      exact .kept none
  | case10 outer here part path named notParent target found fewer absolute =>
      have bare := found ▸ losesManifest_find? distinct part
      rw [follow_link named notParent bare.eq_link, if_pos absolute]
      exact .kept none
  | case11 outer here part path named notParent target found fewer relative induction =>
      have bare := found ▸ losesManifest_find? distinct part
      rw [follow_link named notParent bare.eq_link, if_neg relative]
      exact induction outerDistinct distinct

theorem losesManifest_resolve? {tree : Folder} (distinct : tree.HasDistinctNames) (path : String) :
    LosesManifest (tree.resolve? path) (tree.withoutManifests.resolve? path) := by
  unfold resolve?
  split
  · exact .kept none
  · exact losesManifest_follow (by simp) distinct

theorem folderAt?_withoutManifests {tree : Folder} (distinct : tree.HasDistinctNames)
    (path : String) :
    tree.withoutManifests.folderAt? path = (tree.folderAt? path).map withoutManifests := by
  unfold folderAt?
  split
  · rfl
  · have bare := losesManifest_resolve? distinct path
    generalize tree.resolve? path = found at bare
    generalize tree.withoutManifests.resolve? path = bareFound at bare
    cases bare with
    | lost content => rfl
    | kept =>
        rcases found with _ | (content | inside | target) <;> rfl

theorem fileAt?_withoutManifests {tree : Folder} (distinct : tree.HasDistinctNames)
    (path : String) :
    tree.withoutManifests.fileAt? path = tree.fileAt? path ∨
      tree.withoutManifests.fileAt? path = none := by
  unfold fileAt?
  have bare := losesManifest_resolve? distinct path
  generalize tree.resolve? path = found at bare
  generalize tree.withoutManifests.resolve? path = bareFound at bare
  cases bare with
  | lost content => exact .inr rfl
  | kept => rcases found with _ | (content | inside | target) <;> exact .inl rfl

/-- Whether a path leads to a manifest, possibly through links: to a file that is gone
when the manifests are left out. -/
def LeadsToManifest (tree : Folder) (path : String) : Prop :=
  (tree.fileAt? path).isSome = true ∧ tree.withoutManifests.fileAt? path = none

theorem fileAt?_withoutManifests_of_not_leadsToManifest {tree : Folder} {path : String}
    (distinct : tree.HasDistinctNames) (elsewhere : ¬tree.LeadsToManifest path) :
    tree.withoutManifests.fileAt? path = tree.fileAt? path := by
  rcases fileAt?_withoutManifests distinct path with same | gone
  · exact same
  · cases found : tree.fileAt? path with
    | none => exact gone
    | some content => exact absurd ⟨by rw [found]; rfl, gone⟩ elsewhere

/-! ## Walks -/

/-- Manifests are no sources, so a walk meets the same files without them. -/
theorem sourceFiles_withoutManifests (options : Options) (path : String) (folder : Folder) :
    folder.withoutManifests.sourceFiles options path = folder.sourceFiles options path := by
  have noSource : isSourceName Manifest.fileName = false := by decide +kernel
  induction folder generalizing path with
  | empty | unlisted reason => rfl
  | file name content others induction =>
      rw [withoutManifests, sourceFiles]
      split
      · rename_i isManifest
        rw [isManifest, noSource, if_neg (by decide), induction]
      · rw [sourceFiles, induction]
  | folder name inside others insideInduction induction =>
      rw [withoutManifests, sourceFiles, sourceFiles, insideInduction, induction]
  | link name target others induction => rw [withoutManifests, sourceFiles, sourceFiles, induction]

theorem walkFailures_withoutManifests (options : Options) (names : List String)
    (folder : Folder) :
    folder.withoutManifests.walkFailures options names = folder.walkFailures options names := by
  induction folder generalizing names with
  | empty | unlisted reason => rfl
  | file name content others induction =>
      rw [withoutManifests, walkFailures]
      split
      · exact induction names
      · rw [walkFailures, induction]
  | folder name inside others insideInduction induction =>
      rw [withoutManifests, walkFailures, walkFailures, insideInduction, induction]
  | link name target others induction =>
      rw [withoutManifests, walkFailures, walkFailures, induction]

end Folder

end TableAtlas
