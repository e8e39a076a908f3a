import Mathlib.Data.String.Basic
import TableAtlas.Project.Loading

/-!
# The order of a walk

The entries of a folder stand in increasing order of their names.  A walk
through such a folder meets the paths of its files in the lexicographic order
in which the separator comes before all other characters.
-/

namespace TableAtlas

/-! ## Well-formed folders -/

/-- Whether a name can be that of an entry: no separator occurs in it. -/
def isEntryName (name : String) : Bool :=
  name.toList.all fun c => c != '/' && c != '\\'

theorem isEntryName_iff {name : String} :
    isEntryName name = true ↔ '/' ∉ name.toList ∧ '\\' ∉ name.toList := by
  simp only [isEntryName, List.all_eq_true, Bool.and_eq_true, bne_iff_ne]
  constructor
  · intro proper
    exact ⟨fun member => (proper _ member).1 rfl, fun member => (proper _ member).2 rfl⟩
  · rintro ⟨noSlash, noBackslash⟩ c member
    exact ⟨fun same => noSlash (same ▸ member), fun same => noBackslash (same ▸ member)⟩

namespace Folder

/-- The names of the entries of a folder. -/
def names : Folder → List String
  | empty => []
  | unlisted _ => []
  | file name _ others => name :: others.names
  | folder name _ others => name :: others.names
  | link name _ others => name :: others.names

/-- The entries of a folder, and of the folders in it, have proper names in
increasing order. -/
def WellFormed : Folder → Prop
  | empty => True
  | unlisted _ => True
  | file name _ others =>
      isEntryName name = true ∧ (∀ other ∈ others.names, name < other) ∧ others.WellFormed
  | folder name inside others =>
      isEntryName name = true ∧ (∀ other ∈ others.names, name < other) ∧ inside.WellFormed ∧
        others.WellFormed
  | link name _ others =>
      isEntryName name = true ∧ (∀ other ∈ others.names, name < other) ∧ others.WellFormed

end Folder

/-- Whether an entry may be put into a well-formed folder. -/
def Entry.WellFormed : Entry → Prop
  | stored _ => True
  | folder inside => inside.WellFormed
  | link _ => True

namespace Folder

theorem names_addFront (name : String) (entry : Entry) (others : Folder) :
    (addFront name entry others).names = name :: others.names := by
  cases entry <;> rfl

theorem wellFormed_addFront {name : String} {entry : Entry} {others : Folder} :
    (addFront name entry others).WellFormed ↔
      isEntryName name = true ∧ (∀ other ∈ others.names, name < other) ∧ entry.WellFormed ∧
        others.WellFormed := by
  cases entry <;> simp [addFront, WellFormed, Entry.WellFormed]

/-- A folder is built from one without entries by putting entries in front. -/
theorem addFront_induction {motive : Folder → Prop} (empty : motive empty)
    (unlisted : ∀ reason, motive (unlisted reason))
    (front : ∀ name entry others, motive others → motive (addFront name entry others)) :
    ∀ folder, motive folder
  | .empty => empty
  | .unlisted reason => unlisted reason
  | .file name content others =>
      front name (.stored content) others (addFront_induction empty unlisted front others)
  | .folder name inside others =>
      front name (.folder inside) others (addFront_induction empty unlisted front others)
  | .link name target others =>
      front name (.link target) others (addFront_induction empty unlisted front others)

theorem set_addFront (name : String) (entry : Entry) (other : String) (present : Entry)
    (others : Folder) :
    (addFront other present others).set name entry =
      if name < other then addFront name entry (addFront other present others)
      else if name = other then addFront name entry others
      else addFront other present (others.set name entry) := by
  cases present <;> rfl

theorem find?_addFront (name other : String) (present : Entry) (others : Folder) :
    (addFront other present others).find? name =
      if other = name then some present else others.find? name := by
  cases present <;> rfl

theorem mem_names_set {folder : Folder} {name other : String} {entry : Entry}
    (member : other ∈ (folder.set name entry).names) : other = name ∨ other ∈ folder.names := by
  induction folder using addFront_induction with
  | empty | unlisted reason =>
      rw [set, names_addFront] at member
      exact List.mem_cons.mp member
  | front first present others induction =>
      rw [set_addFront] at member
      rw [names_addFront]
      split at member
      · rw [names_addFront, names_addFront] at member
        exact List.mem_cons.mp member
      · split at member
        · rw [names_addFront] at member
          rcases List.mem_cons.mp member with same | later
          · exact .inl same
          · exact .inr (List.mem_cons_of_mem first later)
        · rw [names_addFront] at member
          rcases List.mem_cons.mp member with rfl | later
          · exact .inr (List.mem_cons_self ..)
          · exact (induction later).imp id (List.mem_cons_of_mem first)

theorem WellFormed.set {folder : Folder} {name : String} {entry : Entry}
    (wellFormed : folder.WellFormed) (isName : isEntryName name = true)
    (entryWellFormed : entry.WellFormed) : (folder.set name entry).WellFormed := by
  induction folder using addFront_induction with
  | empty | unlisted reason =>
      exact wellFormed_addFront.mpr ⟨isName, by simp [names], entryWellFormed, trivial⟩
  | front first present others induction =>
      have whole := wellFormed
      obtain ⟨firstIsName, increasing, presentWellFormed, othersWellFormed⟩ :=
        wellFormed_addFront.mp wellFormed
      rw [set_addFront]
      split
      · rename_i less
        refine wellFormed_addFront.mpr ⟨isName, ?_, entryWellFormed, whole⟩
        rw [names_addFront]
        exact List.forall_mem_cons.mpr
          ⟨less, fun other member => less.trans (increasing other member)⟩
      · split
        · rename_i same
          exact wellFormed_addFront.mpr
            ⟨isName, same ▸ increasing, entryWellFormed, othersWellFormed⟩
        · rename_i notLess different
          have greater : first < name := lt_of_le_of_ne (not_lt.mp notLess) (Ne.symm different)
          refine wellFormed_addFront.mpr
            ⟨firstIsName, ?_, presentWellFormed, induction othersWellFormed⟩
          intro other member
          rcases mem_names_set member with rfl | present
          · exact greater
          · exact increasing other present

theorem WellFormed.of_find? {folder : Folder} {name : String} {entry : Entry}
    (wellFormed : folder.WellFormed) (found : folder.find? name = some entry) :
    entry.WellFormed := by
  induction folder using addFront_induction with
  | empty | unlisted reason => simp [find?] at found
  | front first present others induction =>
      obtain ⟨-, -, presentWellFormed, othersWellFormed⟩ := wellFormed_addFront.mp wellFormed
      rw [find?_addFront] at found
      split at found
      · obtain rfl := Option.some.inj found
        exact presentWellFormed
      · exact induction othersWellFormed found

theorem WellFormed.inside {folder : Folder} (wellFormed : folder.WellFormed) (name : String) :
    (folder.inside name).WellFormed := by
  unfold Folder.inside
  split
  · rename_i found
    exact wellFormed.of_find? found
  · trivial

/-- Folders that are laid out entry by entry are well formed. -/
theorem WellFormed.put {folder : Folder} {path : List String} {entry : Entry}
    (wellFormed : folder.WellFormed) (areNames : ∀ name ∈ path, isEntryName name = true)
    (entryWellFormed : entry.WellFormed) : (folder.put entry path).WellFormed := by
  induction path generalizing folder with
  | nil => exact wellFormed
  | cons name path induction =>
      obtain ⟨isName, laterAreNames⟩ := List.forall_mem_cons.mp areNames
      cases path with
      | nil => exact wellFormed.set isName entryWellFormed
      | cons next path => exact wellFormed.set isName (induction (wellFormed.inside name) laterAreNames)

theorem WellFormed.putFolder {folder : Folder} {path : List String} (wellFormed : folder.WellFormed)
    (areNames : ∀ name ∈ path, isEntryName name = true) : (folder.putFolder path).WellFormed := by
  induction path generalizing folder with
  | nil => exact wellFormed
  | cons name path induction =>
      obtain ⟨isName, laterAreNames⟩ := List.forall_mem_cons.mp areNames
      exact wellFormed.set isName (induction (wellFormed.inside name) laterAreNames)

/-- Whatever a path leads to inside well-formed folders is well formed. -/
theorem WellFormed.of_follow {links : Nat} {outer : List Folder} {here : Folder}
    {path : List String} {entry : Entry} (outerWellFormed : ∀ around ∈ outer, around.WellFormed)
    (wellFormed : here.WellFormed) (followed : follow links outer here path = some entry) :
    entry.WellFormed := by
  fun_induction follow links outer here path with
  | case1 =>
      obtain rfl := Option.some.inj followed
      exact wellFormed
  | case2 links outer here part path stays induction =>
      exact induction outerWellFormed wellFormed followed
  | case3 => exact absurd followed (by simp)
  | case4 links here path parent others named induction =>
      obtain ⟨parentWellFormed, othersWellFormed⟩ := List.forall_mem_cons.mp outerWellFormed
      exact induction othersWellFormed parentWellFormed followed
  | case5 => exact absurd followed (by simp)
  | case6 =>
      obtain rfl := Option.some.inj followed
      trivial
  | case7 => exact absurd followed (by simp)
  | case8 links outer here part path named notParent inside found induction =>
      exact induction (List.forall_mem_cons.mpr ⟨wellFormed, outerWellFormed⟩)
        (wellFormed.of_find? found) followed
  | case9 => exact absurd followed (by simp)
  | case10 => exact absurd followed (by simp)
  | case11 outer here part path named notParent target found fewer relative induction =>
      exact induction outerWellFormed wellFormed followed

theorem WellFormed.of_folderAt? {tree inside : Folder} {path : String}
    (wellFormed : tree.WellFormed) (found : tree.folderAt? path = some inside) :
    inside.WellFormed := by
  unfold folderAt? resolve? at found
  split at found
  · exact absurd found (by simp)
  · split at found
    · rename_i folder resolved
      obtain rfl := Option.some.inj found
      split at resolved
      · exact absurd resolved (by simp)
      · exact wellFormed.of_follow (by simp) resolved
    · exact absurd found (by simp)

end Folder

/-! ## The order of paths -/

/-- Whether a character comes before another one on a walk: the separator comes first. -/
def walksBefore (c d : Char) : Prop :=
  d ≠ '/' ∧ (c = '/' ∨ c < d)

/-- Whether a path is met before another one on a walk. -/
def walkedBefore (path other : String) : Prop :=
  List.Lex walksBefore path.toList other.toList

theorem ne_of_walkedBefore {path other : String} (before : walkedBefore path other) :
    path ≠ other := by
  have irreflexive : ∀ characters : List Char, ¬List.Lex walksBefore characters characters := by
    intro characters
    induction characters with
    | nil => exact fun before => nomatch before
    | cons c characters induction =>
        intro before
        cases before with
        | cons before => exact induction before
        | rel before => exact before.2.elim before.1 (lt_irrefl c)
  rintro rfl
  exact irreflexive path.toList before

/-- Entries come in the order of their names, whatever lies below the first. -/
theorem lex_walksBefore_of_lt {name other tail : List Char} (less : name < other)
    (isName : '/' ∉ other) (below : tail = [] ∨ ∃ inside, tail = '/' :: inside)
    (otherTail : List Char) : List.Lex walksBefore (name ++ tail) (other ++ otherTail) := by
  induction less with
  | @nil d rest =>
      have notSlash : d ≠ '/' := fun same => isName (same ▸ List.mem_cons_self ..)
      rcases below with rfl | ⟨inside, rfl⟩
      · exact .nil
      · exact .rel ⟨notSlash, .inl rfl⟩
  | cons _ induction =>
      exact .cons (induction fun member => isName (List.mem_cons_of_mem _ member))
  | @rel c name d other less =>
      have notSlash : d ≠ '/' := fun same => isName (same ▸ List.mem_cons_self ..)
      exact .rel ⟨notSlash, .inr less⟩

/-- Whether the first of two paths has no separator where the second has a
character that sorts before it, behind what they have in common. -/
def separatorFirst : List Char → List Char → Bool
  | c :: path, d :: other =>
      if c = d then separatorFirst path other else c != '/' || decide ('/' ≤ d)
  | _, _ => true

theorem separatorFirst_iff {path other : List Char} :
    separatorFirst path other = true ↔
      ∀ folder inside rest c, path = folder ++ '/' :: inside → other = folder ++ c :: rest →
        '/' ≤ c := by
  induction path generalizing other with
  | nil => simp [separatorFirst]
  | cons first path induction =>
      cases other with
      | nil => simp [separatorFirst]
      | cons second other =>
          by_cases same : first = second
          · subst same
            rw [separatorFirst, if_pos rfl, induction]
            constructor
            · intro ordered folder inside rest c isPath isOther
              cases folder with
              | nil =>
                  obtain ⟨rfl, -⟩ := List.cons.inj isPath
                  obtain ⟨rfl, -⟩ := List.cons.inj isOther
                  exact le_refl _
              | cons _ folder =>
                  exact ordered folder inside rest c (List.cons.inj isPath).2
                    (List.cons.inj isOther).2
            · intro ordered folder inside rest c isPath isOther
              exact ordered (first :: folder) inside rest c (by rw [isPath, List.cons_append])
                (by rw [isOther, List.cons_append])
          · rw [separatorFirst, if_neg same, Bool.or_eq_true, bne_iff_ne, decide_eq_true_iff]
            constructor
            · intro ordered folder inside rest c isPath isOther
              cases folder with
              | nil =>
                  obtain ⟨rfl, -⟩ := List.cons.inj isPath
                  obtain ⟨rfl, -⟩ := List.cons.inj isOther
                  exact ordered.resolve_left (fun different => different rfl)
              | cons _ folder =>
                  exact absurd ((List.cons.inj isPath).1.trans (List.cons.inj isOther).1.symm) same
            · intro ordered
              by_cases slash : first = '/'
              · subst slash
                exact .inr (ordered [] path other second rfl rfl)
              · exact .inl slash

theorem lex_lt_of_walksBefore {path other : List Char} (before : List.Lex walksBefore path other)
    (ordered : separatorFirst path other = true) : path < other := by
  induction before with
  | nil => exact .nil
  | @cons c path other before induction =>
      rw [separatorFirst, if_pos rfl] at ordered
      exact .cons (induction ordered)
  | @rel c path d other before =>
      obtain ⟨notSlash, slash | less⟩ := before
      · subst slash
        rw [separatorFirst, if_neg (Ne.symm notSlash)] at ordered
        have atMost : '/' ≤ d := by simpa using ordered
        exact .rel (lt_of_le_of_ne atMost (Ne.symm notSlash))
      · exact .rel less

theorem separatorFirst_of_lex_lt {path other : List Char}
    (before : List.Lex walksBefore path other) (less : path < other) :
    separatorFirst path other = true ∧ separatorFirst other path = true := by
  induction before with
  | nil => exact ⟨rfl, rfl⟩
  | @cons c path other before induction =>
      have later : path < other := by simpa using less
      simp only [separatorFirst, if_true]
      exact induction later
  | @rel c path d other before =>
      obtain ⟨notSlash, order⟩ := before
      have different : c ≠ d := by
        rintro rfl
        exact order.elim notSlash (lt_irrefl c)
      have smaller : c < d := by
        rcases List.cons_lt_cons_iff.mp less with smaller | ⟨same, -⟩
        · exact smaller
        · exact absurd same different
      rw [separatorFirst, separatorFirst, if_neg different, if_neg (Ne.symm different)]
      by_cases slash : c = '/'
      · subst slash
        exact ⟨by simp [smaller.le], by simp⟩
      · exact ⟨by simp [slash], by simp [notSlash]⟩

@[simp] theorem separatorFirst_self (path : List Char) : separatorFirst path path = true := by
  induction path with
  | nil => rfl
  | cons c path induction => rw [separatorFirst, if_pos rfl, induction]

/-! ## The files of a walk -/

theorem shownPath_eq_self {path : String} (proper : '\\' ∉ path.toList) :
    shownPath path = path := by
  have unchanged : (path.toList.map fun c => if c = '\\' then '/' else c) = path.toList := by
    have step : ∀ c ∈ path.toList, (if c = '\\' then '/' else c) = id c := by
      intro c member
      have different : c ≠ '\\' := by
        rintro rfl
        exact proper member
      exact if_neg different
    rw [List.map_congr_left step, List.map_id]
  rw [shownPath, unchanged, String.ofList_toList]

namespace Folder

variable {options : Options} {path : String}

theorem mem_sourceFiles_file {name : String} {content : Content} {others : Folder}
    {file : SourceFile} :
    file ∈ (Folder.file name content others).sourceFiles options path ↔
      isSourceName name = true ∧ file = .ofContent (shownPath (path ++ name)) content ∨
        file ∈ others.sourceFiles options path := by
  rw [sourceFiles]
  split <;> simp [*]

theorem mem_sourceFiles_folder {name : String} {inside others : Folder} {file : SourceFile} :
    file ∈ (folder name inside others).sourceFiles options path ↔
      options.excludes name = false ∧ file ∈ inside.sourceFiles options (path ++ name ++ "/") ∨
        file ∈ others.sourceFiles options path := by
  rw [sourceFiles]
  split <;> simp [*]

theorem shownPath_append {name : String} (proper : '\\' ∉ path.toList)
    (isName : isEntryName name = true) : (shownPath (path ++ name)) = path ++ name := by
  apply shownPath_eq_self
  simp [proper, (isEntryName_iff.mp isName).2]

theorem proper_append {name : String} (proper : '\\' ∉ path.toList)
    (isName : isEntryName name = true) : '\\' ∉ (path ++ name ++ "/").toList := by
  simp [proper, (isEntryName_iff.mp isName).2]

theorem exists_name_of_mem_sourceFiles {folder : Folder} {file : SourceFile}
    (wellFormed : folder.WellFormed) (proper : '\\' ∉ path.toList)
    (member : file ∈ folder.sourceFiles options path) :
    ∃ name ∈ folder.names, ∃ tail, (tail = [] ∨ ∃ inside, tail = '/' :: inside) ∧
      file.path.toList = path.toList ++ (name.toList ++ tail) := by
  induction folder generalizing path with
  | empty | unlisted reason => simp [sourceFiles] at member
  | file name content others induction =>
      obtain ⟨isName, -, othersWellFormed⟩ := wellFormed
      rcases mem_sourceFiles_file.mp member with ⟨-, rfl⟩ | later
      · refine ⟨name, List.mem_cons_self .., [], .inl rfl, ?_⟩
        rw [SourceFile.ofContent, shownPath_append proper isName, String.toList_append,
          List.append_nil]
      · obtain ⟨other, otherMember, rest⟩ := induction othersWellFormed proper later
        exact ⟨other, List.mem_cons_of_mem name otherMember, rest⟩
  | folder name inside others insideInduction induction =>
      obtain ⟨isName, -, insideWellFormed, othersWellFormed⟩ := wellFormed
      rcases mem_sourceFiles_folder.mp member with ⟨-, below⟩ | later
      · obtain ⟨inner, -, tail, -, whole⟩ :=
          insideInduction insideWellFormed (proper_append proper isName) below
        refine ⟨name, List.mem_cons_self .., '/' :: (inner.toList ++ tail), .inr ⟨_, rfl⟩, ?_⟩
        rw [whole]
        simp
      · obtain ⟨other, otherMember, rest⟩ := induction othersWellFormed proper later
        exact ⟨other, List.mem_cons_of_mem name otherMember, rest⟩
  | link name target others induction =>
      obtain ⟨-, -, othersWellFormed⟩ := wellFormed
      obtain ⟨other, otherMember, rest⟩ := induction othersWellFormed proper member
      exact ⟨other, List.mem_cons_of_mem name otherMember, rest⟩

theorem isEntryName_of_mem_names {folder : Folder} {name : String}
    (wellFormed : folder.WellFormed) (member : name ∈ folder.names) :
    isEntryName name = true := by
  induction folder using addFront_induction with
  | empty | unlisted reason => simp [names] at member
  | front first present others induction =>
      obtain ⟨isName, -, -, othersWellFormed⟩ := wellFormed_addFront.mp wellFormed
      rw [names_addFront] at member
      rcases List.mem_cons.mp member with rfl | later
      · exact isName
      · exact induction othersWellFormed later

/-- What lies at the first entry of a folder is met before what lies at the others. -/
private theorem walkedBefore_of_mem_others {others : Folder} {name : String} {file : SourceFile}
    {shown : String} {tail : List Char} (increasing : ∀ other ∈ others.names, name < other)
    (wellFormed : others.WellFormed) (proper : '\\' ∉ path.toList)
    (member : file ∈ others.sourceFiles options path)
    (below : tail = [] ∨ ∃ inside, tail = '/' :: inside)
    (whole : shown.toList = path.toList ++ (name.toList ++ tail)) :
    walkedBefore shown file.path := by
  obtain ⟨other, otherMember, otherTail, -, otherWhole⟩ :=
    exists_name_of_mem_sourceFiles wellFormed proper member
  have less : name.toList < other.toList :=
    String.lt_iff_toList_lt.mp (increasing other otherMember)
  have isName := (isEntryName_iff.mp (isEntryName_of_mem_names wellFormed otherMember)).1
  rw [walkedBefore, whole, otherWhole]
  exact List.Lex.append_left _ (lex_walksBefore_of_lt less isName below otherTail) _

/-- A walk meets the files of a well-formed folder in the order of their paths. -/
theorem pairwise_sourceFiles {folder : Folder} (wellFormed : folder.WellFormed)
    (proper : '\\' ∉ path.toList) :
    (folder.sourceFiles options path).Pairwise fun file other =>
      walkedBefore file.path other.path := by
  induction folder generalizing path with
  | empty | unlisted reason => exact .nil
  | file name content others induction =>
      obtain ⟨isName, increasing, othersWellFormed⟩ := wellFormed
      rw [sourceFiles]
      split
      · refine .cons (fun other member => ?_) (induction othersWellFormed proper)
        refine walkedBefore_of_mem_others increasing othersWellFormed proper member (.inl rfl) ?_
        rw [SourceFile.ofContent, shownPath_append proper isName, String.toList_append,
          List.append_nil]
      · exact induction othersWellFormed proper
  | folder name inside others insideInduction induction =>
      obtain ⟨isName, increasing, insideWellFormed, othersWellFormed⟩ := wellFormed
      rw [sourceFiles]
      split
      · exact induction othersWellFormed proper
      · have properInside := proper_append proper isName
        refine List.pairwise_append.mpr
          ⟨insideInduction insideWellFormed properInside, induction othersWellFormed proper, ?_⟩
        intro file fileMember other otherMember
        obtain ⟨inner, -, tail, -, whole⟩ :=
          exists_name_of_mem_sourceFiles insideWellFormed properInside fileMember
        refine walkedBefore_of_mem_others increasing othersWellFormed proper otherMember
          (.inr ⟨inner.toList ++ tail, rfl⟩) ?_
        rw [whole]
        simp
  | link name target others induction => exact induction wellFormed.2.2 proper

end Folder

end TableAtlas
