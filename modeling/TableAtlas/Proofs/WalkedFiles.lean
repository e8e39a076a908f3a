import TableAtlas.Proofs.LoadedTexts
import TableAtlas.Proofs.TokenReading

/-!
# The files of a walk

A loaded project has the source files below its root, each once: those at the end of a path of
folders none of which is left out.  Links are neither files nor followed.  The files come in the
order of the names on their paths, one name after the other, and of the bytes of each name.  A
folder on such a path that cannot be listed gives a warning.
-/

namespace TableAtlas

open TableAtlas.Source

/-! ## The bytes of names -/

/-- The bytes of a name, as it is stored. -/
def nameBytes (name : String) : List UInt8 :=
  name.toByteArray.data.toList

theorem nameBytes_eq (name : String) :
    nameBytes name = name.toList.flatMap String.utf8EncodeChar := by
  rw [nameBytes, ← String.utf8Encode_toList, List.utf8Encode, List.data_toByteArray]

private theorem ofNat_cons_lt_iff {n m : Nat} {rest other : List UInt8} (fits : n < 256)
    (otherFits : m < 256) :
    UInt8.ofNat n :: rest < UInt8.ofNat m :: other ↔ n < m ∨ n = m ∧ rest < other := by
  have same : UInt8.ofNat n = UInt8.ofNat m ↔ n = m := by
    rw [← UInt8.toNat_inj, UInt8.toNat_ofNat_of_lt' fits, UInt8.toNat_ofNat_of_lt' otherFits]
  rw [List.cons_lt_cons_iff, UInt8.ofNat_lt_iff_lt fits otherFits, same]

private theorem digits_lt {n m : Nat} {later : Prop} (less : n < m) (fits : m < 1114112) :
    n / 262144 % 8 < m / 262144 % 8 ∨ n / 262144 % 8 = m / 262144 % 8 ∧
      (n / 4096 % 64 < m / 4096 % 64 ∨ n / 4096 % 64 = m / 4096 % 64 ∧
        (n / 64 % 64 < m / 64 % 64 ∨ n / 64 % 64 = m / 64 % 64 ∧
          (n % 64 < m % 64 ∨ n % 64 = m % 64 ∧ later))) := by
  rcases Nat.lt_or_ge (n / 262144) (m / 262144) with first | first
  · omega
  · rcases Nat.lt_or_ge (n / 4096) (m / 4096) with second | second
    · omega
    · omega

/-- The bytes of a lesser character come before those of a greater one, whatever follows. -/
theorem utf8EncodeChar_append_lt {c d : Char} (less : c < d) (rest other : List UInt8) :
    String.utf8EncodeChar c ++ rest < String.utf8EncodeChar d ++ other := by
  have lessCode : c.val.toNat < d.val.toNat := less
  have fits : d.val.toNat < 1114112 := d.valid.elim (fun low => low.trans (by decide)) (·.2)
  simp only [String.utf8EncodeChar]
  split_ifs <;>
    simp (disch := omega) only [List.cons_append, List.nil_append, ofNat_cons_lt_iff,
      Nat.add_lt_add_iff_right, Nat.add_right_cancel_iff] <;>
    first
      | exact digits_lt lessCode fits
      | omega

theorem flatMap_utf8EncodeChar_lt {characters other : List Char} (less : characters < other) :
    characters.flatMap String.utf8EncodeChar < other.flatMap String.utf8EncodeChar := by
  induction less with
  | @nil d other =>
      rw [List.flatMap_nil, List.flatMap_cons]
      obtain ⟨byte, bytes, encoded⟩ :=
        List.exists_cons_of_ne_nil (String.utf8EncodeChar_ne_nil (c := d))
      rw [encoded]
      exact .nil
  | @cons c characters other less induction =>
      rw [List.flatMap_cons, List.flatMap_cons]
      exact List.Lex.append_left _ induction _
  | @rel c characters d other less =>
      rw [List.flatMap_cons, List.flatMap_cons]
      exact utf8EncodeChar_append_lt less _ _

/-- Names stand in the order of their bytes. -/
theorem nameBytes_lt_iff {name other : String} :
    nameBytes name < nameBytes other ↔ name < other := by
  have forward {name other : String} (less : name < other) : nameBytes name < nameBytes other := by
    rw [nameBytes_eq, nameBytes_eq]
    exact flatMap_utf8EncodeChar_lt (String.lt_iff_toList_lt.mp less)
  constructor
  · intro less
    by_contra notLess
    rcases (not_lt.mp notLess).lt_or_eq with greater | rfl
    · exact List.lt_asymm less (forward greater)
    · exact List.lt_irrefl _ less
  · exact forward

/-! ## Places of files -/

/-- Where an entry leads to by names, without following links. -/
def Entry.below? : Entry → List String → Option Entry
  | entry, [] => some entry
  | .folder inside, name :: names => (inside.find? name).bind (·.below? names)
  | _, _ :: _ => none

/-- A source file at its place: the folders that lead to it, from the root on, and its name. -/
structure SourcePlace where
  folders : List String
  name : String
  content : Content

namespace SourcePlace

/-- The names on the path of a file. -/
def names (place : SourcePlace) : List String :=
  place.folders ++ [place.name]

def path (place : SourcePlace) : String :=
  "/".intercalate place.names

def file (place : SourcePlace) : SourceFile :=
  .ofContent place.path place.content

/-- A place seen from the folder around. -/
def under (outer : String) (place : SourcePlace) : SourcePlace :=
  { place with folders := outer :: place.folders }

/-- Whether a place comes before another one: their names are compared one after the other, by
their bytes. -/
def before (place other : SourcePlace) : Prop :=
  List.Lex (fun name other => nameBytes name < nameBytes other) place.names other.names

/-- The place of a source file below a folder, with no folder on the way left out. -/
structure IsSource (folder : Folder) (options : Options) (place : SourcePlace) : Prop where
  isFile : (Entry.folder folder).below? place.names = some (.stored place.content)
  isSourceName : ∃ stem ending, stem ≠ [] ∧ place.name.toList = stem ++ '.' :: ending ∧
    ending.map Char.toLower = ['a', 'l']
  isIncluded : ∀ name ∈ place.folders, ∀ excluded ∈ options.excluded,
    sameAscii excluded name = false

theorem names_under (outer : String) (place : SourcePlace) :
    (place.under outer).names = outer :: place.names :=
  rfl

theorem path_under (outer : String) (place : SourcePlace) :
    (place.under outer).path = outer ++ "/" ++ place.path := by
  rw [path, names_under, String.intercalate_cons_of_ne_nil (by simp [names]), path]

theorem exists_names_eq_cons (place : SourcePlace) :
    ∃ first rest, place.names = first :: rest := by
  obtain ⟨folders, name, content⟩ := place
  cases folders with
  | nil => exact ⟨name, [], rfl⟩
  | cons first folders => exact ⟨first, folders ++ [name], rfl⟩

end SourcePlace

/-- The extension of a name stands behind its last dot, and something stands in front of that. -/
theorem extension?_eq_some_iff {name extension : String} :
    extension? name = some extension ↔ '.' ∉ extension.toList ∧
      ∃ stem, stem ≠ [] ∧ name.toList = stem ++ '.' :: extension.toList := by
  rw [extension?]
  constructor
  · intro found
    split at found
    · exact absurd found (by simp)
    · rename_i long
      obtain rfl := Option.some.inj found
      have whole := List.takeWhile_append_dropWhile (p := (· != '.')) (l := name.toList.reverse)
      have noDot : '.' ∉ name.toList.reverse.takeWhile (· != '.') := fun member => by
        simpa using List.all_eq_true.mp List.all_takeWhile _ member
      have ended := List.head?_dropWhile_not (· != '.') name.toList.reverse
      generalize name.toList.reverse.takeWhile (· != '.') = ending at *
      generalize name.toList.reverse.dropWhile (· != '.') = front at *
      have size : name.toList.length = ending.length + front.length := by
        rw [← List.length_append, whole, List.length_reverse]
      cases front with
      | nil => simp_all
      | cons dot stem =>
          obtain rfl : dot = '.' := by simpa using ended
          refine ⟨by simpa using noDot, stem.reverse, ?_, ?_⟩
          · rintro empty
            simp_all
          · rw [← List.reverse_reverse name.toList, ← whole]
            simp
  · rintro ⟨noDot, stem, notEmpty, spelled⟩
    have ending : name.toList.reverse.takeWhile (· != '.') = extension.toList.reverse := by
      rw [spelled, List.reverse_append, List.reverse_cons, List.append_assoc]
      refine takeWhile_append_of_ended (fun c member => ?_) (by simp)
      rw [List.mem_reverse] at member
      have different : c ≠ '.' := by
        rintro rfl
        exact noDot member
      simpa using different
    have long : 0 < stem.length := List.length_pos_iff.mpr notEmpty
    rw [ending, if_neg, List.reverse_reverse, String.ofList_toList]
    rw [spelled]
    simp
    omega

theorem isSourceName_iff {name : String} :
    isSourceName name = true ↔ ∃ stem ending, stem ≠ [] ∧ name.toList = stem ++ '.' :: ending ∧
      ending.map Char.toLower = ['a', 'l'] := by
  have lowercase : "al".toList.map Char.toLower = ['a', 'l'] := by decide
  constructor
  · intro isName
    unfold isSourceName at isName
    split at isName
    · rename_i extension found
      obtain ⟨-, stem, notEmpty, spelled⟩ := extension?_eq_some_iff.mp found
      rw [sameAscii, lowercase, beq_iff_eq] at isName
      exact ⟨stem, extension.toList, notEmpty, spelled, isName⟩
    · contradiction
  · rintro ⟨stem, ending, notEmpty, spelled, isEnding⟩
    have noDot : '.' ∉ ending := fun member => by
      have lowered := List.mem_map_of_mem (f := Char.toLower) member
      rw [isEnding] at lowered
      exact absurd lowered (by decide)
    have found : extension? name = some (.ofList ending) :=
      extension?_eq_some_iff.mpr
        ⟨by simpa using noDot, stem, notEmpty, by simpa using spelled⟩
    rw [isSourceName, found]
    simp only [sameAscii, String.toList_ofList, lowercase, isEnding, beq_self_eq_true]

theorem Options.excludes_eq_false_iff {options : Options} {name : String} :
    options.excludes name = false ↔
      ∀ excluded ∈ options.excluded, sameAscii excluded name = false := by
  simp [Options.excludes]

/-! ## The places that a walk meets -/

/-- The places of the source files below a folder. -/
def Folder.sourcePlaces (options : Options) : Folder → List SourcePlace
  | empty => []
  | unlisted _ => []
  | file name content others =>
      if isSourceName name then ⟨[], name, content⟩ :: others.sourcePlaces options
      else others.sourcePlaces options
  | folder name inside others =>
      if options.excludes name then others.sourcePlaces options
      else (inside.sourcePlaces options).map (.under name) ++ others.sourcePlaces options
  | link _ _ others => others.sourcePlaces options

/-- The places that an entry of a folder adds to those of its source files. -/
def Entry.sourcePlaces (options : Options) (name : String) : Entry → List SourcePlace
  | .stored content => if isSourceName name then [⟨[], name, content⟩] else []
  | .folder inside =>
      if options.excludes name then [] else (inside.sourcePlaces options).map (.under name)
  | .link _ => []

namespace Folder

variable {options : Options} {folder others : Folder} {place : SourcePlace}

/-- A walk finds the files at their places. -/
theorem sourceFiles_eq_map {path : String} (wellFormed : folder.WellFormed)
    (proper : '\\' ∉ path.toList) :
    folder.sourceFiles options path =
      (folder.sourcePlaces options).map fun place =>
        .ofContent (path ++ place.path) place.content := by
  induction folder generalizing path with
  | empty | unlisted reason => rfl
  | file name content others induction =>
      obtain ⟨isName, -, othersWellFormed⟩ := wellFormed
      have here : (SourcePlace.mk [] name content).path = name := String.intercalate_singleton
      rw [sourceFiles, sourcePlaces, induction othersWellFormed proper,
        shownPath_append proper isName]
      split
      · rw [List.map_cons, here]
      · rfl
  | folder name inside others insideInduction induction =>
      obtain ⟨isName, -, insideWellFormed, othersWellFormed⟩ := wellFormed
      rw [sourceFiles, sourcePlaces, induction othersWellFormed proper,
        insideInduction insideWellFormed (proper_append proper isName)]
      split
      · rfl
      · rw [List.map_append, List.map_map]
        simp only [Function.comp_def, SourcePlace.path_under, String.append_assoc]
        rfl
  | link name target others induction => exact induction wellFormed.2.2 proper

theorem mem_names_of_find? {name : String} {entry : Entry}
    (found : folder.find? name = some entry) : name ∈ folder.names := by
  induction folder using addFront_induction with
  | empty | unlisted reason => simp [find?] at found
  | front first present others induction =>
      rw [find?_addFront] at found
      rw [names_addFront]
      split at found
      · rename_i same
        exact same ▸ List.mem_cons_self ..
      · exact List.mem_cons_of_mem first (induction found)

/-- Entries of a folder have different names, so that none hides another one. -/
theorem find?_addFront_eq_some_iff {first name : String} {present entry : Entry}
    (increasing : ∀ other ∈ others.names, first < other) :
    (addFront first present others).find? name = some entry ↔
      first = name ∧ present = entry ∨ others.find? name = some entry := by
  rw [find?_addFront]
  split
  · rename_i same
    have absent : others.find? name ≠ some entry := fun found =>
      absurd (increasing name (mem_names_of_find? found)) (same ▸ lt_irrefl first)
    simp [same, absent]
  · rename_i different
    simp [different]

theorem exists_find?_addFront_iff {first : String} {present : Entry}
    {holds : String → Entry → Prop} (increasing : ∀ other ∈ others.names, first < other) :
    (∃ name entry, (addFront first present others).find? name = some entry ∧ holds name entry) ↔
      holds first present ∨
        ∃ name entry, others.find? name = some entry ∧ holds name entry := by
  simp only [find?_addFront_eq_some_iff increasing]
  constructor
  · rintro ⟨name, entry, ⟨rfl, rfl⟩ | found, property⟩
    · exact .inl property
    · exact .inr ⟨name, entry, found, property⟩
  · rintro (property | ⟨name, entry, found, property⟩)
    · exact ⟨first, present, .inl ⟨rfl, rfl⟩, property⟩
    · exact ⟨name, entry, .inr found, property⟩

theorem sourcePlaces_addFront (name : String) (entry : Entry) (others : Folder) :
    (addFront name entry others).sourcePlaces options =
      entry.sourcePlaces options name ++ others.sourcePlaces options := by
  cases entry with
  | stored content =>
      rw [addFront, sourcePlaces, Entry.sourcePlaces]
      split <;> rfl
  | folder inside =>
      rw [addFront, sourcePlaces, Entry.sourcePlaces]
      split <;> rfl
  | link target => rfl

theorem mem_sourcePlaces (wellFormed : folder.WellFormed) :
    place ∈ folder.sourcePlaces options ↔
      ∃ name entry, folder.find? name = some entry ∧ place ∈ entry.sourcePlaces options name := by
  induction folder using addFront_induction with
  | empty | unlisted reason => simp [sourcePlaces, find?]
  | front first present others induction =>
      obtain ⟨-, increasing, -, othersWellFormed⟩ := wellFormed_addFront.mp wellFormed
      rw [sourcePlaces_addFront, List.mem_append, induction othersWellFormed,
        exists_find?_addFront_iff increasing]

end Folder

namespace SourcePlace

variable {folder : Folder} {options : Options} {name outer : String} {content : Content}
  {entry : Entry} {place : SourcePlace}

theorem here_mem_sourcePlaces :
    ⟨[], name, content⟩ ∈ entry.sourcePlaces options outer ↔
      outer = name ∧ entry = .stored content ∧ isSourceName name = true := by
  cases entry with
  | stored present =>
      rw [Entry.sourcePlaces]
      split
      · rename_i isName
        simp only [List.mem_singleton, mk.injEq, Entry.stored.injEq, true_and]
        constructor
        · rintro ⟨rfl, rfl⟩
          exact ⟨rfl, rfl, isName⟩
        · rintro ⟨rfl, rfl, -⟩
          exact ⟨rfl, rfl⟩
      · rename_i notName
        refine iff_of_false (by simp) ?_
        rintro ⟨rfl, -, isName⟩
        exact notName isName
  | folder inside =>
      rw [Entry.sourcePlaces]
      split <;> simp [under]
  | link target => simp [Entry.sourcePlaces]

theorem under_mem_sourcePlaces :
    place.under name ∈ entry.sourcePlaces options outer ↔
      outer = name ∧ options.excludes name = false ∧
        ∃ inside, entry = .folder inside ∧ place ∈ inside.sourcePlaces options := by
  cases entry with
  | stored present =>
      rw [Entry.sourcePlaces]
      split <;> simp [under]
  | folder inside =>
      rw [Entry.sourcePlaces]
      split
      · rename_i excluded
        refine iff_of_false (by simp) ?_
        rintro ⟨rfl, included, -⟩
        exact absurd (excluded.symm.trans included) (by decide)
      · rename_i included
        rw [List.mem_map]
        constructor
        · rintro ⟨inner, member, same⟩
          obtain ⟨rfl, rfl⟩ : outer = name ∧ inner = place := by
            cases inner; cases place; simpa [under, and_assoc] using same
          exact ⟨rfl, by simpa using included, inside, rfl, member⟩
        · rintro ⟨rfl, -, _, same, member⟩
          obtain rfl := Entry.folder.inj same
          exact ⟨place, member, rfl⟩
  | link target => simp [Entry.sourcePlaces]

theorem isSource_here_iff :
    IsSource folder options ⟨[], name, content⟩ ↔
      isSourceName name = true ∧ folder.find? name = some (.stored content) := by
  have below : (Entry.folder folder).below? [name] = folder.find? name := by
    rw [Entry.below?]
    cases folder.find? name <;> rfl
  constructor
  · intro isSource
    exact ⟨isSourceName_iff.mpr isSource.isSourceName, below.symm.trans isSource.isFile⟩
  · rintro ⟨isName, found⟩
    exact ⟨below.trans found, isSourceName_iff.mp isName, fun _ member => nomatch member⟩

theorem isSource_under_iff :
    IsSource folder options (place.under outer) ↔
      options.excludes outer = false ∧ ∃ inside, folder.find? outer = some (.folder inside) ∧
        IsSource inside options place := by
  constructor
  · intro isSource
    obtain ⟨included, laterIncluded⟩ := List.forall_mem_cons.mp isSource.isIncluded
    have isFile := isSource.isFile
    rw [names_under, Entry.below?] at isFile
    obtain ⟨entry, found, isFile⟩ := Option.bind_eq_some_iff.mp isFile
    obtain ⟨first, rest, names⟩ := exists_names_eq_cons place
    cases entry with
    | folder inside =>
        exact ⟨Options.excludes_eq_false_iff.mpr included, inside, found, isFile,
          isSource.isSourceName, laterIncluded⟩
    | stored content => simp [names, Entry.below?] at isFile
    | link target => simp [names, Entry.below?] at isFile
  · rintro ⟨included, inside, found, isSource⟩
    refine ⟨?_, isSource.isSourceName,
      List.forall_mem_cons.mpr ⟨Options.excludes_eq_false_iff.mp included, isSource.isIncluded⟩⟩
    rw [names_under, Entry.below?, found]
    exact isSource.isFile

/-- A walk meets the source files below a folder and nothing else. -/
theorem mem_sourcePlaces_iff (wellFormed : folder.WellFormed) :
    place ∈ folder.sourcePlaces options ↔ place.IsSource folder options := by
  obtain ⟨folders, name, content⟩ := place
  induction folders generalizing folder with
  | nil =>
      rw [isSource_here_iff, Folder.mem_sourcePlaces wellFormed]
      simp only [here_mem_sourcePlaces]
      constructor
      · rintro ⟨_, _, found, rfl, rfl, isName⟩
        exact ⟨isName, found⟩
      · rintro ⟨isName, found⟩
        exact ⟨name, _, found, rfl, rfl, isName⟩
  | cons outer folders induction =>
      have whole : mk (outer :: folders) name content = under outer ⟨folders, name, content⟩ := rfl
      rw [whole, isSource_under_iff, Folder.mem_sourcePlaces wellFormed]
      simp only [under_mem_sourcePlaces]
      constructor
      · rintro ⟨_, _, found, rfl, included, inside, rfl, member⟩
        exact ⟨included, inside, found, (induction (wellFormed.of_find? found)).mp member⟩
      · rintro ⟨included, inside, found, isSource⟩
        exact ⟨outer, _, found, rfl, included, inside, rfl,
          (induction (wellFormed.of_find? found)).mpr isSource⟩

theorem exists_names_eq_cons_of_mem (member : place ∈ entry.sourcePlaces options outer) :
    ∃ rest, place.names = outer :: rest := by
  obtain ⟨folders, name, content⟩ := place
  cases folders with
  | nil =>
      obtain ⟨rfl, -⟩ := here_mem_sourcePlaces.mp member
      exact ⟨[], rfl⟩
  | cons first folders =>
      have inside : under first ⟨folders, name, content⟩ ∈ entry.sourcePlaces options outer :=
        member
      obtain ⟨rfl, -⟩ := under_mem_sourcePlaces.mp inside
      exact ⟨folders ++ [name], rfl⟩

theorem pairwise_sourcePlaces_addFront (entry : Entry) {others : Folder}
    (wellFormed : others.WellFormed)
    (increasing : ∀ other ∈ others.names, name < other)
    (first : (entry.sourcePlaces options name).Pairwise before)
    (later : (others.sourcePlaces options).Pairwise before) :
    ((Folder.addFront name entry others).sourcePlaces options).Pairwise before := by
  rw [Folder.sourcePlaces_addFront]
  refine List.pairwise_append.mpr ⟨first, later, fun place member other otherMember => ?_⟩
  obtain ⟨otherName, otherEntry, found, otherMember⟩ :=
    (Folder.mem_sourcePlaces wellFormed).mp otherMember
  obtain ⟨rest, names⟩ := exists_names_eq_cons_of_mem member
  obtain ⟨otherRest, otherNames⟩ := exists_names_eq_cons_of_mem otherMember
  rw [before, names, otherNames]
  exact .rel (nameBytes_lt_iff.mpr (increasing otherName (Folder.mem_names_of_find? found)))

theorem pairwise_sourcePlaces (wellFormed : folder.WellFormed) :
    (folder.sourcePlaces options).Pairwise before := by
  induction folder with
  | empty | unlisted reason => exact .nil
  | file name content others induction =>
      obtain ⟨-, increasing, othersWellFormed⟩ := wellFormed
      refine pairwise_sourcePlaces_addFront (.stored content) othersWellFormed increasing ?_
        (induction othersWellFormed)
      rw [Entry.sourcePlaces]
      split
      · exact List.pairwise_singleton ..
      · exact .nil
  | folder name inside others insideInduction induction =>
      obtain ⟨-, increasing, insideWellFormed, othersWellFormed⟩ := wellFormed
      refine pairwise_sourcePlaces_addFront (.folder inside) othersWellFormed increasing ?_
        (induction othersWellFormed)
      rw [Entry.sourcePlaces]
      split
      · exact .nil
      · exact List.pairwise_map.mpr ((insideInduction insideWellFormed).imp .cons)
  | link name target others induction => exact induction wellFormed.2.2

end SourcePlace

/-! ## The folders that a walk cannot list -/

/-- Why the entries of a folder cannot be listed, if so. -/
def Folder.listingFailure? : Folder → Option String
  | empty => none
  | unlisted reason => some reason
  | file _ _ others => others.listingFailure?
  | folder _ _ others => others.listingFailure?
  | link _ _ others => others.listingFailure?

/-- The folders that cannot be listed at an entry of a name. -/
def Entry.walkFailures (options : Options) (outer : List String) (name : String) :
    Entry → List WalkFailure
  | .stored _ => []
  | .folder inside =>
      if options.excludes name then [] else inside.walkFailures options (outer ++ [name])
  | .link _ => []

/-- A folder below a folder that cannot be listed, with none on the way left out: the names
that lead to it, and the reason. -/
structure Unlisted (folder : Folder) (options : Options) (names : List String)
    (reason : String) : Prop where
  isUnlisted : ∃ inside, (Entry.folder folder).below? names = some (.folder inside) ∧
    inside.listingFailure? = some reason
  isIncluded : ∀ name ∈ names, ∀ excluded ∈ options.excluded, sameAscii excluded name = false

namespace Folder

variable {options : Options} {folder others : Folder} {outer : List String}
  {failure : WalkFailure}

theorem listingFailure?_addFront (name : String) (entry : Entry) (others : Folder) :
    (addFront name entry others).listingFailure? = others.listingFailure? := by
  cases entry <;> rfl

theorem walkFailures_addFront (name : String) (entry : Entry) (others : Folder) :
    (addFront name entry others).walkFailures options outer =
      entry.walkFailures options outer name ++ others.walkFailures options outer := by
  cases entry with
  | stored content => rfl
  | folder inside =>
      rw [addFront, walkFailures, Entry.walkFailures]
      split <;> rfl
  | link target => rfl

/-- Each failure is that of the folder itself or comes from the entry at its first name. -/
theorem mem_walkFailures (wellFormed : folder.WellFormed) :
    failure ∈ folder.walkFailures options outer ↔
      (∃ reason, folder.listingFailure? = some reason ∧
        failure = ⟨shownPath ("/".intercalate outer), reason⟩) ∨
      ∃ name entry, folder.find? name = some entry ∧
        failure ∈ entry.walkFailures options outer name := by
  induction folder using addFront_induction with
  | empty => simp [walkFailures, listingFailure?, find?]
  | unlisted reason => simp [walkFailures, listingFailure?, find?]
  | front first present others induction =>
      obtain ⟨-, increasing, -, othersWellFormed⟩ := wellFormed_addFront.mp wellFormed
      rw [walkFailures_addFront, List.mem_append, induction othersWellFormed,
        listingFailure?_addFront, exists_find?_addFront_iff increasing]
      exact or_left_comm

/-- What holds of a folder if it holds of the folders in it, holds of all folders. -/
theorem inside_induction {motive : Folder → Prop}
    (step : ∀ folder, (∀ name inside, folder.find? name = some (.folder inside) → motive inside) →
      motive folder) (folder : Folder) : motive folder := by
  apply step
  induction folder with
  | empty | unlisted reason => simp [find?]
  | file other _ others induction | link other _ others induction =>
      intro name inside found
      rw [find?] at found
      split at found
      · exact absurd found (by simp)
      · exact induction name inside found
  | folder other present others presentInduction induction =>
      intro name inside found
      rw [find?] at found
      split at found
      · obtain rfl := Entry.folder.inj (Option.some.inj found)
        exact step present presentInduction
      · exact induction name inside found

end Folder

/-- The way to a folder goes through folders. -/
theorem Entry.below?_cons_eq_folder_iff {folder last : Folder} {name : String}
    {names : List String} :
    (Entry.folder folder).below? (name :: names) = some (.folder last) ↔
      ∃ inside, folder.find? name = some (.folder inside) ∧
        (Entry.folder inside).below? names = some (.folder last) := by
  rw [below?, Option.bind_eq_some_iff]
  constructor
  · rintro ⟨entry, found, leads⟩
    cases entry with
    | folder inside => exact ⟨inside, found, leads⟩
    | stored _ | link _ => cases names <;> simp [below?] at leads
  · rintro ⟨inside, found, leads⟩
    exact ⟨.folder inside, found, leads⟩

namespace Unlisted

variable {options : Options} {folder : Folder} {name reason : String} {names : List String}

theorem nil_iff : Unlisted folder options [] reason ↔ folder.listingFailure? = some reason := by
  constructor
  · rintro ⟨⟨inside, same, failed⟩, -⟩
    obtain rfl := Entry.folder.inj (Option.some.inj same)
    exact failed
  · intro failed
    exact ⟨⟨folder, rfl, failed⟩, fun _ member => nomatch member⟩

theorem cons_iff : Unlisted folder options (name :: names) reason ↔
    options.excludes name = false ∧ ∃ inside, folder.find? name = some (.folder inside) ∧
      Unlisted inside options names reason := by
  constructor
  · rintro ⟨⟨last, leads, failed⟩, isIncluded⟩
    obtain ⟨included, laterIncluded⟩ := List.forall_mem_cons.mp isIncluded
    obtain ⟨inside, found, leads⟩ := Entry.below?_cons_eq_folder_iff.mp leads
    exact ⟨Options.excludes_eq_false_iff.mpr included, inside, found, ⟨last, leads, failed⟩,
      laterIncluded⟩
  · rintro ⟨included, inside, found, ⟨last, leads, failed⟩, laterIncluded⟩
    exact ⟨⟨last, Entry.below?_cons_eq_folder_iff.mpr ⟨inside, found, leads⟩, failed⟩,
      List.forall_mem_cons.mpr ⟨Options.excludes_eq_false_iff.mp included, laterIncluded⟩⟩

end Unlisted

/-- A walk fails at the folders that cannot be listed and are not left out, and nowhere else. -/
theorem Folder.mem_walkFailures_iff {options : Options} {folder : Folder} {outer : List String}
    {failure : WalkFailure} (wellFormed : folder.WellFormed) :
    failure ∈ folder.walkFailures options outer ↔
      ∃ names reason, Unlisted folder options names reason ∧
        failure = ⟨shownPath ("/".intercalate (outer ++ names)), reason⟩ := by
  induction folder using Folder.inside_induction generalizing outer with
  | step folder induction =>
      have below {name : String} {inside : Folder}
          (found : folder.find? name = some (.folder inside)) :
          failure ∈ (Entry.folder inside).walkFailures options outer name ↔
            options.excludes name = false ∧ ∃ names reason, Unlisted inside options names reason ∧
              failure = ⟨shownPath ("/".intercalate (outer ++ name :: names)), reason⟩ := by
        rw [Entry.walkFailures]
        split
        · rename_i excluded
          simp [excluded]
        · rename_i included
          simp [included, induction name inside found (wellFormed.of_find? found)]
      rw [mem_walkFailures wellFormed]
      constructor
      · rintro (⟨reason, failed, rfl⟩ | ⟨name, entry, found, member⟩)
        · exact ⟨[], reason, Unlisted.nil_iff.mpr failed, by rw [List.append_nil]⟩
        · cases entry with
          | stored content => exact absurd member List.not_mem_nil
          | folder inside =>
              obtain ⟨included, names, reason, isUnlisted, same⟩ := (below found).mp member
              exact ⟨name :: names, reason,
                Unlisted.cons_iff.mpr ⟨included, inside, found, isUnlisted⟩, same⟩
          | link target => exact absurd member List.not_mem_nil
      · rintro ⟨names, reason, isUnlisted, same⟩
        cases names with
        | nil =>
            rw [List.append_nil] at same
            exact .inl ⟨reason, Unlisted.nil_iff.mp isUnlisted, same⟩
        | cons name names =>
            obtain ⟨included, inside, found, isUnlisted⟩ := Unlisted.cons_iff.mp isUnlisted
            exact .inr ⟨name, .folder inside, found,
              (below found).mpr ⟨included, names, reason, isUnlisted, same⟩⟩

namespace Sources

/-- A project whose root is a folder is loaded with exactly its source files, each once at its
path from the root, in the order of the names on their paths. -/
theorem load_sourcePlaces {tree folder : Folder} {path : String} (options : Options)
    (wellFormed : tree.WellFormed) (found : tree.folderAt? path = some folder) :
    ∃ (sources : Sources) (places : List SourcePlace),
      load path (.ofPath tree path) options = .ok sources ∧
      sources.files = places.map SourcePlace.file ∧
      (∀ place, place ∈ places ↔ place.IsSource folder options) ∧
      places.Pairwise SourcePlace.before ∧
      (sources.files.map (·.path)).Nodup := by
  have inside := wellFormed.of_folderAt? found
  have isRoot : (Root.ofPath tree path).folder = some folder := found
  obtain ⟨sources, loaded, files⟩ := load_eq_ok_iff.mpr
    ⟨folder, isRoot, (rfl : folder.sourceFiles options "" = folder.sourceFiles options "")⟩
  refine ⟨sources, folder.sourcePlaces options, loaded, ?_,
    fun _ => SourcePlace.mem_sourcePlaces_iff inside, SourcePlace.pairwise_sourcePlaces inside,
    (pairwise_files_of_load wellFormed loaded).imp ne_of_walkedBefore⟩
  rw [files, Folder.sourceFiles_eq_map inside (by simp)]
  simp only [String.empty_append]
  rfl

/-- A project in which the order of the names is not that of the paths, with names in other cases,
a link, and folders that are left out or have the name of a file. -/
def walkedTree : Folder :=
  Folder.empty
    |>.put (.file "table 1 A \x7b \x7d".toUTF8) ["p", "a-b.al"]
    |>.put (.file "table 2 B \x7b \x7d".toUTF8) ["p", "a", "x.AL"]
    |>.put (.file "table 3 C \x7b \x7d".toUTF8) ["p", "a", "Node_Modules", "y.al"]
    |>.put (.file "table 4 D \x7b \x7d".toUTF8) ["p", "d.al", "é.al"]
    |>.put (.file "table 5 E \x7b \x7d".toUTF8) ["p", "d.al", ".al"]
    |>.put (.link "a/x.AL") ["p", "c.al"]

theorem wellFormed_walkedTree : walkedTree.WellFormed := by
  repeat' refine Folder.WellFormed.put ?_ (by decide) trivial
  exact trivial

theorem folderAt?_walkedTree : walkedTree.folderAt? "p" = some (walkedTree.inside "p") := by
  have parts : "p".splitOn "/" = ["p"] := splitOn_of_not_mem (by decide)
  have relative : "p".startsWith "/" = false := by decide +kernel
  simp [Folder.folderAt?, Folder.resolve?, parts, relative, Folder.follow, walkedTree,
    Folder.put, Folder.inside, Folder.set, Folder.addFront, Folder.find?]

theorem load_sourcePlaces_walkedTree :
    ∃ (sources : Sources) (places : List SourcePlace),
      load "p" (.ofPath walkedTree "p") .default = .ok sources ∧
      sources.files.map (·.path) = ["a/x.AL", "a-b.al", "d.al/é.al"] ∧
      sources.files = places.map SourcePlace.file ∧
      (∀ place, place ∈ places ↔ place.IsSource (walkedTree.inside "p") .default) ∧
      places.Pairwise SourcePlace.before := by
  obtain ⟨sources, places, loaded, files, exactly, increasing, -⟩ :=
    load_sourcePlaces .default wellFormed_walkedTree folderAt?_walkedTree
  obtain ⟨folder, found, walked⟩ := load_eq_ok_iff.mp ⟨sources, loaded, rfl⟩
  obtain rfl := Option.some.inj (folderAt?_walkedTree.symm.trans found)
  refine ⟨sources, places, loaded, ?_, files, exactly, increasing⟩
  rw [← walked]
  decide +kernel

end Sources

end TableAtlas
