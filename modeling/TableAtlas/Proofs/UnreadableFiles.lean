import TableAtlas.Proofs.DeclaredGraph

/-!
# Unreadable files

A file that cannot be read costs only itself: the schema is that of the other files,
and one warning about the file stands among the warnings.  A last warning is added
exactly if every object that the readable files declare is left out as a cue table.
-/

namespace TableAtlas

open TableAtlas.Source

namespace SourceFile

variable {common : NamePrefix} {file : SourceFile}

/-- Why a file could not be read, if so. -/
def failure? (file : SourceFile) : Option LoadError :=
  match file.text with
  | .ok _ => none
  | .error failure => some failure

theorem objects_of_not_isOk (unreadable : file.text.isOk = false) : file.objects common = [] := by
  unfold objects
  cases read : file.text with
  | ok text => simp [read, Except.isOk, Except.toBool] at unreadable
  | error failure => rfl

theorem warning?_eq_map_failure? (file : SourceFile) :
    file.warning? = file.failure?.map (·.message) := by
  unfold warning? failure?
  cases file.text with
  | ok text => rfl
  | error failure => rfl

end SourceFile

namespace Sources

/-- The reasons why files could not be read, in the order of the files. -/
def failures (sources : Sources) : List LoadError :=
  sources.files.filterMap (·.failure?)

/-- The sources without the files that could not be read. -/
def withoutFailures (sources : Sources) : Sources :=
  { sources with files := sources.files.filter fun file => file.text.isOk }

end Sources

theorem shownObjects_eq_nil_iff {objects : List TableObject} :
    shownObjects objects = [] ↔ ∀ object ∈ objects, object.isCue = true := by
  have someShown : (∃ shown ∈ shownObjects objects, True) ↔
      ∃ object ∈ objects, object.isCue = false ∧ True :=
    exists_shownObjects_iff fun _ => Iff.rfl
  constructor
  · intro noneShown object member
    cases isCue : object.isCue with
    | true => rfl
    | false =>
        obtain ⟨shown, shownMember, -⟩ := someShown.mpr ⟨object, member, isCue, trivial⟩
        rw [noneShown] at shownMember
        exact absurd shownMember List.not_mem_nil
  · intro allCues
    apply List.eq_nil_iff_forall_not_mem.mpr
    intro shown shownMember
    obtain ⟨object, member, notCue, -⟩ := someShown.mp ⟨shown, shownMember, trivial⟩
    rw [allCues object member] at notCue
    exact absurd notCue (by decide)

namespace Schema

variable (common : NamePrefix)

/-- Files that cannot be read declare nothing, wherever they stand among the others. -/
theorem flatMap_objects_filter_isOk (files : List SourceFile) :
    (files.filter fun file => file.text.isOk).flatMap (·.objects common) =
      files.flatMap (·.objects common) := by
  induction files with
  | nil => rfl
  | cons file files induction =>
      rw [List.filter_cons, List.flatMap_cons]
      split
      · rw [List.flatMap_cons, induction]
      · rename_i unreadable
        have nothing : file.objects common = [] :=
          SourceFile.objects_of_not_isOk (by simpa using unreadable)
        rw [nothing, List.nil_append, induction]

theorem declaredObjects_withoutFailures (sources : Sources) :
    declaredObjects common sources.withoutFailures = declaredObjects common sources :=
  flatMap_objects_filter_isOk common sources.files

theorem warnings_ofSources (sources : Sources) :
    (ofSources common sources).warnings =
      sources.warnings ++ sources.failures.map (·.message) ++
        if (ofSources common sources).objects = [] then [noObjectsWarning] else [] := by
  have messages : sources.files.filterMap (·.warning?) = sources.failures.map (·.message) := by
    rw [Sources.failures, List.map_filterMap]
    apply congrArg fun warning? => List.filterMap warning? sources.files
    funext file
    exact file.warning?_eq_map_failure?
  simp only [ofSources, assemble, messages, List.isEmpty_iff]
  split <;> simp

/-- The schema of a project is that of its readable files, and its warnings are those
from loading it, one for each unreadable file in order, and one if no object is left. -/
theorem ofSources_withoutFailures (sources : Sources) :
    let schema := ofSources common sources
    let readable := ofSources common sources.withoutFailures
    schema.project = readable.project ∧ schema.objects = readable.objects ∧
      schema.relations = readable.relations ∧
      schema.warnings = sources.warnings ++ sources.failures.map (·.message) ++
        (if schema.objects = [] then [noObjectsWarning] else []) ∧
      (schema.objects = [] ↔ ∀ object ∈ declaredObjects common sources, object.isCue = true) := by
  intro schema readable
  have objects : schema.objects = readable.objects :=
    (congrArg shownObjects (declaredObjects_withoutFailures common sources)).symm
  exact ⟨rfl, objects, congrArg relationsOf objects, warnings_ofSources common sources,
    shownObjects_eq_nil_iff⟩

end Schema

end TableAtlas
