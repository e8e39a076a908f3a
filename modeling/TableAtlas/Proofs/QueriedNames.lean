import TableAtlas.Proofs.SpacedDeclarations
import TableAtlas.Schema.Assembly
import TableAtlas.Schema.Description

/-!
# Queried names

An object is asked for by an id or by a name, with any blanks around.  A number asks for an id
first, so a name that is one leads to the object with that id.  Any other name leads to an object
of its entity, unless it has blanks at its ends: these are not part of a query.
-/

namespace TableAtlas

open TableAtlas.Text TableAtlas.Source

/-! ## Blanks around a query -/

/-- A text with no blanks at its ends. -/
structure IsTrimmed (text : List Char) : Prop where
  front : ∀ c ∈ text.head?, isBlank c = false
  back : ∀ c ∈ text.getLast?, isBlank c = false

theorem isTrimmed_of_not_blank {text : List Char} (notBlank : ∀ c ∈ text, isBlank c = false) :
    IsTrimmed text where
  front := fun c first => notBlank c (List.mem_of_mem_head? first)
  back := fun c last => notBlank c (List.mem_of_mem_getLast? last)

theorem dropBlanks_of_head? {text : List Char} (front : ∀ c ∈ text.head?, isBlank c = false) :
    dropBlanks text = text := by
  cases text with
  | nil => rfl
  | cons first rest => exact dropBlanks_of_not_blank rest (front first rfl)

theorem IsTrimmed.trim_eq {text : List Char} (trimmed : IsTrimmed text) : trim text = text := by
  have backwards : dropBlanks text.reverse = text.reverse :=
    dropBlanks_of_head? (by simpa using trimmed.back)
  rw [trim, dropBlanks_of_head? trimmed.front, dropFinalBlanks, backwards, List.reverse_reverse]

theorem Source.Blanks.trim_append (before after : Blanks) (text : List Char) :
    trim (before.text ++ text ++ after.text) = trim text := by
  have afterDropped : dropBlanks after.text = [] := by
    simpa using after.dropBlanks_append []
  have dropped : dropBlanks (text ++ after.text) = dropBlanks text ++ after.text ∨
      dropBlanks (text ++ after.text) = [] ∧ dropBlanks text = [] := by
    simp only [dropBlanks, List.dropWhile_append]
    split
    · rename_i allBlank
      exact .inr ⟨afterDropped, List.isEmpty_iff.mp allBlank⟩
    · exact .inl rfl
  rw [trim, trim, List.append_assoc, before.dropBlanks_append]
  rcases dropped with kept | ⟨nothing, textNothing⟩
  · rw [kept, after.dropFinalBlanks_append]
  · rw [nothing, textNothing]

/-! ## Numbers -/

/-- A query that is a number: ASCII digits, possibly behind a plus sign, with a value of 64 bits. -/
def IsNumber (query : List Char) (id : Nat) : Prop :=
  ∃ digits : Digits, (query = digits.text ∨ query = '+' :: digits.text) ∧
    Nat.ofDigitChars 10 digits.text 0 = id ∧ id < idLimit

theorem parseId_eq_some_iff {text : List Char} {id : Nat} :
    parseId text = some id ↔
      ∃ digits : Digits, text = digits.text ∧ Nat.ofDigitChars 10 digits.text 0 = id ∧
        id < idLimit := by
  have value : text.foldl (fun total c => total * 10 + (c.toNat - '0'.toNat)) 0 =
      Nat.ofDigitChars 10 text 0 := by
    simp only [Nat.ofDigitChars_eq_foldl, Nat.mul_comm]
  rw [parseId, value]
  constructor
  · intro parsed
    split at parsed
    · contradiction
    · rename_i areDigits
      simp only [Bool.not_eq_true', not_or, Bool.not_eq_true, Bool.not_eq_false] at areDigits
      dsimp only at parsed
      split at parsed
      · rename_i bound
        obtain rfl := Option.some.inj parsed
        exact ⟨⟨text, List.isEmpty_eq_false_iff.mp areDigits.1, List.all_eq_true.mp areDigits.2⟩,
          rfl, rfl, bound⟩
      · contradiction
  · rintro ⟨digits, rfl, rfl, bound⟩
    rw [if_neg, if_pos bound]
    simpa [digits.nonempty] using digits.areDigits

theorem queryId?_eq_some_iff {query : List Char} {id : Nat} :
    queryId? query = some id ↔ IsNumber query id := by
  unfold queryId? IsNumber
  split
  · rename_i rest
    rw [parseId_eq_some_iff]
    constructor
    · rintro ⟨digits, rfl, number⟩
      exact ⟨digits, .inr rfl, number⟩
    · rintro ⟨digits, spelled | spelled, number⟩
      · have plus := digits.areDigits '+' (spelled ▸ List.mem_cons_self ..)
        exact absurd plus (by decide)
      · exact ⟨digits, (List.cons.inj spelled).2, number⟩
  · rename_i noPlus
    rw [parseId_eq_some_iff]
    constructor
    · rintro ⟨digits, spelled, number⟩
      exact ⟨digits, .inl spelled, number⟩
    · rintro ⟨digits, spelled | spelled, number⟩
      · exact ⟨digits, spelled, number⟩
      · exact absurd spelled (noPlus digits.text)

theorem IsNumber.isTrimmed {query : List Char} {id : Nat} (isNumber : IsNumber query id) :
    IsTrimmed query := by
  obtain ⟨digits, spelled, -⟩ := isNumber
  refine isTrimmed_of_not_blank fun c member => ?_
  have character : c = '+' ∨ c.isDigit = true := by
    rcases spelled with rfl | rfl
    · exact .inr (digits.areDigits c member)
    · exact (List.mem_cons.mp member).imp_right (digits.areDigits c)
  rcases character with rfl | isDigit
  · decide
  · exact isBlank_of_isDigit isDigit

theorem queryId?_eq_none_iff {query : List Char} :
    queryId? query = none ↔ ∀ id, ¬IsNumber query id := by
  simp only [Option.eq_none_iff_forall_ne_some, ← queryId?_eq_some_iff, ne_eq]

/-! ## The object of a query -/

namespace Schema

variable {schema : Schema} {object : TableObject} {name : String}

theorem entityName_of_objectNamed? (found : schema.objectNamed? name = some object) :
    object ∈ schema.objects ∧ lowercase object.entityName = lowercase name := by
  rw [objectNamed?] at found
  rcases Option.or_eq_some_iff.mp found with isTable | ⟨-, isExtension⟩
  · have member := List.mem_of_find?_eq_some isTable
    have matched := List.find?_some isTable
    simp only [Bool.and_eq_true, beq_iff_eq] at matched
    exact ⟨member, by rw [TableObject.entityName_of_isTable matched.1, matched.2]⟩
  · have member := List.mem_of_find?_eq_some isExtension
    have matched := List.find?_some isExtension
    simp only [Bool.and_eq_true, beq_iff_eq] at matched
    exact ⟨member, matched.2⟩

/-- Every entity is found by its name. -/
theorem exists_objectNamed? (member : object ∈ schema.objects)
    (same : lowercase object.entityName = lowercase name) :
    ∃ found, schema.objectNamed? name = some found := by
  rw [← Option.isSome_iff_exists, objectNamed?, Option.isSome_or, Bool.or_eq_true,
    List.find?_isSome, List.find?_isSome]
  by_cases isTable : object.isTable = true
  · rw [TableObject.entityName_of_isTable isTable] at same
    exact .inl ⟨object, member, by simp [isTable, same]⟩
  · have isExtension := TableObject.isExtension_of_not_isTable isTable
    exact .inr ⟨object, member, by simp [isExtension, same]⟩

theorem find?_surrounded (before after : Blanks) (query : String) :
    schema.find? (String.ofList (before.text ++ query.toList ++ after.text)) =
      schema.find? query := by
  rw [find?, find?, String.toList_ofList, before.trim_append]

theorem exists_find?_of_isNumber {query : String} {id : Nat} (isNumber : IsNumber query.toList id)
    (isId : ∃ object ∈ schema.objects, object.id = id) :
    ∃ before found after, schema.objects = before ++ found :: after ∧ found.id = id ∧
      (∀ other ∈ before, other.id ≠ id) ∧ schema.find? query = some found := by
  have byId : schema.find? query = schema.objectWithId? id := by
    rw [find?, isNumber.isTrimmed.trim_eq, queryId?_eq_some_iff.mpr isNumber]
  obtain ⟨object, member, same⟩ := isId
  have some : (schema.objectWithId? id).isSome := by
    rw [objectWithId?, List.find?_isSome]
    exact ⟨object, member, by simpa using same⟩
  obtain ⟨found, isFound⟩ := Option.isSome_iff_exists.mp some
  obtain ⟨matched, before, after, position, others⟩ := List.find?_eq_some_iff_append.mp isFound
  exact ⟨before, found, after, position, by simpa using matched, by simpa using others,
    byId.trans isFound⟩

/-- A name that is no number, with no blanks at its ends, leads to an object of its entity. -/
theorem exists_find?_entityName (member : object ∈ schema.objects)
    (trimmed : IsTrimmed object.entityName.toList)
    (notNumber : ∀ id, ¬IsNumber object.entityName.toList id) :
    ∃ found ∈ schema.objects, schema.find? object.entityName = some found ∧
      lowercase found.entityName = lowercase object.entityName := by
  have byName : schema.find? object.entityName = schema.objectNamed? object.entityName := by
    rw [find?, trimmed.trim_eq, queryId?_eq_none_iff.mpr notNumber, String.ofList_toList]
  obtain ⟨found, isFound⟩ := exists_objectNamed? member rfl
  obtain ⟨foundMember, same⟩ := entityName_of_objectNamed? isFound
  exact ⟨found, foundMember, byName.trans isFound, same⟩

/-- Blanks around a query do not matter, numbers lead to ids, and every object whose entity has
a name that is no number and has no blanks at its ends is found by this name, if not another
object of the same entity. -/
theorem find?_names (schema : Schema) :
    (∀ (before after : Blanks) (query : String),
      schema.find? (String.ofList (before.text ++ query.toList ++ after.text)) =
        schema.find? query) ∧
    (∀ (query : String) (id : Nat), IsNumber query.toList id →
      (∃ object ∈ schema.objects, object.id = id) →
      ∃ before found after, schema.objects = before ++ found :: after ∧ found.id = id ∧
        (∀ other ∈ before, other.id ≠ id) ∧ schema.find? query = some found) ∧
    ∀ object ∈ schema.objects, IsTrimmed object.entityName.toList →
      (∀ id, ¬IsNumber object.entityName.toList id) →
      ∃ found ∈ schema.objects, schema.find? object.entityName = some found ∧
        lowercase found.entityName = lowercase object.entityName :=
  ⟨find?_surrounded, fun _ _ => exists_find?_of_isNumber, fun _ => exists_find?_entityName⟩

/-- Two declarations that contribute to one entity, and a table with a number as its name. -/
def queriedSources : Sources :=
  (TextFiles.ofList [("a.al", "tableextension 7 Ext extends ITEM \x7b \x7d"),
    ("b.al", "table 1 Item \x7b \x7d table 2 \"07\" \x7b \x7d")]).sources

theorem find?_names_queried :
    let schema := Schema.ofSources .none queriedSources
    ∃ extension ∈ schema.objects, extension.entityName = "ITEM" ∧
      (∃ found ∈ schema.objects, schema.find? "ITEM" = some found ∧
        lowercase found.entityName = "item") ∧
      (∃ found, schema.find? "07" = some found ∧ found.id = 7) ∧
      schema.find? " ITEM " = schema.find? "ITEM" := by
  intro schema
  obtain ⟨surrounded, byId, byName⟩ := find?_names schema
  have member : ⟨7, "Ext", "", .tableExtension, "ITEM", [], [], "a.al"⟩ ∈ schema.objects := by
    decide +kernel
  refine ⟨_, member, rfl, ?_, ?_, surrounded .space .space "ITEM"⟩
  · have letters : ("ITEM".toList.all fun c => !isBlank c) = true := by decide +kernel
    have trimmed : IsTrimmed "ITEM".toList :=
      isTrimmed_of_not_blank fun c among => by simpa using List.all_eq_true.mp letters c among
    obtain ⟨found, foundMember, isFound, same⟩ :=
      byName _ member trimmed (queryId?_eq_none_iff.mp (by decide +kernel))
    exact ⟨found, foundMember, isFound, same.trans (by decide +kernel)⟩
  · obtain ⟨_, found, _, _, sameId, -, isFound⟩ := byId "07" 7
      (queryId?_eq_some_iff.mp (by decide +kernel)) ⟨_, member, rfl⟩
    exact ⟨found, isFound, sameId⟩

/-- A table whose name is the id of another one, and a table with blanks around its name. -/
def unqueriedSources : Sources :=
  (TextFiles.ofList [("a.al", "table 1 \"2\" \x7b \x7d table 2 \" A \" \x7b \x7d")]).sources

/-- The first table cannot be found by its name, and neither can the second. -/
theorem find?_entityName_ne :
    let schema := Schema.ofSources .none unqueriedSources
    ∃ numbered spaced, schema.objects = [numbered, spaced] ∧
      numbered.entityName = "2" ∧ spaced.entityName = " A " ∧
      schema.find? numbered.entityName = some spaced ∧
      schema.find? spaced.entityName = none := by
  refine ⟨⟨1, "2", "", .table, "", [], [], "a.al"⟩, ⟨2, " A ", "", .table, "", [], [], "a.al"⟩, ?_⟩
  decide +kernel

end Schema

end TableAtlas
