import TableAtlas.Proofs.SpacedDeclarations

/-!
# Spelled properties

The name of a property may be spelled in any letter case, with any blanks around the
equals sign behind it.  A search for the property passes over all text that does not
contain its name and ends in no word, so the property is found where it is written.
A value in single quotes is read back whatever it contains, with each of its quotes
written twice.
-/

namespace TableAtlas.Source

open TableAtlas.Text

/-! ## Texts without a word -/

/-- Whether a word stands somewhere in a text, in any letter case and be it inside
another word. -/
def mentions (word : List Char) : List Char → Bool
  | [] => (readKeyword word []).isSome
  | c :: rest => (readKeyword word (c :: rest)).isSome || mentions word rest

section Absent

variable {word : List Char} {mark : Char}

private theorem sameLetter_eq_false_of_not_word {letter c : Char}
    (isLetter : letter.isAlpha = true) (notWord : isWordChar c = false) :
    sameLetter letter c = false := by
  rw [← Bool.not_eq_true]
  intro same
  have isWord := isWordChar_of_sameLetter isLetter same
  rw [notWord] at isWord
  exact absurd isWord (by decide)

private theorem readKeyword_append_eq_none (areLetters : ∀ letter ∈ word, letter.isAlpha = true)
    {c : Char} {front : List Char} (unread : readKeyword word (c :: front) = none)
    (apart : endsInWord (isWordChar c) front = false) (rest : List Char) :
    readKeyword word (c :: front ++ rest) = none := by
  obtain ⟨init, last, split⟩ : ∃ init last, c :: front = init ++ [last] :=
    ⟨_, _, (List.dropLast_concat_getLast (List.cons_ne_nil c front)).symm⟩
  have notWord : isWordChar last = false := by
    rw [← endsInWord_cons false, split] at apart
    simpa [endsInWord] using apart
  have different : (word.all fun letter => !sameLetter letter last) = true := by
    rw [List.all_eq_true]
    intro letter member
    rw [sameLetter_eq_false_of_not_word (areLetters letter member) notWord]
    rfl
  rw [split, readKeyword_separated different] at unread
  rw [split, List.append_assoc, List.singleton_append, readKeyword_separated different,
    Option.map_eq_none_iff.mp unread]
  rfl

/-- A search for a word passes over a text that does not contain it and ends in no word. -/
theorem PassedOver.of_not_mentioned (areLetters : ∀ letter ∈ word, letter.isAlpha = true)
    {before : List Char} (absent : mentions word before = false)
    (apart : endsInWord false before = false) : PassedOver word mark before := by
  intro α goOn rest
  have passed : ∀ afterWord, endsInWord afterWord before = false →
      firstMatch (fun place => (readMarked word mark place).bind goOn) afterWord (before ++ rest) =
        (firstMatch (fun place => (readMarked word mark place).bind goOn) false rest).map
          (prepending before) := by
    clear apart
    induction before with
    | nil =>
        rintro afterWord rfl
        simp
    | cons c before induction =>
        intro afterWord apart
        rw [endsInWord_cons] at apart
        simp only [mentions, Bool.or_eq_false_iff, Option.isSome_eq_false_iff,
          Option.isNone_iff_eq_none] at absent
        have unread := readKeyword_append_eq_none areLetters absent.1 apart rest
        have unrecognised : recognisedAt (fun place => (readMarked word mark place).bind goOn)
            afterWord (c :: (before ++ rest)) = none := by
          rw [List.cons_append] at unread
          simp [recognisedAt, readMarked, unread]
        rw [List.cons_append, firstMatch_of_recognisedAt_eq_none unrecognised,
          induction absent.2 (isWordChar c) apart, map_prepending_prepending]
        rfl
  exact passed false apart

theorem firstMatch_eq_none_of_not_mentioned {α : Type} (goOn : List Char → Option α)
    {afterWord : Bool} {text : List Char} (absent : mentions word text = false) :
    firstMatch (fun place => (readMarked word mark place).bind goOn) afterWord text = none := by
  have unrecognised : ∀ {afterWord : Bool} {place : List Char},
      (readKeyword word place).isSome = false →
        recognisedAt (fun place => (readMarked word mark place).bind goOn) afterWord place =
          none := by
    intro afterWord place unread
    rw [Option.isSome_eq_false_iff, Option.isNone_iff_eq_none] at unread
    simp [recognisedAt, readMarked, unread]
  induction text generalizing afterWord with
  | nil => rw [firstMatch, unrecognised absent, Option.map_none]
  | cons c rest induction =>
      rw [mentions, Bool.or_eq_false_iff] at absent
      rw [firstMatch_of_recognisedAt_eq_none (unrecognised absent.1), induction absent.2,
        Option.map_none]

theorem mentions_append_of_not_word (nonempty : word ≠ [])
    (areLetters : ∀ letter ∈ word, letter.isAlpha = true) {front : List Char}
    (apart : ∀ c ∈ front, isWordChar c = false) (rest : List Char) :
    mentions word (front ++ rest) = mentions word rest := by
  induction front with
  | nil => rfl
  | cons c front induction =>
      obtain ⟨notWord, laterApart⟩ := List.forall_mem_cons.mp apart
      have unread : readKeyword word (c :: (front ++ rest)) = none := by
        cases word with
        | nil => exact absurd rfl nonempty
        | cons letter letters =>
            have different := sameLetter_eq_false_of_not_word (areLetters letter (by simp)) notWord
            simp [readKeyword, different]
      rw [List.cons_append, mentions, unread, induction laterApart]
      rfl

end Absent

theorem firstMatch_run {α : Type} (recognise : List Char → Option α) {front : List Char}
    (areWordChars : ∀ c ∈ front, isWordChar c = true) (rest : List Char) :
    firstMatch recognise true (front ++ rest) =
      (firstMatch recognise true rest).map (prepending front) := by
  induction front with
  | nil => simp
  | cons c front induction =>
      obtain ⟨isWord, laterAreWordChars⟩ := List.forall_mem_cons.mp areWordChars
      have unrecognised : recognisedAt recognise true (c :: (front ++ rest)) = none := by
        simp [recognisedAt, atBoundary, startsWord, isWord]
      rw [List.cons_append, firstMatch_of_recognisedAt_eq_none unrecognised, isWord,
        induction laterAreWordChars, map_prepending_prepending]
      rfl

/-! ## Assignments -/

/-- The name of a property: letters of ASCII. -/
structure PropertyName where
  text : List Char
  nonempty : text ≠ []
  areLetters : ∀ letter ∈ text, letter.isAlpha = true

namespace PropertyName

variable (name : PropertyName) {before spelled : List Char}

/-- The assignment of a value with any blanks around the equals sign. -/
def spelledAssignment (spelled : List Char) (beforeEquals afterEquals : Blanks)
    (value : List Char) : List Char :=
  spelled ++ (beforeEquals.text ++ '=' :: (afterEquals.text ++ value))

theorem exists_spelled_eq_cons (sameName : spelled.map Char.toLower = name.text.map Char.toLower) :
    ∃ first others, spelled = first :: others ∧ isWordChar first = true ∧
      ∀ c ∈ others, isWordChar c = true := by
  have areWordChars : ∀ c ∈ spelled, isWordChar c = true := by
    intro c member
    apply isWordChar_of_isAlpha
    apply isAlpha_of_isAlpha_toLower
    have lowered : c.toLower ∈ name.text.map Char.toLower := sameName ▸ List.mem_map_of_mem member
    obtain ⟨letter, isLetter, same⟩ := List.mem_map.mp lowered
    rw [← same]
    exact isAlpha_toLower (name.areLetters letter isLetter)
  cases spelled with
  | nil =>
      have empty : name.text = [] := by simpa using sameName.symm
      exact absurd empty name.nonempty
  | cons first others => exact ⟨first, others, rfl, List.forall_mem_cons.mp areWordChars⟩

theorem readMarked_spelledAssignment
    (sameName : spelled.map Char.toLower = name.text.map Char.toLower)
    (beforeEquals afterEquals : Blanks) (value : List Char) :
    readMarked name.text '=' (spelledAssignment spelled beforeEquals afterEquals value) =
      some (afterEquals.text ++ value) := by
  have named := readKeyword_spelled name.areLetters sameName
    (beforeEquals.text ++ '=' :: (afterEquals.text ++ value))
  have equals : readChar '=' (dropBlanks (beforeEquals.text ++
      '=' :: (afterEquals.text ++ value))) = some (afterEquals.text ++ value) :=
    beforeEquals.readChar_append _ rfl
  simp [readMarked, spelledAssignment, named, equals]

theorem firstMatch_spelledAssignment {α : Type} (goOn : List Char → Option α)
    (absent : mentions name.text before = false) (apart : endsInWord false before = false)
    (sameName : spelled.map Char.toLower = name.text.map Char.toLower)
    (beforeEquals afterEquals : Blanks) {value : List Char} {found : α}
    (read : goOn (afterEquals.text ++ value) = some found) :
    firstMatch (fun place => (readMarked name.text '=' place).bind goOn) false
      (before ++ spelledAssignment spelled beforeEquals afterEquals value) =
        some (before, found) := by
  have recognised : (readMarked name.text '='
      (spelledAssignment spelled beforeEquals afterEquals value)).bind goOn = some found := by
    rw [name.readMarked_spelledAssignment sameName, Option.bind_some, read]
  have passed : PassedOver name.text '=' before :=
    .of_not_mentioned name.areLetters absent apart
  obtain ⟨first, others, rfl, isWord, -⟩ := name.exists_spelled_eq_cons sameName
  rw [spelledAssignment, List.cons_append] at recognised ⊢
  rw [passed, firstMatch_of_recognised isWord recognised]
  simp

theorem firstMatch_spelledAssignment_eq_none {α : Type} (goOn : List Char → Option α)
    (absent : mentions name.text before = false) (apart : endsInWord false before = false)
    (sameName : spelled.map Char.toLower = name.text.map Char.toLower)
    (beforeEquals afterEquals : Blanks) {value : List Char}
    (unread : goOn (afterEquals.text ++ value) = none)
    (absentBehind : mentions name.text value = false) :
    firstMatch (fun place => (readMarked name.text '=' place).bind goOn) false
      (before ++ spelledAssignment spelled beforeEquals afterEquals value) = none := by
  have unrecognised : (readMarked name.text '='
      (spelledAssignment spelled beforeEquals afterEquals value)).bind goOn = none := by
    rw [name.readMarked_spelledAssignment sameName, Option.bind_some, unread]
  have passed : PassedOver name.text '=' before :=
    .of_not_mentioned name.areLetters absent apart
  have absentLater : mentions name.text
      (beforeEquals.text ++ '=' :: (afterEquals.text ++ value)) = false := by
    have equals : ∀ c ∈ ['='], isWordChar c = false := List.forall_mem_singleton.mpr rfl
    have behindEquals := mentions_append_of_not_word name.nonempty name.areLetters equals
      (afterEquals.text ++ value)
    rw [List.singleton_append] at behindEquals
    rw [mentions_append_of_not_word name.nonempty name.areLetters
      beforeEquals.isWordChar_eq_false_of_mem, behindEquals, mentions_append_of_not_word
      name.nonempty name.areLetters afterEquals.isWordChar_eq_false_of_mem, absentBehind]
  have notThere : recognisedAt (fun place => (readMarked name.text '=' place).bind goOn) false
      (spelledAssignment spelled beforeEquals afterEquals value) = none := by
    simp [recognisedAt, unrecognised]
  obtain ⟨first, others, rfl, isWord, othersAreWordChars⟩ := name.exists_spelled_eq_cons sameName
  rw [spelledAssignment, List.cons_append] at notThere ⊢
  rw [passed, firstMatch_of_recognisedAt_eq_none notThere, isWord,
    firstMatch_run _ othersAreWordChars, firstMatch_eq_none_of_not_mentioned goOn absentLater]
  rfl

end PropertyName

/-- A quoted value is read back, whatever it contains, where its property is the first
of its name.  The name may be spelled in any letter case, with any blanks around the
equals sign, and anything but a further quote may follow the value. -/
theorem propertyValue_spelledAssignment (name : PropertyName) {before spelled after : List Char}
    (absent : mentions name.text before = false) (apart : endsInWord false before = false)
    (sameName : spelled.map Char.toLower = name.text.map Char.toLower)
    (beforeEquals afterEquals : Blanks) (value : List Char)
    (ended : after.head? ≠ some '\'') :
    let block := before ++ PropertyName.spelledAssignment spelled beforeEquals afterEquals
      (quotedValue value ++ after)
    propertyValue name.text block = value ∧ quotedProperty? name.text block = some value := by
  intro block
  have opened : readChar '\'' (dropBlanks (afterEquals.text ++ (quotedValue value ++ after))) =
      some (doubled value ++ '\'' :: after) := by
    have opening : readChar '\'' (dropBlanks (afterEquals.text ++ '\'' :: (doubled value ++
        '\'' :: after))) = some (doubled value ++ '\'' :: after) :=
      afterEquals.readChar_append _ rfl
    simpa [quotedValue] using opening
  have read : (readChar '\'' (dropBlanks (afterEquals.text ++ (quotedValue value ++ after)))).bind
      readQuotedValue = some value := by
    rw [opened, Option.bind_some, readQuotedValue_doubled value ended]
  have quoted : quotedProperty? name.text block = some value := by
    have matched := name.firstMatch_spelledAssignment
      (fun assigned => (readChar '\'' (dropBlanks assigned)).bind readQuotedValue)
      absent apart sameName beforeEquals afterEquals read
    simp only [quotedProperty?, readAssignment_eq, Option.bind_eq_bind]
    rw [matched]
    rfl
  refine ⟨?_, quoted⟩
  rw [propertyValue, quoted]
  rfl

/-- The value ends in quotes and contains an assignment of the same property. -/
theorem propertyValue_spelledCaption :
    let name : PropertyName :=
      ⟨"Caption".toList, by decide +kernel, List.all_eq_true.mp (by decide +kernel)⟩
    let before := "OptionMembers = 'cap,tion';\n".toList
    let value := "'; caption = \x7b''".toList
    let after := "; \x7d".toList
    let block := before ++ PropertyName.spelledAssignment "cAPTION".toList .space .none
      (quotedValue value ++ after)
    mentions name.text before = false ∧ endsInWord false before = false ∧
      "cAPTION".toList.map Char.toLower = name.text.map Char.toLower ∧
      after.head? ≠ some '\'' ∧
      propertyValue name.text block = value ∧ quotedProperty? name.text block = some value := by
  intro name before value after block
  have absent : mentions name.text before = false := by decide +kernel
  have apart : endsInWord false before = false := by decide +kernel
  have sameName : "cAPTION".toList.map Char.toLower = name.text.map Char.toLower := by
    decide +kernel
  have ended : after.head? ≠ some '\'' := by decide +kernel
  exact ⟨absent, apart, sameName, ended,
    propertyValue_spelledAssignment name absent apart sameName .space .none value ended⟩

end TableAtlas.Source
