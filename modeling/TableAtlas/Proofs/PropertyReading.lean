import TableAtlas.Proofs.PassedText
import TableAtlas.Source.RelationTarget

/-!
# Reading property values back

A quoted value is written with each single quote doubled, a relation expression
as one or two names in double quotes.  Reading undoes the writing, and the
written forms neither open a block nor hide a property that follows them.
-/

namespace TableAtlas.Source

open TableAtlas.Text

/-! ## Written forms -/

/-- A text with each single quote written twice. -/
def doubled : List Char → List Char
  | [] => []
  | c :: rest => if c = '\'' then '\'' :: '\'' :: doubled rest else c :: doubled rest

/-- A text as a value in single quotes. -/
def quotedValue (text : List Char) : List Char :=
  '\'' :: (doubled text ++ ['\''])

def quotedName (name : List Char) : List Char :=
  '"' :: (name ++ ['"'])

/-- The assignment of a written value to a property, with a space before it. -/
def assignment (property value : List Char) : List Char :=
  ' ' :: (property ++ ' ' :: '=' :: ' ' :: (value ++ [';']))

/-! ## Spacing -/

theorem trim_space (text : List Char) : trim (' ' :: text) = trim text := by
  simp [trim, dropBlanks_space]

theorem trim_eq_self {first last : Char} (middle : List Char)
    (firstNotBlank : isBlank first = false) (lastNotBlank : isBlank last = false) :
    trim (first :: (middle ++ [last])) = first :: (middle ++ [last]) := by
  have reversed : (first :: (middle ++ [last])).reverse = last :: (middle.reverse ++ [first]) := by
    simp
  simp only [trim, dropFinalBlanks, dropBlanks_of_not_blank _ firstNotBlank, reversed,
    dropBlanks_of_not_blank _ lastNotBlank]
  simp

theorem joinBlanks_append {afterBlank : Bool} {c : Char} (front rest : List Char)
    (notBlank : isBlank c = false) :
    joinBlanks afterBlank (front ++ c :: rest) =
      joinBlanks afterBlank front ++ c :: joinBlanks false rest := by
  induction front generalizing afterBlank with
  | nil => simp [joinBlanks, notBlank]
  | cons first front induction =>
      by_cases blank : isBlank first = true
      · cases afterBlank <;> simp [joinBlanks, blank, induction]
      · simp [joinBlanks, blank, induction]

/-! ## Quoted values -/

theorem readQuotedValue_doubled (text : List Char) {rest : List Char}
    (ended : rest.head? ≠ some '\'') :
    readQuotedValue (doubled text ++ '\'' :: rest) = some text := by
  induction text with
  | nil =>
      cases rest with
      | nil => rfl
      | cons c rest =>
          have different : c ≠ '\'' := by
            intro same
            exact ended (by simp [same])
          simp [doubled, readQuotedValue, different]
  | cons c text induction =>
      by_cases quote : c = '\''
      · subst c
        simp [doubled, readQuotedValue, induction]
      · simp [doubled, readQuotedValue, quote, induction]

theorem Balanced.quotedValue_append (text : List Char) {rest : List Char}
    (balanced : Balanced rest) : Balanced (quotedValue text ++ rest) := by
  have closed : ∀ front : List Char, '\'' ∉ front →
      Balanced ('\'' :: (front ++ (doubled text ++ '\'' :: rest))) := by
    induction text with
    | nil =>
        intro front absent
        exact .string (.inl rfl) absent balanced
    | cons c text induction =>
        intro front absent
        by_cases quote : c = '\''
        · subst c
          have later := induction [] (by simp)
          have first := Balanced.string (.inl rfl) absent later
          simpa [doubled] using first
        · have longer := induction (front ++ [c]) (by simp [absent, Ne.symm quote])
          simpa [doubled, quote] using longer
  simpa [quotedValue] using closed [] (by simp)

private theorem readKeyword_doubled {word : List Char} (separated : separates word '\'' = true)
    (text : List Char) :
    readKeyword word (doubled text) =
      (readKeyword word text).map fun (spelled, left) => (spelled, doubled left) := by
  induction word generalizing text with
  | nil => rfl
  | cons letter letters induction =>
      simp only [separates, List.all_cons, Bool.and_eq_true, Bool.not_eq_true'] at separated
      obtain ⟨⟨notWord, notBlank⟩, different, differentLater⟩ := separated
      have separatedLater : separates letters '\'' = true := by
        simp [separates, notWord, notBlank, differentLater]
      cases text with
      | nil => rfl
      | cons c text =>
          by_cases quote : c = '\''
          · subst c
            simp [doubled, readKeyword, different]
          · by_cases same : sameLetter letter c = true
            · simp only [doubled, quote, if_false, readKeyword, same, if_true,
                induction separatedLater text]
              cases readKeyword letters text <;> rfl
            · simp [doubled, quote, readKeyword, same]

private theorem dropBlanks_doubled (text : List Char) :
    dropBlanks (doubled text) = doubled (dropBlanks text) := by
  induction text with
  | nil => rfl
  | cons c text induction =>
      by_cases quote : c = '\''
      · subst c
        simp [doubled, dropBlanks_cons, show isBlank '\'' = false by decide]
      · by_cases blank : isBlank c = true <;>
          simp [doubled, quote, dropBlanks_cons, blank, induction]

private theorem readMarked_doubled {word : List Char} {mark : Char}
    (separated : separates word '\'' = true) (different : '\'' ≠ mark) {text : List Char}
    (unread : readMarked word mark text = none) :
    readMarked word mark (doubled text) = none := by
  unfold readMarked at unread ⊢
  rw [readKeyword_doubled separated]
  cases keyword : readKeyword word text with
  | none => rfl
  | some found =>
      simp only [keyword, Option.bind_eq_bind, Option.bind_some, Option.map_some] at unread ⊢
      rw [dropBlanks_doubled]
      cases blanks : dropBlanks found.2 with
      | nil => rfl
      | cons c left =>
          by_cases quote : c = '\''
          · simp [doubled, quote, readChar, different]
          · simpa [blanks, doubled, quote, readChar] using unread

/-- Doubling single quotes brings no word with its mark into a text. -/
theorem firstMatch_doubled {word : List Char} {mark : Char}
    (separated : separates word '\'' = true) (different : '\'' ≠ mark) {afterWord : Bool}
    {text : List Char} (unmatched : firstMatch (readMarked word mark) afterWord text = none) :
    firstMatch (readMarked word mark) afterWord (doubled text) = none := by
  have notWord : isWordChar '\'' = false := rfl
  induction text generalizing afterWord with
  | nil => exact unmatched
  | cons c text induction =>
      obtain ⟨unrecognised, unmatchedLater⟩ := firstMatch_cons_eq_none_iff.mp unmatched
      have sameStart : startsWord (doubled (c :: text)) = startsWord (c :: text) := by
        by_cases quote : c = '\'' <;> simp [doubled, quote, startsWord]
      have unrecognisedThere :
          recognisedAt (readMarked word mark) afterWord (doubled (c :: text)) = none := by
        simp only [recognisedAt, atBoundary, sameStart] at unrecognised ⊢
        by_cases boundary : (afterWord != startsWord (c :: text)) = true
        · simp only [boundary, if_true] at unrecognised ⊢
          exact readMarked_doubled separated different unrecognised
        · simp [boundary]
      by_cases quote : c = '\''
      · subst c
        simp only [doubled, if_true] at unrecognisedThere ⊢
        rw [notWord] at unmatchedLater
        have noWordBehindQuote : recognisedAt (readMarked word mark) (isWordChar '\'')
            ('\'' :: doubled text) = none := by
          simp [recognisedAt, atBoundary, startsWord, notWord]
        refine firstMatch_cons_eq_none_iff.mpr ⟨unrecognisedThere, ?_⟩
        refine firstMatch_cons_eq_none_iff.mpr ⟨noWordBehindQuote, ?_⟩
        rw [notWord]
        exact induction unmatchedLater
      · simp only [doubled, quote, if_false] at unrecognisedThere ⊢
        exact firstMatch_cons_eq_none_iff.mpr ⟨unrecognisedThere, induction unmatchedLater⟩

/-! ## Relation expressions -/

/-- A relation expression that names an entity and possibly a field of it. -/
def relationText (entity : List Char) : Option (List Char) → List Char
  | none => quotedName entity
  | some field => quotedName entity ++ '.' :: quotedName field

theorem quotedName_append (name rest : List Char) :
    quotedName name ++ rest = '"' :: (name ++ '"' :: rest) := by
  simp [quotedName]

theorem Balanced.quotedName_append {name rest : List Char} (absent : '"' ∉ name)
    (balanced : Balanced rest) : Balanced (quotedName name ++ rest) := by
  rw [Source.quotedName_append]
  exact .name absent balanced

private theorem readExpression_inside {name : List Char} (rest : List Char)
    (absent : '"' ∉ name) :
    readExpression (some '"') (name ++ '"' :: rest) =
      (readExpression none rest).map fun expression => name ++ '"' :: expression := by
  induction name with
  | nil =>
      simp only [List.nil_append, readExpression, if_true]
  | cons c name induction =>
      simp only [List.mem_cons, not_or] at absent
      simp only [List.cons_append, readExpression, Ne.symm absent.1, if_false,
        induction absent.2, Option.map_map]
      rfl

theorem readExpression_quotedName {name : List Char} (rest : List Char) (absent : '"' ∉ name) :
    readExpression none (quotedName name ++ rest) =
      (readExpression none rest).map (quotedName name ++ ·) := by
  have opening : readExpression none ('"' :: (name ++ '"' :: rest)) =
      (readExpression (some '"') (name ++ '"' :: rest)).map ('"' :: ·) := rfl
  rw [quotedName_append, opening, readExpression_inside rest absent, Option.map_map]
  cases readExpression none rest <;> simp [quotedName]

private theorem relationText_ends (entity : List Char) (field : Option (List Char)) :
    ∃ middle, relationText entity field = '"' :: (middle ++ ['"']) := by
  cases field with
  | none => exact ⟨entity, rfl⟩
  | some field => exact ⟨entity ++ '"' :: '.' :: '"' :: field, by simp [relationText, quotedName]⟩

theorem trim_relationText (entity : List Char) (field : Option (List Char)) :
    trim (relationText entity field) = relationText entity field := by
  obtain ⟨middle, ends⟩ := relationText_ends entity field
  rw [ends]
  exact trim_eq_self middle rfl rfl

private theorem joinBlanks_quotedName {name : List Char} (rest : List Char)
    (spaced : joinBlanks false name = name) :
    joinBlanks false (quotedName name ++ rest) = quotedName name ++ joinBlanks false rest := by
  have opening : joinBlanks false ('"' :: (name ++ '"' :: rest)) =
      '"' :: joinBlanks false (name ++ '"' :: rest) := joinBlanks_append [] _ rfl
  have closing : joinBlanks false (name ++ '"' :: rest) =
      joinBlanks false name ++ '"' :: joinBlanks false rest :=
    joinBlanks_append name rest rfl
  rw [quotedName_append, quotedName_append, opening, closing, spaced]

/-- Blanks are collapsed in no expression whose names have single spaces only. -/
theorem collapseBlanks_relationText {entity : List Char} {field : Option (List Char)}
    (entitySpaced : joinBlanks false entity = entity)
    (fieldSpaced : ∀ name ∈ field, joinBlanks false name = name) :
    collapseBlanks (' ' :: relationText entity field) = relationText entity field := by
  have space : joinBlanks false (' ' :: relationText entity field) =
      ' ' :: joinBlanks true (relationText entity field) := rfl
  have joined : joinBlanks true (relationText entity field) = relationText entity field := by
    have sameStart : joinBlanks true (relationText entity field) =
        joinBlanks false (relationText entity field) := by
      obtain ⟨middle, ends⟩ := relationText_ends entity field
      rw [ends]
      rfl
    rw [sameStart]
    cases field with
    | none => simpa [relationText, joinBlanks] using joinBlanks_quotedName [] entitySpaced
    | some name =>
        have first := joinBlanks_quotedName ('.' :: quotedName name) entitySpaced
        have dot : joinBlanks false ('.' :: quotedName name) =
            '.' :: joinBlanks false (quotedName name) := joinBlanks_append [] _ rfl
        have last : joinBlanks false (quotedName name) = quotedName name := by
          simpa [joinBlanks] using joinBlanks_quotedName [] (fieldSpaced name rfl)
        rw [relationText, first, dot, last]
  rw [collapseBlanks, space, joined, trim_space, trim_relationText]

private theorem readExpression_relationText {entity : List Char} {field : Option (List Char)}
    (entityUnquoted : '"' ∉ entity) (fieldUnquoted : ∀ name ∈ field, '"' ∉ name)
    (rest : List Char) :
    readExpression none (' ' :: (relationText entity field ++ ';' :: rest)) =
      some (' ' :: relationText entity field) := by
  have space : ∀ text, readExpression none (' ' :: text) =
      (readExpression none text).map (' ' :: ·) := fun text => rfl
  have dot : ∀ text, readExpression none ('.' :: text) =
      (readExpression none text).map ('.' :: ·) := fun text => rfl
  have ended : readExpression none (';' :: rest) = some [] := rfl
  rw [space]
  cases field with
  | none =>
      rw [relationText, readExpression_quotedName _ entityUnquoted, ended]
      simp
  | some name =>
      rw [relationText, List.append_assoc, readExpression_quotedName _ entityUnquoted,
        List.cons_append, dot, readExpression_quotedName _ (fieldUnquoted name rfl), ended]
      simp

theorem Balanced.relationText_append {entity rest : List Char} {field : Option (List Char)}
    (entityUnquoted : '"' ∉ entity) (fieldUnquoted : ∀ name ∈ field, '"' ∉ name)
    (balanced : Balanced rest) : Balanced (relationText entity field ++ rest) := by
  cases field with
  | none => exact .quotedName_append entityUnquoted balanced
  | some name =>
      have inner := Balanced.quotedName_append (fieldUnquoted name rfl) balanced
      have dotted : Balanced ('.' :: (quotedName name ++ rest)) := .plain rfl inner
      simpa [relationText] using Balanced.quotedName_append entityUnquoted dotted

/-! ## Assignments -/

theorem Balanced.assignment_append {property value rest : List Char}
    (isPlain : property.all isPlainChar = true) (balanced : Balanced (value ++ ';' :: rest)) :
    Balanced (assignment property value ++ rest) := by
  have spaced : Balanced (' ' :: '=' :: ' ' :: (value ++ ';' :: rest)) :=
    .plain rfl (.plain rfl (.plain rfl balanced))
  have whole := Balanced.plain (c := ' ') rfl (Balanced.plain_append isPlain spaced)
  simpa [assignment] using whole

section Assigned

variable {property front : List Char}

private theorem firstMatch_assignment {α : Type} (goOn : List Char → Option α)
    (passed : PassedOver property '=' front) (isWord : startsWord property = true)
    (value rest : List Char) {found : α}
    (read : goOn (' ' :: (value ++ ';' :: rest)) = some found) :
    firstMatch (fun place => (readMarked property '=' place).bind goOn) false
      (front ++ (assignment property value ++ rest)) = some (front ++ [' '], found) := by
  have written : assignment property value ++ rest =
      ' ' :: (property ++ ' ' :: '=' :: ' ' :: (value ++ ';' :: rest)) := by
    simp [assignment]
  rw [written]
  exact firstMatch_append passed isWord (by decide) read

theorem quotedProperty?_assignment (passed : PassedOver property '=' front)
    (isWord : startsWord property = true) (text rest : List Char) :
    quotedProperty? property (front ++ (assignment property (quotedValue text) ++ rest)) =
      some text := by
  have opening : dropBlanks (' ' :: (quotedValue text ++ ';' :: rest)) =
      '\'' :: (doubled text ++ '\'' :: ';' :: rest) := by
    rw [dropBlanks_space]
    simp [quotedValue, dropBlanks_cons, show isBlank '\'' = false by decide]
  have read : (readChar '\'' (dropBlanks (' ' :: (quotedValue text ++ ';' :: rest)))).bind
      readQuotedValue = some text := by
    simp only [opening, readChar, if_true, Option.bind_some]
    exact readQuotedValue_doubled text (by simp)
  have matched := firstMatch_assignment
    (fun assigned => (readChar '\'' (dropBlanks assigned)).bind readQuotedValue) passed isWord
    (quotedValue text) rest read
  simp only [quotedProperty?, readAssignment_eq, Option.bind_eq_bind]
  rw [matched]
  rfl

theorem relationExpression_assignment {entity : List Char} {field : Option (List Char)}
    (passed : PassedOver relationProperty '=' front)
    (entityUnquoted : '"' ∉ entity) (fieldUnquoted : ∀ name ∈ field, '"' ∉ name)
    (entitySpaced : joinBlanks false entity = entity)
    (fieldSpaced : ∀ name ∈ field, joinBlanks false name = name) (rest : List Char) :
    relationExpression
        (front ++ (assignment relationProperty (relationText entity field) ++ rest)) =
      relationText entity field := by
  have read := readExpression_relationText entityUnquoted fieldUnquoted rest
  have matched := firstMatch_assignment (readExpression none) passed rfl
    (relationText entity field) rest read
  simp only [relationExpression, readAssignment_eq, Option.bind_eq_bind]
  rw [matched]
  exact collapseBlanks_relationText entitySpaced fieldSpaced

private theorem firstMatch_of_passedOver {word : List Char} {mark : Char} {α : Type}
    (goOn : List Char → Option α) (passed : PassedOver word mark front) :
    firstMatch (fun place => (readMarked word mark place).bind goOn) false (front ++ [' ']) =
      none := by
  rw [passed, firstMatch_cons _ _ rfl]
  rfl

theorem propertyValue_of_passedOver (passed : PassedOver property '=' front) :
    propertyValue property (front ++ [' ']) = [] := by
  have quoted := firstMatch_of_passedOver
    (fun assigned => (readChar '\'' (dropBlanks assigned)).bind readQuotedValue) passed
  have plain := firstMatch_of_passedOver readPlainValue passed
  simp only [propertyValue, quotedProperty?, plainProperty?, readAssignment_eq,
    Option.bind_eq_bind]
  rw [quoted, plain]
  rfl

theorem relationExpression_of_passedOver (passed : PassedOver relationProperty '=' front) :
    relationExpression (front ++ [' ']) = [] := by
  have unmatched := firstMatch_of_passedOver (readExpression none) passed
  simp only [relationExpression, readAssignment_eq, Option.bind_eq_bind]
  rw [unmatched]
  rfl

end Assigned

/-! ## Searches for other words -/

section Passed

variable {word property : List Char} {mark quote : Char}

private theorem PassedOver.punctuation {c : Char} (punctuated : isPunctuated word mark = true)
    (member : c ∈ Source.punctuation) : PassedOver word mark [c] := by
  obtain ⟨separated, different⟩ := separates_of_isPunctuated punctuated member
  exact .singleton separated different

theorem PassedOver.concat_punctuation {c : Char} {text : List Char}
    (punctuated : isPunctuated word mark = true) (member : c ∈ Source.punctuation)
    (avoids : Avoids word mark text) :
    PassedOver word mark (text ++ [c]) := by
  obtain ⟨separated, different⟩ := separates_of_isPunctuated punctuated member
  exact .of_avoids_concat separated different avoids

theorem PassedOver.quotedName {name : List Char} (punctuated : isPunctuated word mark = true)
    (avoids : Avoids word mark name) :
    PassedOver word mark (quotedName name) := by
  have opening := PassedOver.punctuation (c := '"') punctuated (by decide)
  have inside := PassedOver.concat_punctuation (c := '"') punctuated (by decide) avoids
  exact opening.append inside

/-- A search for another word passes over an assignment if it passes over the
value behind its opening quote. -/
private theorem PassedOver.assignment {value : List Char}
    (punctuated : isPunctuated word mark = true) (isQuote : quote ∈ Source.punctuation)
    (headAvoids : Avoids word mark (' ' :: (property ++ [' ', '=', ' '])))
    (passed : PassedOver word mark value) :
    PassedOver word mark (assignment property (quote :: value)) := by
  have head := PassedOver.concat_punctuation punctuated isQuote headAvoids
  have last := PassedOver.punctuation (c := ';') punctuated (by decide)
  simpa [Source.assignment] using (head.append passed).append last

theorem PassedOver.assignment_quotedValue {text : List Char}
    (punctuated : isPunctuated word mark = true)
    (headAvoids : Avoids word mark (' ' :: (property ++ [' ', '=', ' '])))
    (avoids : Avoids word mark text) :
    PassedOver word mark (Source.assignment property (quotedValue text)) := by
  obtain ⟨separated, different⟩ :=
    separates_of_isPunctuated (c := '\'') punctuated (by decide)
  have doubledAvoids := firstMatch_doubled separated different avoids
  exact .assignment punctuated (by decide) headAvoids
    (.concat_punctuation punctuated (by decide) doubledAvoids)

theorem PassedOver.assignment_relationText {entity : List Char} {field : Option (List Char)}
    (punctuated : isPunctuated word mark = true)
    (headAvoids : Avoids word mark (' ' :: (property ++ [' ', '=', ' '])))
    (entityAvoids : Avoids word mark entity)
    (fieldAvoids : ∀ name ∈ field, Avoids word mark name) :
    PassedOver word mark (Source.assignment property (relationText entity field)) := by
  have entityPassed : PassedOver word mark (entity ++ ['"']) :=
    .concat_punctuation punctuated (by decide) entityAvoids
  cases field with
  | none => exact .assignment punctuated (by decide) headAvoids entityPassed
  | some name =>
      have dot := PassedOver.punctuation (c := '.') punctuated (by decide)
      have named := PassedOver.quotedName punctuated (fieldAvoids name rfl)
      have value := entityPassed.append (dot.append named)
      have whole : PassedOver word mark (Source.assignment property
          ('"' :: (entity ++ ['"'] ++ (['.'] ++ Source.quotedName name)))) :=
        .assignment punctuated (by decide) headAvoids value
      simpa [relationText, Source.quotedName] using whole

end Passed

end TableAtlas.Source
