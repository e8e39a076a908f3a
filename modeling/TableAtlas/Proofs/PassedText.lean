import TableAtlas.Proofs.TokenReading
import TableAtlas.Source.Property

/-!
# Searching past a text

Sections and properties are searched for by a word and the mark behind it.  A
text that contains no such word, and ends in a character that can belong to
neither the word nor the blanks behind it, is passed over whatever follows it.
Texts of this kind can be joined, so a search through a long text is a search
through its parts.
-/

namespace TableAtlas.Source

open TableAtlas.Text

/-- Reads a word in any case and the mark behind it, blanks between them aside. -/
def readMarked (word : List Char) (mark : Char) (text : List Char) : Option (List Char) := do
  let (_, afterWord) ← readKeyword word text
  readChar mark (dropBlanks afterWord)

theorem readSectionHead_eq (keyword : List Char) :
    readSectionHead keyword = readMarked keyword '{' := rfl

theorem readAssignment_eq (name : List Char) : readAssignment name = readMarked name '=' := rfl

/-- Whether a character belongs to no word, is no blank, and is no letter of the
given word. -/
def separates (word : List Char) (c : Char) : Bool :=
  !isWordChar c && !isBlank c && word.all fun letter => !sameLetter letter c

/-- Nowhere in the text stands the word with its mark. -/
def Avoids (word : List Char) (mark : Char) (text : List Char) : Prop :=
  firstMatch (readMarked word mark) false text = none

instance (word : List Char) (mark : Char) (text : List Char) :
    Decidable (Avoids word mark text) :=
  inferInstanceAs (Decidable (_ = none))

/-- A search for the word and its mark passes over the text, whatever follows it
and whatever is read behind the mark. -/
def PassedOver (word : List Char) (mark : Char) (text : List Char) : Prop :=
  ∀ (α : Type) (goOn : List Char → Option α) (rest : List Char),
    firstMatch (fun place => (readMarked word mark place).bind goOn) false (text ++ rest) =
      (firstMatch (fun place => (readMarked word mark place).bind goOn) false rest).map
        (prepending text)

namespace PassedOver

variable {word : List Char} {mark : Char}

theorem nil : PassedOver word mark [] := by
  intro α goOn rest
  simp

theorem append {first second : List Char} (firstPassed : PassedOver word mark first)
    (secondPassed : PassedOver word mark second) :
    PassedOver word mark (first ++ second) := by
  intro α goOn rest
  rw [List.append_assoc, firstPassed, secondPassed, map_prepending_prepending]

theorem flatMap {β : Type} {text : β → List Char} {items : List β}
    (passed : ∀ item ∈ items, PassedOver word mark (text item)) :
    PassedOver word mark (items.flatMap text) := by
  induction items with
  | nil => exact nil
  | cons item items induction =>
      have first := passed item (by simp)
      have later := induction fun other member => passed other (by simp [member])
      exact first.append later

end PassedOver

section Separated

variable {word : List Char} {mark separator : Char}

/-- What is read of a word in front of a character that is none of its letters
does not depend on that character. -/
theorem readKeyword_separated
    (different : (word.all fun letter => !sameLetter letter separator) = true)
    (front rest : List Char) :
    readKeyword word (front ++ separator :: rest) =
      (readKeyword word front).map fun (spelled, left) =>
        (spelled, left ++ separator :: rest) := by
  induction word generalizing front with
  | nil => rfl
  | cons letter letters induction =>
      simp only [List.all_cons, Bool.and_eq_true, Bool.not_eq_true'] at different
      obtain ⟨differentHere, differentLater⟩ := different
      cases front with
      | nil => simp [readKeyword, differentHere]
      | cons c front =>
          by_cases same : sameLetter letter c = true
          · simp only [List.cons_append, readKeyword, same, if_true,
              induction differentLater front]
            cases readKeyword letters front <;> rfl
          · simp [readKeyword, same]

theorem dropBlanks_separated (notBlank : isBlank separator = false)
    (front rest : List Char) :
    dropBlanks (front ++ separator :: rest) = dropBlanks front ++ separator :: rest := by
  induction front with
  | nil => simp [dropBlanks_cons, notBlank]
  | cons first front induction =>
      by_cases blank : isBlank first = true <;> simp [dropBlanks_cons, blank, induction]

private theorem readMarked_separated (separated : separates word separator = true)
    (front rest : List Char) :
    readMarked word mark (front ++ separator :: rest) =
      (readKeyword word front).bind fun (_, left) =>
        readChar mark (dropBlanks left ++ separator :: rest) := by
  simp only [separates, Bool.and_eq_true, Bool.not_eq_true'] at separated
  obtain ⟨⟨-, notBlank⟩, different⟩ := separated
  unfold readMarked
  rw [readKeyword_separated different]
  cases readKeyword word front with
  | none => rfl
  | some found => simp [dropBlanks_separated notBlank]

private theorem readMarked_eq_none_append (separated : separates word separator = true)
    {front : List Char} (unread : readMarked word mark (front ++ [separator]) = none)
    (rest : List Char) : readMarked word mark (front ++ separator :: rest) = none := by
  rw [readMarked_separated separated] at unread ⊢
  cases keyword : readKeyword word front with
  | none => rfl
  | some found =>
      simp only [keyword, Option.bind_some] at unread ⊢
      cases blanks : dropBlanks found.2 with
      | nil => simpa [blanks, readChar] using unread
      | cons c left => simpa [blanks, readChar] using unread

private theorem readMarked_eq_none_concat (separated : separates word separator = true)
    (different : separator ≠ mark) {front : List Char}
    (unread : readMarked word mark front = none) :
    readMarked word mark (front ++ [separator]) = none := by
  rw [readMarked_separated separated]
  cases keyword : readKeyword word front with
  | none => rfl
  | some found =>
      simp only [readMarked, keyword, Option.bind_eq_bind, Option.bind_some] at unread ⊢
      cases blanks : dropBlanks found.2 with
      | nil => simp [readChar, different]
      | cons c left => simpa [blanks, readChar] using unread

theorem firstMatch_cons_eq_none_iff {α : Type} {recognise : List Char → Option α}
    {afterWord : Bool} {c : Char} {rest : List Char} :
    firstMatch recognise afterWord (c :: rest) = none ↔
      recognisedAt recognise afterWord (c :: rest) = none ∧
        firstMatch recognise (isWordChar c) rest = none := by
  simp only [firstMatch]
  cases recognisedAt recognise afterWord (c :: rest) <;> simp

theorem firstMatch_readMarked_eq_none {letter : Char} {letters text : List Char}
    {afterWord : Bool} (absent : (text.all fun c => !sameLetter letter c) = true) :
    firstMatch (readMarked (letter :: letters) mark) afterWord text = none := by
  induction text generalizing afterWord with
  | nil =>
      have unread : readMarked (letter :: letters) mark [] = none := rfl
      simp [firstMatch, recognisedAt, unread]
  | cons c text induction =>
      simp only [List.all_cons, Bool.and_eq_true, Bool.not_eq_true'] at absent
      have unread : readMarked (letter :: letters) mark (c :: text) = none := by
        simp [readMarked, readKeyword, absent.1]
      refine firstMatch_cons_eq_none_iff.mpr ⟨?_, induction absent.2⟩
      simp [recognisedAt, unread]

theorem firstMatch_of_recognisedAt_eq_none {α : Type}
    {recognise : List Char → Option α} {afterWord : Bool} {c : Char} {rest : List Char}
    (unrecognised : recognisedAt recognise afterWord (c :: rest) = none) :
    firstMatch recognise afterWord (c :: rest) =
      (firstMatch recognise (isWordChar c) rest).map (prepending [c]) := by
  simp only [firstMatch, unrecognised]
  rfl

private theorem recognisedAt_separated {α : Type} (goOn : List Char → Option α)
    (separated : separates word separator = true) {afterWord : Bool} (front : List Char)
    (unrecognised :
      recognisedAt (readMarked word mark) afterWord (front ++ [separator]) = none)
    (rest : List Char) :
    recognisedAt (fun place => (readMarked word mark place).bind goOn) afterWord
      (front ++ separator :: rest) = none := by
  have sameStart : startsWord (front ++ separator :: rest) =
      startsWord (front ++ [separator]) := by
    cases front <;> rfl
  simp only [recognisedAt, atBoundary, sameStart] at unrecognised ⊢
  by_cases boundary : (afterWord != startsWord (front ++ [separator])) = true
  · simp only [boundary, if_true] at unrecognised ⊢
    rw [readMarked_eq_none_append separated unrecognised, Option.bind_none]
  · simp [boundary]

private theorem firstMatch_separated {α : Type} (goOn : List Char → Option α)
    (separated : separates word separator = true) {afterWord : Bool} {front : List Char}
    (unmatched : firstMatch (readMarked word mark) afterWord (front ++ [separator]) = none)
    (rest : List Char) :
    firstMatch (fun place => (readMarked word mark place).bind goOn) afterWord
        (front ++ separator :: rest) =
      (firstMatch (fun place => (readMarked word mark place).bind goOn) false rest).map
        (prepending (front ++ [separator])) := by
  induction front generalizing afterWord with
  | nil =>
      have notWord : isWordChar separator = false := by
        simp only [separates, Bool.and_eq_true, Bool.not_eq_true'] at separated
        exact separated.1.1
      obtain ⟨unrecognised, -⟩ := firstMatch_cons_eq_none_iff.mp unmatched
      have unrecognisedThere := recognisedAt_separated goOn separated [] unrecognised rest
      rw [List.nil_append] at unrecognisedThere ⊢
      rw [firstMatch_of_recognisedAt_eq_none unrecognisedThere, notWord]
      rfl
  | cons c front induction =>
      obtain ⟨unrecognised, unmatchedLater⟩ := firstMatch_cons_eq_none_iff.mp unmatched
      have unrecognisedThere :=
        recognisedAt_separated goOn separated (c :: front) unrecognised rest
      rw [List.cons_append] at unrecognisedThere ⊢
      rw [firstMatch_of_recognisedAt_eq_none unrecognisedThere, induction unmatchedLater,
        map_prepending_prepending]
      rfl

private theorem firstMatch_concat_eq_none (separated : separates word separator = true)
    (different : separator ≠ mark) {afterWord : Bool} {front : List Char}
    (unmatched : firstMatch (readMarked word mark) afterWord front = none) :
    firstMatch (readMarked word mark) afterWord (front ++ [separator]) = none := by
  have unreadThere : ∀ {front : List Char}, readMarked word mark front = none →
      readMarked word mark (front ++ [separator]) = none :=
    readMarked_eq_none_concat separated different
  induction front generalizing afterWord with
  | nil =>
      have empty : readMarked word mark [] = none := by
        cases word <;> rfl
      refine firstMatch_cons_eq_none_iff.mpr ⟨?_, ?_⟩
      · simp only [recognisedAt, ite_eq_right_iff]
        exact fun _ => unreadThere empty
      · simp [firstMatch, recognisedAt, empty]
  | cons c front induction =>
      obtain ⟨unrecognised, unmatchedLater⟩ := firstMatch_cons_eq_none_iff.mp unmatched
      refine firstMatch_cons_eq_none_iff.mpr ⟨?_, induction unmatchedLater⟩
      simp only [recognisedAt, atBoundary, startsWord] at unrecognised ⊢
      by_cases boundary : (afterWord != isWordChar c) = true
      · simp only [boundary, if_true] at unrecognised ⊢
        exact unreadThere unrecognised
      · simp [boundary]

/-- A text that ends in a separating character and contains no match is passed over. -/
theorem PassedOver.of_avoids (separated : separates word separator = true)
    {front : List Char}
    (avoids : Avoids word mark (front ++ [separator])) :
    PassedOver word mark (front ++ [separator]) := by
  intro α goOn rest
  rw [List.append_assoc, List.singleton_append, firstMatch_separated goOn separated avoids]

theorem PassedOver.of_avoids_concat (separated : separates word separator = true)
    (different : separator ≠ mark) {front : List Char}
    (avoids : Avoids word mark front) :
    PassedOver word mark (front ++ [separator]) :=
  .of_avoids separated (firstMatch_concat_eq_none separated different avoids)

theorem PassedOver.singleton (separated : separates word separator = true)
    (different : separator ≠ mark) : PassedOver word mark [separator] :=
  PassedOver.of_avoids_concat separated different (firstMatch_nil _)

end Separated

theorem readMarked_append (word after : List Char) {mark : Char} (notBlank : isBlank mark = false) :
    readMarked word mark (word ++ ' ' :: mark :: after) = some after := by
  simp [readMarked, readKeyword_append, dropBlanks_space, readChar_dropBlanks after notBlank]

/-- A search finds the first place where the word stands with its mark, behind a
text that is passed over. -/
theorem firstMatch_append {α : Type} {word front after : List Char} {mark : Char}
    {goOn : List Char → Option α} {found : α} (passed : PassedOver word mark front)
    (isWord : startsWord word = true) (notBlank : isBlank mark = false)
    (read : goOn after = some found) :
    firstMatch (fun place => (readMarked word mark place).bind goOn) false
      (front ++ ' ' :: (word ++ ' ' :: mark :: after)) = some (front ++ [' '], found) := by
  have recognised : (readMarked word mark (word ++ ' ' :: mark :: after)).bind goOn =
      some found := by
    rw [readMarked_append word after notBlank, Option.bind_some, read]
  rw [passed, firstMatch_cons _ _ (by decide)]
  cases word with
  | nil => simp [startsWord] at isWord
  | cons first letters =>
      rw [List.cons_append] at recognised ⊢
      rw [firstMatch_of_recognised isWord recognised]
      rfl

/-- The marks between the names and values of written declarations. -/
def punctuation : List Char :=
  ['\'', '"', '.', ';', '(', ')']

/-- Whether all punctuation separates a word and differs from its mark. -/
def isPunctuated (word : List Char) (mark : Char) : Bool :=
  punctuation.all fun c => separates word c && c != mark

theorem separates_of_isPunctuated {word : List Char} {mark c : Char}
    (punctuated : isPunctuated word mark = true) (member : c ∈ punctuation) :
    separates word c = true ∧ c ≠ mark := by
  have both := List.all_eq_true.mp punctuated c member
  simpa using both

end TableAtlas.Source
