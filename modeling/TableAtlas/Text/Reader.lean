import TableAtlas.Text.DecimalDigit
import TableAtlas.Text.LetterCase
import TableAtlas.Text.Spacing
import TableAtlas.Text.WordChar

/-!
# Readers

A reader looks for one token at the front of a text.  It returns what it found
together with the rest of the text, or nothing.  Each reader comes with the
fact that the text splits into what was read and the rest, so that a loop that
reads token after token comes to an end.
-/

namespace TableAtlas.Text

/-- Reads the letters of `word` in any case, and returns them as they are spelled. -/
def readKeyword : List Char → List Char → Option (List Char × List Char)
  | [], text => some ([], text)
  | _ :: _, [] => none
  | letter :: letters, c :: rest =>
      if sameLetter letter c then
        (readKeyword letters rest).map fun (spelled, left) => (c :: spelled, left)
      else
        none

theorem readKeyword_eq_append {word text spelled rest : List Char}
    (read : readKeyword word text = some (spelled, rest)) :
    text = spelled ++ rest ∧ spelled.length = word.length := by
  induction word generalizing text spelled with
  | nil =>
      simp only [readKeyword, Option.some.injEq, Prod.mk.injEq] at read
      obtain ⟨rfl, rfl⟩ := read
      exact ⟨rfl, rfl⟩
  | cons letter letters hypothesis =>
      cases text with
      | nil => simp [readKeyword] at read
      | cons c left =>
          simp only [readKeyword] at read
          split at read
          · obtain ⟨⟨tail, remaining⟩, inner, equal⟩ := Option.map_eq_some_iff.mp read
            simp only [Prod.mk.injEq] at equal
            obtain ⟨rfl, rfl⟩ := equal
            obtain ⟨rfl, length⟩ := hypothesis inner
            exact ⟨rfl, by simp [length]⟩
          · exact absurd read (by simp)

/-- Reads one given character. -/
def readChar (expected : Char) : List Char → Option (List Char)
  | [] => none
  | c :: rest => if c = expected then some rest else none

theorem readChar_eq_some_iff {expected : Char} {text rest : List Char} :
    readChar expected text = some rest ↔ text = expected :: rest := by
  cases text with
  | nil => simp [readChar]
  | cons c left => by_cases same : c = expected <;> simp [readChar, same]

/-- Reads at least one blank. -/
def readBlanks : List Char → Option (List Char)
  | [] => none
  | c :: rest => if isBlank c then some (dropBlanks rest) else none

theorem readBlanks_suffix {text rest : List Char} (read : readBlanks text = some rest) :
    rest <:+ text := by
  cases text with
  | nil => simp [readBlanks] at read
  | cons c left =>
      simp only [readBlanks] at read
      split at read
      · obtain rfl := Option.some.inj read
        exact (dropBlanks_suffix left).trans (List.suffix_cons c left)
      · exact absurd read (by simp)

/-- Reads a number: at least one decimal digit. -/
def readDigits (text : List Char) : Option (List Char × List Char) :=
  match text.takeWhile isDecimalDigit with
  | [] => none
  | first :: others => some (first :: others, text.dropWhile isDecimalDigit)

theorem readDigits_eq_append {text digits rest : List Char}
    (read : readDigits text = some (digits, rest)) : text = digits ++ rest := by
  unfold readDigits at read
  split at read
  · exact absurd read (by simp)
  · rename_i first others taken
    simp only [Option.some.injEq, Prod.mk.injEq] at read
    obtain ⟨rfl, rfl⟩ := read
    rw [← taken, List.takeWhile_append_dropWhile]

/-- Splits a text at the first occurrence of a character, which goes with neither part. -/
def splitAtChar (separator : Char) : List Char → Option (List Char × List Char)
  | [] => none
  | c :: rest =>
      if c = separator then some ([], rest)
      else (splitAtChar separator rest).map fun (before, after) => (c :: before, after)

theorem splitAtChar_eq_some_iff {separator : Char} {text before after : List Char} :
    splitAtChar separator text = some (before, after) ↔
      text = before ++ separator :: after ∧ separator ∉ before := by
  induction text generalizing before with
  | nil => simp [splitAtChar]
  | cons c rest hypothesis =>
      by_cases same : c = separator
      · subst same
        cases before with
        | nil => simp [splitAtChar]
        | cons first others =>
            simp only [splitAtChar, if_true, Option.some.injEq, Prod.mk.injEq, List.cons_append,
              List.cons.injEq, List.mem_cons, not_or]
            constructor
            · intro impossible
              exact absurd impossible.1 (by simp)
            · intro impossible
              exact absurd impossible.1.1 impossible.2.1
      · cases before with
        | nil => simp [splitAtChar, same]
        | cons first others =>
            simp only [splitAtChar, same, if_false, Option.map_eq_some_iff, Prod.exists,
              Prod.mk.injEq, List.cons.injEq, List.cons_append, List.mem_cons, not_or]
            constructor
            · rintro ⟨tail, remaining, split, ⟨rfl, rfl⟩, rfl⟩
              obtain ⟨rfl, absent⟩ := hypothesis.mp split
              exact ⟨⟨rfl, rfl⟩, Ne.symm same, absent⟩
            · rintro ⟨⟨rfl, rfl⟩, _, absent⟩
              exact ⟨others, after, hypothesis.mpr ⟨rfl, absent⟩, ⟨rfl, rfl⟩, rfl⟩

/-- Reads a name in double quotes, which is not empty, and returns it without them. -/
def readQuotedName (text : List Char) : Option (List Char × List Char) := do
  let afterQuote ← readChar '"' text
  let (name, rest) ← splitAtChar '"' afterQuote
  if name.isEmpty then none else some (name, rest)

theorem readQuotedName_eq_some_iff {text name rest : List Char} :
    readQuotedName text = some (name, rest) ↔
      text = '"' :: (name ++ '"' :: rest) ∧ '"' ∉ name ∧ name ≠ [] := by
  simp only [readQuotedName, Option.bind_eq_bind, Option.bind_eq_some_iff, readChar_eq_some_iff,
    Prod.exists, splitAtChar_eq_some_iff]
  constructor
  · rintro ⟨afterQuote, rfl, found, remaining, ⟨rfl, absent⟩, result⟩
    split at result
    · exact absurd result (by simp)
    · rename_i nonempty
      simp only [Option.some.injEq, Prod.mk.injEq] at result
      obtain ⟨rfl, rfl⟩ := result
      exact ⟨rfl, absent, by simpa using nonempty⟩
  · rintro ⟨rfl, absent, nonempty⟩
    refine ⟨_, rfl, name, rest, ⟨rfl, absent⟩, ?_⟩
    simp [nonempty]

/-- Reads a bare word: at least one word character. -/
def readWord (text : List Char) : Option (List Char × List Char) :=
  match text.takeWhile isWordChar with
  | [] => none
  | first :: others => some (first :: others, text.dropWhile isWordChar)

end TableAtlas.Text
