import TableAtlas.Text.CasedLetter
import TableAtlas.Text.LetterCase

/-!
# Lowercase texts

Names are compared by their lowercase forms.  Lowercasing replaces one
character at a time, with two rules of its own: the capital `İ` becomes an `i`
followed by a combining dot, and the capital sigma becomes the final form `ς`
at the end of a word.
-/

namespace TableAtlas.Text

/-- Whether a cased letter follows, past the characters that case rules ignore. -/
def adjoinsCased : List Char → Bool
  | [] => false
  | c :: rest => if isCaseIgnorable c then adjoinsCased rest else isCased c

/-- Whether a sigma between `before`, read backwards, and `after` ends its word. -/
def endsCasedWord (before after : List Char) : Bool :=
  adjoinsCased before && !adjoinsCased after

/-- The lowercase form of one character between `before`, read backwards, and `after`. -/
def lowerAt (before : List Char) (c : Char) (after : List Char) : List Char :=
  if c = 'Σ' then
    if endsCasedWord before after then ['ς'] else ['σ']
  else if c = 'İ' then
    ['i', '\u0307']
  else
    [lowerChar c]

/-- The lowercase form of a text that stands after `before`, read backwards. -/
def lowerAfter (before : List Char) : List Char → List Char
  | [] => []
  | c :: rest => lowerAt before c rest ++ lowerAfter (c :: before) rest

@[simp] theorem lowerAfter_nil (before : List Char) : lowerAfter before [] = [] := rfl

theorem lowerAfter_cons (before : List Char) (c : Char) (rest : List Char) :
    lowerAfter before (c :: rest) = lowerAt before c rest ++ lowerAfter (c :: before) rest := rfl

def lowercase (text : String) : String :=
  String.ofList (lowerAfter [] text.toList)

def sameName (left right : String) : Bool :=
  lowercase left == lowercase right

@[simp] theorem sameName_self (text : String) : sameName text text = true := by
  simp [sameName]

theorem sameName_iff {left right : String} :
    sameName left right = true ↔ lowercase left = lowercase right := by
  simp [sameName]

theorem lowerAt_ne_nil (before : List Char) (c : Char) (after : List Char) :
    lowerAt before c after ≠ [] := by
  unfold lowerAt
  split
  · split <;> simp
  · split <;> simp

@[simp] theorem lowercase_empty : lowercase "" = "" := rfl

theorem lowercase_eq_empty_iff {text : String} : lowercase text = "" ↔ text = "" := by
  constructor
  · intro empty
    have noLetters : lowerAfter [] text.toList = [] := by
      simpa [lowercase] using empty
    cases letters : text.toList with
    | nil => simpa using letters
    | cons c rest =>
        rw [letters, lowerAfter_cons] at noLetters
        exact absurd (List.append_eq_nil_iff.mp noLetters).1 (lowerAt_ne_nil [] c rest)
  · rintro rfl
    rfl

end TableAtlas.Text
