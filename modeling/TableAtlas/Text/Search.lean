import TableAtlas.Text.WordChar

/-!
# Searching a text

A construct is searched for at the word boundaries of a text, and the leftmost
place where it is recognised counts.  A recogniser returns the rest of the text
behind the construct; since that rest is shorter than the text, all successive
constructs of a text can be listed.
-/

namespace TableAtlas.Text

def startsWord : List Char → Bool
  | [] => false
  | c :: _ => isWordChar c

/-- Whether a word starts or ends in front of a text. -/
def atBoundary (afterWord : Bool) (text : List Char) : Bool :=
  afterWord != startsWord text

/-- What is recognised at a place of a text, if the place is a word boundary. -/
def recognisedAt {α : Type} (recognise : List Char → Option α) (afterWord : Bool)
    (text : List Char) : Option α :=
  if atBoundary afterWord text then recognise text else none

/-- The leftmost place where something is recognised: the text skipped before
it, and what was recognised there. -/
def firstMatch {α : Type} (recognise : List Char → Option α) (afterWord : Bool) :
    List Char → Option (List Char × α)
  | [] => (recognisedAt recognise afterWord []).map fun found => ([], found)
  | c :: rest =>
      match recognisedAt recognise afterWord (c :: rest) with
      | some found => some ([], found)
      | none =>
          (firstMatch recognise (isWordChar c) rest).map fun (skipped, found) =>
            (c :: skipped, found)

/-- A match is what the recogniser finds in the text behind the skipped part. -/
theorem firstMatch_eq_some {α : Type} {recognise : List Char → Option α} {afterWord : Bool}
    {text skipped : List Char} {found : α}
    (matched : firstMatch recognise afterWord text = some (skipped, found)) :
    ∃ place, text = skipped ++ place ∧ recognise place = some found := by
  induction text generalizing afterWord skipped with
  | nil =>
      simp only [firstMatch, recognisedAt, Option.map_eq_some_iff, Prod.mk.injEq] at matched
      obtain ⟨_, recognised, rfl, rfl⟩ := matched
      split at recognised
      · exact ⟨[], rfl, recognised⟩
      · exact absurd recognised (by simp)
  | cons c rest hypothesis =>
      simp only [firstMatch] at matched
      split at matched
      · rename_i value recognised
        simp only [Option.some.injEq, Prod.mk.injEq] at matched
        obtain ⟨rfl, rfl⟩ := matched
        simp only [recognisedAt] at recognised
        split at recognised
        · exact ⟨c :: rest, rfl, recognised⟩
        · exact absurd recognised (by simp)
      · simp only [Option.map_eq_some_iff, Prod.exists, Prod.mk.injEq] at matched
        obtain ⟨_, _, inner, rfl, rfl⟩ := matched
        obtain ⟨place, rfl, recognised⟩ := hypothesis inner
        exact ⟨place, rfl, recognised⟩

/-- A recogniser of a construct that takes at least one character. -/
structure Recogniser (α : Type) where
  recognise : List Char → Option (α × List Char)
  shorter : ∀ {text : List Char} {found : α} {rest : List Char},
    recognise text = some (found, rest) → rest.length < text.length

namespace Recogniser

variable {α : Type}

theorem length_rest_lt (recogniser : Recogniser α) {afterWord : Bool}
    {text skipped rest : List Char} {found : α}
    (matched : firstMatch recogniser.recognise afterWord text = some (skipped, found, rest)) :
    rest.length < text.length := by
  obtain ⟨place, rfl, recognised⟩ := firstMatch_eq_some matched
  have bound := recogniser.shorter recognised
  simp only [List.length_append]
  omega

/-- All successive constructs of a text that does not continue a word. -/
def all (recogniser : Recogniser α) (text : List Char) : List α :=
  match matched : firstMatch recogniser.recognise false text with
  | none => []
  | some (_, found, rest) =>
      have := recogniser.length_rest_lt matched
      found :: recogniser.all rest
termination_by text.length

theorem all_of_none (recogniser : Recogniser α) {text : List Char}
    (unmatched : firstMatch recogniser.recognise false text = none) :
    recogniser.all text = [] := by
  rw [all]
  split
  · rfl
  · rename_i matched
    simp [unmatched] at matched

theorem all_of_some (recogniser : Recogniser α) {text skipped rest : List Char} {found : α}
    (matched : firstMatch recogniser.recognise false text = some (skipped, found, rest)) :
    recogniser.all text = found :: recogniser.all rest := by
  rw [all]
  split
  · rename_i unmatched
    simp [matched] at unmatched
  · rename_i other
    simp only [matched, Option.some.injEq, Prod.mk.injEq] at other
    obtain ⟨_, rfl, rfl⟩ := other
    rfl

end Recogniser

end TableAtlas.Text
