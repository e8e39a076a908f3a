import TableAtlas.Proofs.BlankedComments
import TableAtlas.Proofs.LocalReading

/-!
# Searching a blanked text

A search through a text and one through its blanked form find the same if what
each of them finds lies in a part that the two texts share.  For the match in
the text is then also one in the blanked text and the other way around, so
neither can stand before the other.
-/

namespace TableAtlas.Source

open TableAtlas.Text

/-! ## Places of matches -/

/-- Whether a word ends at the end of a text, where the text follows a word or not. -/
def endsInWord (afterWord : Bool) (text : List Char) : Bool :=
  (text.getLast?.map isWordChar).getD afterWord

theorem endsInWord_cons (afterWord : Bool) (c : Char) (text : List Char) :
    endsInWord afterWord (c :: text) = endsInWord (isWordChar c) text := by
  cases text with
  | nil => rfl
  | cons d text => simp [endsInWord, List.getLast?_cons]

section Places

variable {α : Type} {recognise : List Char → Option α} {afterWord : Bool}

theorem firstMatch_map {β : Type} (recognise : List Char → Option α) (view : α → β)
    (afterWord : Bool) (text : List Char) :
    firstMatch (fun place => (recognise place).map view) afterWord text =
      (firstMatch recognise afterWord text).map fun (skipped, found) => (skipped, view found) := by
  have recognised : ∀ afterWord place,
      recognisedAt (fun place => (recognise place).map view) afterWord place =
        (recognisedAt recognise afterWord place).map view := by
    intro afterWord place
    unfold recognisedAt
    split <;> rfl
  induction text generalizing afterWord with
  | nil =>
      rw [firstMatch, firstMatch, recognised, Option.map_map, Option.map_map]
      rfl
  | cons c rest induction =>
      rw [firstMatch, firstMatch, recognised]
      cases recognisedAt recognise afterWord (c :: rest) with
      | some found => rfl
      | none =>
          simp only [Option.map_none, induction, Option.map_map]
          rfl

theorem recognisedAt_of_firstMatch {text skipped : List Char} {found : α}
    (matched : firstMatch recognise afterWord text = some (skipped, found)) :
    ∃ place, text = skipped ++ place ∧
      recognisedAt recognise (endsInWord afterWord skipped) place = some found := by
  induction text generalizing afterWord skipped with
  | nil =>
      simp only [firstMatch, Option.map_eq_some_iff, Prod.mk.injEq] at matched
      obtain ⟨_, recognised, rfl, rfl⟩ := matched
      exact ⟨[], rfl, recognised⟩
  | cons c rest induction =>
      simp only [firstMatch] at matched
      split at matched
      · rename_i value recognised
        simp only [Option.some.injEq, Prod.mk.injEq] at matched
        obtain ⟨rfl, rfl⟩ := matched
        exact ⟨c :: rest, rfl, recognised⟩
      · simp only [Option.map_eq_some_iff, Prod.exists, Prod.mk.injEq] at matched
        obtain ⟨_, _, inner, rfl, rfl⟩ := matched
        obtain ⟨place, rfl, recognised⟩ := induction inner
        exact ⟨place, rfl, by rw [endsInWord_cons, recognised]⟩

/-- A search finds something no later than where anything is recognised. -/
theorem firstMatch_of_recognisedAt {before place : List Char} {found : α}
    (recognised : recognisedAt recognise (endsInWord afterWord before) place = some found) :
    ∃ skipped value, firstMatch recognise afterWord (before ++ place) = some (skipped, value) ∧
      skipped.length ≤ before.length ∧ (skipped.length = before.length → value = found) := by
  induction before generalizing afterWord with
  | nil =>
      have here : firstMatch recognise afterWord place = some ([], found) := by
        have recognisedHere : recognisedAt recognise afterWord place = some found := recognised
        cases place <;> simp [firstMatch, recognisedHere]
      exact ⟨[], found, here, Nat.le_refl _, fun _ => rfl⟩
  | cons c before induction =>
      rw [endsInWord_cons] at recognised
      obtain ⟨skipped, value, inner, within, same⟩ := induction recognised
      rw [List.cons_append, firstMatch]
      cases earlier : recognisedAt recognise afterWord (c :: (before ++ place)) with
      | some first => exact ⟨[], first, rfl, Nat.zero_le _, by simp⟩
      | none =>
          refine ⟨c :: skipped, value, by simp [inner], by simpa using within, ?_⟩
          simpa using same

end Places

/-! ## Shared spans -/

/-- The texts share the characters of a span and the character in front of it. -/
def SharedAt (text other : List Char) (span : Nat × Nat) : Prop :=
  (text.take span.2).drop (span.1 - 1) = (other.take span.2).drop (span.1 - 1)

instance (text other : List Char) (span : Nat × Nat) : Decidable (SharedAt text other span) :=
  inferInstanceAs (Decidable (_ = _))

theorem SharedAt.symm {text other : List Char} {span : Nat × Nat}
    (shared : SharedAt text other span) : SharedAt other text span :=
  Eq.symm shared

theorem SharedAt.split {skipped stretch rest other : List Char}
    (sameLength : other.length = (skipped ++ (stretch ++ rest)).length)
    (shared : SharedAt (skipped ++ (stretch ++ rest)) other
      (skipped.length, skipped.length + stretch.length)) :
    ∃ front, other = front ++ (stretch ++ other.drop (skipped.length + stretch.length)) ∧
      front.length = skipped.length ∧ front.getLast? = skipped.getLast? := by
  have untilStop : (skipped ++ (stretch ++ rest)).take (skipped.length + stretch.length) =
      skipped ++ stretch := by
    rw [← List.append_assoc, List.take_left' (by simp)]
  have whole := (List.take_append_drop (skipped.length + stretch.length) other).symm
  rw [SharedAt, untilStop] at shared
  rcases List.eq_nil_or_concat' skipped with rfl | ⟨front, last, rfl⟩
  · have start : stretch = other.take stretch.length := by simpa using shared
    refine ⟨[], ?_, rfl, rfl⟩
    simp only [List.length_nil, Nat.zero_add, List.nil_append] at whole ⊢
    rw [← start] at whole
    exact whole
  · have stop : (front ++ [last]).length + stretch.length ≤ other.length := by
      simp only [sameLength, List.length_append]
      omega
    have fromLast : (other.take ((front ++ [last]).length + stretch.length)).drop front.length =
        last :: stretch := by
      simpa using shared.symm
    have front' := List.take_append_drop front.length
      (other.take ((front ++ [last]).length + stretch.length))
    rw [fromLast, List.take_take] at front'
    refine ⟨other.take front.length ++ [last], ?_, ?_, by simp⟩
    · have within : min front.length ((front ++ [last]).length + stretch.length) =
          front.length := by
        simp only [List.length_append]
        omega
      rw [within] at front'
      conv_lhs => rw [whole, ← front']
      simp
    · simp only [List.length_append, List.length_take, List.length_singleton] at stop ⊢
      omega

/-! ## Searches that agree -/

variable {α : Type} {recognise : List Char → Option (α × List Char)}

/-- Where the first match of a search starts and where it stops. -/
def matchedSpan (recognise : List Char → Option (α × List Char)) (text : List Char) :
    Option (Nat × Nat) :=
  (firstMatch recognise false text).map fun (skipped, _, rest) =>
    (skipped.length, text.length - rest.length)

/-- What a search finds in a text and in its blanked form, each time lies apart
from what was blanked. -/
structure FindsApart (recognise : List Char → Option (α × List Char))
    (text blanked : List Char) : Prop where
  written : ∀ span ∈ matchedSpan recognise text, SharedAt text blanked span
  blanked : ∀ span ∈ matchedSpan recognise blanked, SharedAt text blanked span

instance (recognise : List Char → Option (α × List Char)) (text blanked : List Char) :
    Decidable (FindsApart recognise text blanked) :=
  decidable_of_iff ((∀ span ∈ matchedSpan recognise text, SharedAt text blanked span) ∧
    ∀ span ∈ matchedSpan recognise blanked, SharedAt text blanked span)
    ⟨fun both => ⟨both.1, both.2⟩, fun apart => ⟨apart.written, apart.blanked⟩⟩

/-- What is recognised in a text is recognised before blanked text as well, and
where something is recognised before blanked text there was something before. -/
structure CarriesOver (recognise : List Char → Option (α × List Char)) : Prop where
  stretch : ∀ {text rest : List Char} {found : α},
    recognise text = some (found, rest) → ∃ stretch, stretch ≠ [] ∧ text = stretch ++ rest
  forward : ∀ {stretch rest blanked : List Char} {found : α}, Blanked rest blanked →
    recognise (stretch ++ rest) = some (found, rest) →
      recognise (stretch ++ blanked) = some (found, blanked)
  backward : ∀ {stretch rest blanked : List Char} {found : α}, Blanked rest blanked →
    recognise (stretch ++ blanked) = some (found, blanked) →
      ∃ value, recognise (stretch ++ rest) = some value

theorem IsLocal.carriesOver (isLocal : IsLocal recognise) : CarriesOver recognise := by
  have again : ∀ {stretch rest : List Char} {found : α} (other : List Char),
      recognise (stretch ++ rest) = some (found, rest) →
        recognise (stretch ++ other) = some (found, other) := by
    intro stretch rest found other taken
    obtain ⟨taking, -, whole, takesAgain⟩ := isLocal taken
    rw [List.append_cancel_right whole]
    exact takesAgain other
  refine ⟨fun taken => ?_, fun _ taken => again _ taken, fun _ taken => ⟨_, again _ taken⟩⟩
  obtain ⟨stretch, nonempty, whole, -⟩ := isLocal taken
  exact ⟨stretch, nonempty, whole⟩

theorem CarriesOver.behind {skip : List Char → Option (List Char)} (carries : CarriesOver recognise)
    (skips : ∀ {text rest : List Char}, skip text = some rest → TakesStretch skip id text rest) :
    CarriesOver fun text => (skip text).bind recognise where
  stretch taken := by
    obtain ⟨middle, skipped, recognised⟩ := Option.bind_eq_some_iff.mp taken
    obtain ⟨front, nonempty, rfl, -⟩ := skips skipped
    obtain ⟨back, -, rfl⟩ := carries.stretch recognised
    exact ⟨front ++ back, by simp [nonempty], by simp⟩
  forward areBlanked taken := by
    obtain ⟨middle, skipped, recognised⟩ := Option.bind_eq_some_iff.mp taken
    obtain ⟨front, -, whole, again⟩ := skips skipped
    obtain ⟨back, -, rfl⟩ := carries.stretch recognised
    obtain rfl := List.append_cancel_right (whole.trans (List.append_assoc front back _).symm)
    rw [List.append_assoc, again, Option.bind_some]
    exact carries.forward areBlanked recognised
  backward areBlanked taken := by
    obtain ⟨middle, skipped, recognised⟩ := Option.bind_eq_some_iff.mp taken
    obtain ⟨front, -, whole, again⟩ := skips skipped
    obtain ⟨back, -, rfl⟩ := carries.stretch recognised
    obtain rfl := List.append_cancel_right (whole.trans (List.append_assoc front back _).symm)
    rw [List.append_assoc, again, Option.bind_some]
    exact carries.backward areBlanked recognised

section Agreement

variable {text blanked skipped rest : List Char} {found : α}

private theorem recognisedAt_iff {α : Type} {recognise : List Char → Option α} {afterWord : Bool}
    {place : List Char} {found : α} :
    recognisedAt recognise afterWord place = some found ↔
      atBoundary afterWord place = true ∧ recognise place = some found := by
  unfold recognisedAt
  split
  · rename_i boundary
    simp [boundary]
  · rename_i noBoundary
    simp [noBoundary]

private theorem atBoundary_append {before front stretch : List Char} (rest other : List Char)
    (nonempty : stretch ≠ []) (alike : front.getLast? = before.getLast?) :
    atBoundary (endsInWord false front) (stretch ++ other) =
      atBoundary (endsInWord false before) (stretch ++ rest) := by
  cases stretch with
  | nil => exact absurd rfl nonempty
  | cons c stretch =>
      rw [endsInWord, alike, ← endsInWord]
      rfl

/-- The parts of a text at a match that it shares with another text. -/
private theorem exists_split {other : List Char} (carries : CarriesOver recognise)
    (sameLength : other.length = text.length)
    (shared : ∀ span ∈ matchedSpan recognise text, SharedAt text other span)
    (matched : firstMatch recognise false text = some (skipped, found, rest)) :
    ∃ stretch front, text = skipped ++ (stretch ++ rest) ∧
      other = front ++ (stretch ++ other.drop (text.length - rest.length)) ∧
      front.length = skipped.length ∧ recognise (stretch ++ rest) = some (found, rest) ∧
      atBoundary (endsInWord false front)
        (stretch ++ other.drop (text.length - rest.length)) = true := by
  obtain ⟨place, rfl, recognised⟩ := recognisedAt_of_firstMatch matched
  obtain ⟨boundary, taken⟩ := recognisedAt_iff.mp recognised
  obtain ⟨stretch, nonempty, rfl⟩ := carries.stretch taken
  have stop : (skipped ++ (stretch ++ rest)).length - rest.length =
      skipped.length + stretch.length := by
    simp only [List.length_append]
    omega
  have sharedHere := shared (skipped.length, (skipped ++ (stretch ++ rest)).length - rest.length) (by
    simp [matchedSpan, matched])
  rw [stop] at sharedHere ⊢
  obtain ⟨front, whole, sameFront, alike⟩ := sharedHere.split sameLength
  exact ⟨stretch, front, rfl, whole, sameFront, taken,
    (atBoundary_append rest _ nonempty alike).trans boundary⟩

private theorem blanked_behind (areBlanked : Blanked text blanked) (behind : rest <:+ text) :
    Blanked rest (blanked.drop (text.length - rest.length)) := by
  have both := List.forall₂_drop (text.length - rest.length) areBlanked
  rwa [← List.suffix_iff_eq_drop.mp behind] at both

private theorem written_behind (areBlanked : Blanked text blanked) (behind : rest <:+ blanked) :
    Blanked (text.drop (blanked.length - rest.length)) rest := by
  have both := List.forall₂_drop (blanked.length - rest.length) areBlanked
  rwa [← List.suffix_iff_eq_drop.mp behind] at both

/-- A match in a text gives one in the blanked text that is no later. -/
private theorem exists_firstMatch_blanked (carries : CarriesOver recognise)
    (areBlanked : Blanked text blanked) (apart : FindsApart recognise text blanked)
    (matched : firstMatch recognise false text = some (skipped, found, rest)) :
    ∃ front value, firstMatch recognise false blanked = some (front, value) ∧
      front.length ≤ skipped.length ∧
      (front.length = skipped.length →
        value = (found, blanked.drop (text.length - rest.length))) := by
  obtain ⟨stretch, before, whole, wholeBlanked, sameFront, taken, boundary⟩ :=
    exists_split carries areBlanked.length_eq.symm apart.written matched
  have behind : rest <:+ text := ⟨skipped ++ stretch, by rw [whole, List.append_assoc]⟩
  have takenThere := carries.forward (blanked_behind areBlanked behind) taken
  obtain ⟨front, value, found', within, same⟩ :=
    firstMatch_of_recognisedAt (recognisedAt_iff.mpr ⟨boundary, takenThere⟩)
  rw [← wholeBlanked] at found'
  exact ⟨front, value, found', sameFront ▸ within, sameFront ▸ same⟩

/-- A match in the blanked text gives one in the text that is no later. -/
private theorem exists_firstMatch_written (carries : CarriesOver recognise)
    (areBlanked : Blanked text blanked) (apart : FindsApart recognise text blanked)
    (matched : firstMatch recognise false blanked = some (skipped, found, rest)) :
    ∃ front value, firstMatch recognise false text = some (front, value) ∧
      front.length ≤ skipped.length := by
  obtain ⟨stretch, before, whole, wholeText, sameFront, taken, boundary⟩ :=
    exists_split carries areBlanked.length_eq
      (fun span member => (apart.blanked span member).symm) matched
  have behind : rest <:+ blanked := ⟨skipped ++ stretch, by rw [whole, List.append_assoc]⟩
  obtain ⟨value, takenThere⟩ := carries.backward (written_behind areBlanked behind) taken
  obtain ⟨front, first, found', within, -⟩ :=
    firstMatch_of_recognisedAt (recognisedAt_iff.mpr ⟨boundary, takenThere⟩)
  rw [← wholeText] at found'
  exact ⟨front, first, found', sameFront ▸ within⟩

/-- A search finds the same in a blanked text as in the text itself, and where it
finds it. -/
theorem FindsApart.firstMatch_eq_some (apart : FindsApart recognise text blanked)
    (carries : CarriesOver recognise) (areBlanked : Blanked text blanked)
    (matched : firstMatch recognise false text = some (skipped, found, rest)) :
    ∃ front, front.length = skipped.length ∧ firstMatch recognise false blanked =
      some (front, found, blanked.drop (text.length - rest.length)) := by
  obtain ⟨front, ⟨value, left⟩, matchedThere, within, same⟩ :=
    exists_firstMatch_blanked carries areBlanked apart matched
  obtain ⟨first, _, matchedHere, atMost⟩ :=
    exists_firstMatch_written carries areBlanked apart matchedThere
  rw [matched] at matchedHere
  obtain ⟨rfl, -⟩ := Prod.mk.inj (Option.some.inj matchedHere)
  have sameFront := Nat.le_antisymm within atMost
  exact ⟨front, sameFront, same sameFront ▸ matchedThere⟩

theorem FindsApart.firstMatch_eq_none (apart : FindsApart recognise text blanked)
    (carries : CarriesOver recognise) (areBlanked : Blanked text blanked)
    (unmatched : firstMatch recognise false text = none) :
    firstMatch recognise false blanked = none := by
  cases matched : firstMatch recognise false blanked with
  | none => rfl
  | some there =>
      obtain ⟨front, value, matchedHere, -⟩ :=
        exists_firstMatch_written carries areBlanked apart matched
      rw [unmatched] at matchedHere
      exact absurd matchedHere (by simp)

end Agreement

end TableAtlas.Source
