import Mathlib.Data.List.Basic
import TableAtlas.CommandLine.Command

/-!
# The filtered schema

A filter compares lowercase forms.  A capital sigma has two of them, and which one it gets depends
on the letters around its word, so a name may contain a text and yet its lowercase form not that of
the text.  The filter keeps all names that contain the text as it is written exactly if the text
itself decides the form of every capital sigma in it.
-/

namespace TableAtlas.Text

/-! ## Lowercase forms inside a text -/

/-- Whether the nearest character that case rules do not ignore is a cased letter, if there is
such a character. -/
def nearestCased? : List Char → Option Bool
  | [] => none
  | c :: rest => if isCaseIgnorable c then nearestCased? rest else some (isCased c)

theorem nearestCased?_append (near far : List Char) :
    nearestCased? (near ++ far) = (nearestCased? near).or (nearestCased? far) := by
  induction near with
  | nil => rfl
  | cons c near induction =>
      rw [List.cons_append, nearestCased?, nearestCased?]
      split
      · exact induction
      · rfl

theorem adjoinsCased_eq (text : List Char) :
    adjoinsCased text = (nearestCased? text).getD false := by
  induction text with
  | nil => rfl
  | cons c text induction =>
      rw [adjoinsCased, nearestCased?]
      split
      · exact induction
      · rfl

theorem nearestCased?_append_of_some {near : List Char} {cased : Bool} (far : List Char)
    (nearest : nearestCased? near = some cased) : nearestCased? (near ++ far) = some cased := by
  rw [nearestCased?_append, nearest, Option.some_or]

theorem endsCasedWord_iff {before after : List Char} :
    endsCasedWord before after = true ↔
      nearestCased? before = some true ∧ nearestCased? after ≠ some true := by
  rw [endsCasedWord, adjoinsCased_eq, adjoinsCased_eq]
  cases nearestCased? before <;> cases nearestCased? after <;> simp

/-- The lowercase form of a text between `before`, read backwards, and `after`. -/
def lowerBetween (before after : List Char) : List Char → List Char
  | [] => []
  | c :: rest => lowerAt before c (rest ++ after) ++ lowerBetween (c :: before) after rest

theorem lowerAfter_eq_lowerBetween (before text : List Char) :
    lowerAfter before text = lowerBetween before [] text := by
  induction text generalizing before with
  | nil => rfl
  | cons c text induction => rw [lowerAfter_cons, lowerBetween, induction, List.append_nil]

theorem lowerBetween_append (before after first second : List Char) :
    lowerBetween before after (first ++ second) =
      lowerBetween before (second ++ after) first ++
        lowerBetween (first.reverse ++ before) after second := by
  induction first generalizing before with
  | nil => rfl
  | cons c first induction =>
      rw [List.cons_append, lowerBetween, lowerBetween, induction]
      simp

theorem lowerAfter_surrounded (before front part back : List Char) :
    lowerAfter before (front ++ part ++ back) =
      lowerBetween before (part ++ back) front ++
        lowerBetween (front.reverse ++ before) back part ++
        lowerAfter ((front ++ part).reverse ++ before) back := by
  rw [lowerAfter_eq_lowerBetween, lowerBetween_append, lowerBetween_append,
    lowerAfter_eq_lowerBetween]
  simp

/-! ## Settled sigmas -/

/-- Whether a sigma between `before`, read backwards, and `after` has the same lowercase form
wherever this stands: a cased letter follows, or a character without case stands in front, or a
cased letter in front and a character without case behind end the word. -/
def Settled (before after : List Char) : Prop :=
  nearestCased? after = some true ∨ nearestCased? before = some false ∨
    nearestCased? before = some true ∧ nearestCased? after = some false

instance (before after : List Char) : Decidable (Settled before after) :=
  inferInstanceAs (Decidable (_ ∨ _))

theorem Settled.endsCasedWord_append {before after : List Char} (settled : Settled before after)
    (front back : List Char) :
    endsCasedWord (before ++ front) (after ++ back) = endsCasedWord before after := by
  rw [Bool.eq_iff_iff, endsCasedWord_iff, endsCasedWord_iff, nearestCased?_append,
    nearestCased?_append]
  rcases settled with follows | stands | ⟨stands, follows⟩
  · simp [follows]
  · simp [stands]
  · simp [stands, follows]

/-- Whether a text decides the lowercase form of every capital sigma in it. -/
def SettlesSigmas (part : List Char) : Prop :=
  ∀ before after, part = before ++ 'Σ' :: after → Settled before.reverse after

theorem settlesSigmas_iff_forall {part : List Char} :
    SettlesSigmas part ↔ ∀ place : Fin part.length, part[place] = 'Σ' →
      Settled (part.take place).reverse (part.drop (place + 1)) := by
  constructor
  · intro settles place isSigma
    refine settles (part.take place) (part.drop (place + 1)) ?_
    rw [← isSigma]
    simp
  · rintro settles before after rfl
    simpa using settles ⟨before.length, by simp⟩ (by simp)

instance (part : List Char) : Decidable (SettlesSigmas part) :=
  decidable_of_iff _ settlesSigmas_iff_forall.symm

/-- A text that settles its sigmas is lowercased alike in all places. -/
theorem SettlesSigmas.lowerBetween_eq {part : List Char} (settles : SettlesSigmas part)
    (front back : List Char) : lowerBetween front back part = lowerAfter [] part := by
  have step : ∀ before rest, part = before ++ rest →
      lowerBetween (before.reverse ++ front) back rest = lowerAfter before.reverse rest := by
    intro before rest
    induction rest generalizing before with
    | nil => exact fun _ => rfl
    | cons c rest induction =>
        intro whole
        have later := induction (before ++ [c]) (by simpa using whole)
        have same : lowerAt (before.reverse ++ front) c (rest ++ back) =
            lowerAt before.reverse c rest := by
          unfold lowerAt
          split
          · rename_i isSigma
            have settled := settles before rest (isSigma ▸ whole)
            rw [settled.endsCasedWord_append]
          · rfl
        rw [lowerBetween, lowerAfter_cons, same]
        simpa using later
  exact step [] part rfl

/-! ## Unsettled sigmas -/

/-- Whether every sigma ends its word in the second place where it does in the first one. -/
def EndsMore (before after otherBefore otherAfter : List Char) : Prop :=
  ∀ inner rest, endsCasedWord (inner ++ before) (rest ++ after) = true →
    endsCasedWord (inner ++ otherBefore) (rest ++ otherAfter) = true

theorem endsMore_of_behind (before after back : List Char) :
    EndsMore before (after ++ back) before after := by
  intro inner rest ends
  rw [endsCasedWord_iff] at ends ⊢
  refine ⟨ends.1, fun follows => ends.2 ?_⟩
  rw [← List.append_assoc]
  exact nearestCased?_append_of_some back follows

theorem endsMore_of_in_front (before after front : List Char) :
    EndsMore before after (before ++ front) after := by
  intro inner rest ends
  rw [endsCasedWord_iff] at ends ⊢
  rw [← List.append_assoc]
  exact ⟨nearestCased?_append_of_some front ends.1, ends.2⟩

section Counts

variable {before after otherBefore otherAfter front back : List Char}

theorem count_lowerAt_le (ends : endsCasedWord before after = true →
    endsCasedWord otherBefore otherAfter = true) (c : Char) :
    (lowerAt before c after).count 'ς' ≤ (lowerAt otherBefore c otherAfter).count 'ς' ∧
      (lowerAt otherBefore c otherAfter).count 'σ' ≤ (lowerAt before c after).count 'σ' := by
  unfold lowerAt
  split
  · cases first : endsCasedWord before after with
    | false => cases endsCasedWord otherBefore otherAfter <;> decide
    | true => simp [ends first]
  · exact ⟨Nat.le_refl _, Nat.le_refl _⟩

/-- Where more sigmas end a word, there are more final ones and fewer others. -/
theorem EndsMore.count_le (more : EndsMore before after otherBefore otherAfter)
    (inner part : List Char) :
    (lowerBetween (inner ++ before) after part).count 'ς' ≤
        (lowerBetween (inner ++ otherBefore) otherAfter part).count 'ς' ∧
      (lowerBetween (inner ++ otherBefore) otherAfter part).count 'σ' ≤
        (lowerBetween (inner ++ before) after part).count 'σ' := by
  induction part generalizing inner with
  | nil => exact ⟨Nat.le_refl _, Nat.le_refl _⟩
  | cons c rest induction =>
      have here := count_lowerAt_le (more inner rest) c
      have later := induction (c :: inner)
      simp only [lowerBetween, List.count_append]
      exact ⟨Nat.add_le_add here.1 later.1, Nat.add_le_add here.2 later.2⟩

theorem lowerAt_letter (before after : List Char) : lowerAt before 'A' after = ['a'] := by
  have lower : lowerChar 'A' = 'a' := by decide
  simp [lowerAt, lower]

/-- One sigma that ends a word only in the second place makes a difference. -/
theorem EndsMore.count_lt (more : EndsMore before after otherBefore otherAfter)
    (notHere : endsCasedWord (front.reverse ++ before) (back ++ after) = false)
    (there : endsCasedWord (front.reverse ++ otherBefore) (back ++ otherAfter) = true) :
    (lowerBetween before after (front ++ 'Σ' :: back)).count 'ς' <
        (lowerBetween otherBefore otherAfter (front ++ 'Σ' :: back)).count 'ς' ∧
      (lowerBetween otherBefore otherAfter (front ++ 'Σ' :: back)).count 'σ' <
        (lowerBetween before after (front ++ 'Σ' :: back)).count 'σ' := by
  have inFront :
      EndsMore before ('Σ' :: back ++ after) otherBefore ('Σ' :: back ++ otherAfter) := by
    intro inner rest ends
    have whole := more inner (rest ++ 'Σ' :: back)
    rw [List.append_assoc, List.append_assoc] at whole
    exact whole ends
  have first := inFront.count_le [] front
  have behind := more.count_le ('Σ' :: front.reverse) back
  have sigma : lowerAt (front.reverse ++ before) 'Σ' (back ++ after) = ['σ'] := by
    simp [lowerAt, notHere]
  have final : lowerAt (front.reverse ++ otherBefore) 'Σ' (back ++ otherAfter) = ['ς'] := by
    simp [lowerAt, there]
  have counts : ['σ'].count 'ς' = 0 ∧ ['ς'].count 'ς' = 1 ∧ ['σ'].count 'σ' = 1 ∧
      ['ς'].count 'σ' = 0 := by decide
  simp only [lowerBetween_append, lowerBetween, sigma, final, List.count_append]
  simp only [List.cons_append, List.nil_append] at first behind ⊢
  omega

/-- Behind a cased letter the sigma ends the word, and there is one ordinary sigma less. -/
theorem not_infix_behind_letter (stands : nearestCased? front.reverse = none)
    (notFollowed : nearestCased? back ≠ some true) :
    ¬lowerAfter [] (front ++ 'Σ' :: back) <:+: lowerAfter [] ('A' :: (front ++ 'Σ' :: back)) := by
  intro found
  have letter : nearestCased? ['A'] = some true := by decide +kernel
  have notHere : endsCasedWord (front.reverse ++ []) (back ++ []) = false := by
    rw [← Bool.not_eq_true, endsCasedWord_iff]
    simp [stands]
  have there : endsCasedWord (front.reverse ++ ['A']) (back ++ []) = true := by
    rw [endsCasedWord_iff, nearestCased?_append, stands, List.append_nil]
    exact ⟨letter, notFollowed⟩
  have fewer := ((endsMore_of_in_front [] [] ['A']).count_lt notHere there).2
  have atLeast := found.sublist.count_le 'σ'
  rw [lowerAfter_cons, lowerAfter_eq_lowerBetween, lowerAfter_eq_lowerBetween, lowerAt_letter,
    List.count_append] at atLeast
  have other : ['a'].count 'σ' = 0 := by decide
  rw [List.nil_append] at fewer
  omega

/-- In front of a cased letter the sigma ends no word, and there is one final sigma less. -/
theorem not_infix_in_front_of_letter (stands : nearestCased? front.reverse = some true)
    (follows : nearestCased? back = none) :
    ¬lowerAfter [] (front ++ 'Σ' :: back) <:+: lowerAfter [] (front ++ 'Σ' :: back ++ ['A']) := by
  intro found
  have letter : nearestCased? ['A'] = some true := by decide +kernel
  have notHere : endsCasedWord (front.reverse ++ []) (back ++ ['A']) = false := by
    rw [← Bool.not_eq_true, endsCasedWord_iff, nearestCased?_append back, follows]
    simp [letter]
  have there : endsCasedWord (front.reverse ++ []) (back ++ []) = true := by
    rw [endsCasedWord_iff, List.append_nil, List.append_nil]
    simp [stands, follows]
  have fewer := ((endsMore_of_behind [] [] ['A']).count_lt notHere there).1
  have atLeast := found.sublist.count_le 'ς'
  have placed : lowerAfter [] (front ++ 'Σ' :: back ++ ['A']) =
      lowerBetween [] ['A'] (front ++ 'Σ' :: back) ++ ['a'] := by
    rw [lowerAfter_eq_lowerBetween, lowerBetween_append, lowerBetween, lowerAt_letter]
    rfl
  rw [placed, List.count_append, lowerAfter_eq_lowerBetween] at atLeast
  have other : ['a'].count 'ς' = 0 := by decide
  rw [List.nil_append] at fewer
  omega

end Counts

/-- A text with a sigma that it does not settle occurs in another text, in which it is not found
when case is ignored. -/
theorem exists_not_infix {part : List Char} (unsettled : ¬SettlesSigmas part) :
    ∃ text, part <:+: text ∧ ¬lowerAfter [] part <:+: lowerAfter [] text := by
  simp only [SettlesSigmas, not_forall] at unsettled
  obtain ⟨front, back, rfl, notSettled⟩ := unsettled
  simp only [Settled, not_or, not_and] at notSettled
  obtain ⟨notFollowed, notStopped, notEnded⟩ := notSettled
  cases stands : nearestCased? front.reverse with
  | none => exact ⟨_, ⟨['A'], [], by simp⟩, not_infix_behind_letter stands notFollowed⟩
  | some cased =>
      obtain rfl : cased = true := by
        by_contra notCased
        exact notStopped (by simpa [notCased] using stands)
      have follows : nearestCased? back = none := by
        cases follows : nearestCased? back with
        | none => rfl
        | some cased =>
            cases cased with
            | true => exact absurd follows notFollowed
            | false => exact absurd follows (notEnded stands)
      exact ⟨_, ⟨[], ['A'], rfl⟩, not_infix_in_front_of_letter stands follows⟩

/-- The lowercase form of a text occurs in those of all texts in which the text occurs, exactly if
it settles its sigmas. -/
theorem settlesSigmas_iff {part : List Char} :
    SettlesSigmas part ↔
      ∀ text, part <:+: text → lowerAfter [] part <:+: lowerAfter [] text := by
  constructor
  · rintro settles text ⟨front, back, rfl⟩
    rw [lowerAfter_surrounded, settles.lowerBetween_eq]
    exact List.infix_append ..
  · intro kept
    by_contra unsettled
    obtain ⟨text, occurs, missed⟩ := exists_not_infix unsettled
    exact missed (kept text occurs)

/-- A sigma at the end of a word is settled by the blank behind it. -/
example : SettlesSigmas "ΟΔΟΣ Α".toList ∧ ¬SettlesSigmas "ΟΔΟΣ".toList := by
  decide +kernel

end TableAtlas.Text

namespace TableAtlas

open TableAtlas.Source TableAtlas.Text

/-! ## Literal matches -/

namespace Schema

/-- Whether a name contains a text as it is written. -/
def nameContainsLiterally (part name : String) : Bool :=
  occursIn part.toList name.toList

/-- The objects of which the name or entity contains a text as it is written, and the relations of
which either end does. -/
def literalMatches (schema : Schema) (part : String) : Schema :=
  { schema with
    objects := schema.objects.filter fun object =>
      nameContainsLiterally part object.name || nameContainsLiterally part object.entityName
    relations := schema.relations.filter fun relation =>
      nameContainsLiterally part relation.sourceEntity ||
        nameContainsLiterally part relation.targetEntity }

theorem mem_objects_literalMatches {schema : Schema} {part : String} {object : TableObject} :
    object ∈ (schema.literalMatches part).objects ↔ object ∈ schema.objects ∧
      (nameContainsLiterally part object.name = true ∨
        nameContainsLiterally part object.entityName = true) := by
  rw [literalMatches, List.mem_filter, Bool.or_eq_true]

theorem mem_objects_filtered {schema : Schema} {part : String} {object : TableObject} :
    object ∈ (schema.filtered part).objects ↔ object ∈ schema.objects ∧
      (nameContains part object.name = true ∨ nameContains part object.entityName = true) := by
  rw [filtered, List.mem_filter, Bool.or_eq_true]

theorem exists_table (name : String) :
    ∃ object : TableObject, object.entityName = object.name ∧ object.name = name :=
  ⟨⟨0, name, "", .table, "", [], [], ""⟩, TableObject.entityName_of_isTable rfl, rfl⟩

theorem nameContains_of_literally {part name : String} (settles : SettlesSigmas part.toList)
    (literally : nameContainsLiterally part name = true) : nameContains part name = true := by
  have found := settlesSigmas_iff.mp settles _ (occursIn_iff.mp literally)
  simpa [nameContains, occursIn_iff, lowercase] using found

theorem literalMatches_sublist_filtered {part : String} (settles : SettlesSigmas part.toList)
    (schema : Schema) :
    (schema.literalMatches part).objects.Sublist (schema.filtered part).objects ∧
      (schema.literalMatches part).relations.Sublist (schema.filtered part).relations := by
  have isKept {name other : String}
      (literally : (nameContainsLiterally part name || nameContainsLiterally part other) = true) :
      (nameContains part name || nameContains part other) = true := by
    rw [Bool.or_eq_true] at literally ⊢
    exact literally.imp (nameContains_of_literally settles) (nameContains_of_literally settles)
  exact ⟨List.monotone_filter_right _ fun _ => isKept, List.monotone_filter_right _ fun _ => isKept⟩

/-- The filter keeps all literal matches in any schema, exactly if the text settles its sigmas. -/
theorem literalMatches_sublist_filtered_iff (part : String) :
    (∀ schema : Schema,
      (schema.literalMatches part).objects.Sublist (schema.filtered part).objects ∧
        (schema.literalMatches part).relations.Sublist (schema.filtered part).relations) ↔
      SettlesSigmas part.toList := by
  refine ⟨fun kept => ?_, literalMatches_sublist_filtered⟩
  rw [settlesSigmas_iff]
  intro text occurs
  obtain ⟨object, entity, name⟩ := exists_table (String.ofList text)
  let schema : Schema := { Schema.empty with objects := [object] }
  have isPart : nameContainsLiterally part object.name = true := by
    simpa [nameContainsLiterally, occursIn_iff, name] using occurs
  have literally : object ∈ (schema.literalMatches part).objects :=
    mem_objects_literalMatches.mpr ⟨List.mem_singleton_self object, .inl isPart⟩
  have found := (mem_objects_filtered.mp ((kept schema).1.subset literally)).2
  rw [entity, or_self, name] at found
  simpa [nameContains, occursIn_iff, lowercase] using found

/-- A table whose name has a capital sigma inside a word. -/
def sigmaSources : Sources :=
  (TextFiles.ofList [("a.al", "table 1 \"ΑΣΑ\" \x7b \x7d")]).sources

/-- The sigma ends the word of the text that is looked for, but not that of the name. -/
theorem literalMatches_not_sublist_filtered :
    let schema := Schema.ofSources .none sigmaSources
    (schema.literalMatches "ΑΣ").objects.map (·.name) = ["ΑΣΑ"] ∧
      (schema.filtered "ΑΣ").objects = [] := by
  decide +kernel

end Schema

end TableAtlas
