import TableAtlas.Proofs.DeclarationText

/-!
# Spelled sections

A section lists its declarations with any blanks around them, each with a block behind
it or without one.  The declarations are read in their order, each with its own block
only, whatever the blocks contain and whatever surrounds the section.
-/

namespace TableAtlas.Source

open TableAtlas.Text

variable {α β : Type}

/-- A head that is read in front of any text, and what it declares with the block that
it has there. -/
structure IsHead (recogniser : Recogniser α) (head : List Char) (declared : List Char → α) :
    Prop where
  startsWord : startsWord head = true
  balanced : ∀ {rest}, Balanced rest → Balanced (head ++ rest)
  read : ∀ rest, recogniser.recognise (head ++ rest) =
    some (declared (trailingBlock rest).1, (trailingBlock rest).2)

/-- A text that is read as one declaration, in front of any text that opens no block.
It opens no block itself. -/
structure Spells (recogniser : Recogniser α) (text : List Char) (value : α) : Prop where
  notOpened : ∀ rest, (dropBlanks (text ++ rest)).head? ≠ some '{'
  balanced : ∀ {rest}, Balanced rest → Balanced (text ++ rest)
  read : ∀ {rest}, (dropBlanks rest).head? ≠ some '{' →
    recogniser.all (text ++ rest) = value :: recogniser.all rest

section Words

variable {text : List Char}

private theorem startsWord_append (isWord : startsWord text = true) (rest : List Char) :
    startsWord (text ++ rest) = true := by
  cases text with
  | nil => simp [startsWord] at isWord
  | cons first others => exact isWord

private theorem head?_dropBlanks_of_startsWord (isWord : startsWord text = true) :
    (dropBlanks text).head? ≠ some '{' := by
  cases text with
  | nil => simp
  | cons first others =>
      have firstIsWord : isWordChar first = true := isWord
      have notBlank : isBlank first = false := by
        rw [← Bool.not_eq_true]
        intro blank
        exact absurd firstIsWord (by simp [isWordChar_of_isBlank blank])
      have notBrace : first ≠ '{' := by
        rintro rfl
        exact absurd firstIsWord (by decide)
      simpa [dropBlanks_of_not_blank _ notBlank] using notBrace

end Words

/-- A declaration is spelled by its head with blanks around it and at most one block
behind it. -/
theorem IsHead.spells {recogniser : Recogniser α} {head : List Char} {declared : List Char → α}
    (isHead : IsHead recogniser head declared) (lead : Blanks) (block : Option TrailingBlock)
    (trail : Blanks) :
    Spells recogniser (lead.text ++ (head ++ (TrailingBlock.text block ++ trail.text)))
      (declared (TrailingBlock.contents block)) where
  notOpened rest := by
    have isWord := startsWord_append isHead.startsWord
      (TrailingBlock.text block ++ trail.text ++ rest)
    have notOpened := head?_dropBlanks_of_startsWord isWord
    simpa [lead.dropBlanks_append] using notOpened
  balanced balanced := by
    have behind := TrailingBlock.balanced_append block (trail.balanced_append balanced)
    simpa using lead.balanced_append (isHead.balanced behind)
  read {rest} notOpened := by
    have notOpenedBehind : (dropBlanks (trail.text ++ rest)).head? ≠ some '{' := by
      rwa [trail.dropBlanks_append]
    have read : recogniser.recognise
        (head ++ TrailingBlock.text block ++ (trail.text ++ rest)) =
          some (declared (TrailingBlock.contents block), trail.text ++ rest) := by
      rw [List.append_assoc, isHead.read, TrailingBlock.trailingBlock_append block notOpenedBehind]
    have isWord := startsWord_append isHead.startsWord (TrailingBlock.text block)
    have written : lead.text ++ (head ++ (TrailingBlock.text block ++ trail.text)) ++ rest =
        lead.text ++ (head ++ TrailingBlock.text block ++ (trail.text ++ rest)) := by
      simp
    rw [written, recogniser.all_append_of_not_word _ lead.isWordChar_eq_false_of_mem,
      recogniser.all_append isWord read,
      recogniser.all_append_of_not_word _ trail.isWordChar_eq_false_of_mem]

section Sections

variable {recogniser : Recogniser α} {text : β → List Char} {value : β → α}

theorem Spells.balanced_flatMap (spells : ∀ item, Spells recogniser (text item) (value item))
    (items : List β) : Balanced (items.flatMap text) := by
  induction items with
  | nil => exact .nil
  | cons item items induction => exact (spells item).balanced induction

/-- Spelled declarations are recognised in their order, and nothing else is. -/
theorem Spells.all_flatMap (spells : ∀ item, Spells recogniser (text item) (value item))
    (items : List β) : recogniser.all (items.flatMap text) = items.map value := by
  have endOpensNoBlock : (dropBlanks []).head? ≠ some '{' := by simp
  have recognised := recogniser.all_flatMap_append
    (fun item (_ : item ∈ items) rest _ => (spells item).notOpened rest)
    (fun item _ _ notOpened => (spells item).read notOpened) endOpensNoBlock
  rwa [recogniser.all_of_none (firstMatch_nil _), List.append_nil, List.append_nil] at recognised

/-- The declarations of the first section of its kind are those that are spelled there. -/
theorem Spells.all_sectionBody (spells : ∀ item, Spells recogniser (text item) (value item))
    {letter : Char} {letters before : List Char} (isWord : isWordChar letter = true)
    (different : (letters.all fun other => !sameLetter other letter) = true)
    (noSection : findSection (letter :: letters) before = none)
    (apart : endsInWord false before = false) (items : List β) (after : List Char) :
    recogniser.all (sectionBody (letter :: letters) (before ++ (letter :: letters ++
      ' ' :: '{' :: (items.flatMap text ++ '}' :: after)))) = items.map value := by
  rw [sectionBody_append isWord different noSection apart (balanced_flatMap spells items) after,
    all_flatMap spells]

end Sections

end TableAtlas.Source
