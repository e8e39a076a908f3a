import TableAtlas.Proofs.BlockBodies
import TableAtlas.Proofs.SpelledSections

/-!
# Spelled keys

A key section lists its declarations with any blanks around their tokens, each with a
block or without one.  The keys are read in their order, each with its name and the
names of its fields, whatever the names and blocks contain.  The first key is the
primary one, and no other.
-/

namespace TableAtlas.Source

open TableAtlas.Text

/-- A key declaration as it may be spelled, with any blanks between its tokens and at
most one block behind it.  It names at least one field. -/
structure SpelledKey where
  lead : Blanks
  behindKeyword : Blanks
  behindParenthesis : Blanks
  name : NameText
  behindName : Blanks
  fields : List SpacedName
  nonempty : fields ≠ []
  block : Option TrailingBlock
  trail : Blanks

namespace SpelledKey

/-- A spelled declaration up to its closing parenthesis, and the text behind it. -/
def headBefore (key : SpelledKey) (rest : List Char) : List Char :=
  KeyDeclaration.spacedHead key.behindKeyword key.behindParenthesis key.name key.behindName
    (SpacedName.listText key.fields) rest

/-- A spelled declaration with the blanks around it and the block behind it. -/
def text (key : SpelledKey) : List Char :=
  key.lead.text ++ key.headBefore (TrailingBlock.text key.block ++ key.trail.text)

/-- What is declared: the trimmed name and the trimmed names of the fields. -/
def declaration (key : SpelledKey) : KeyDeclaration :=
  ⟨trim key.name.text, key.fields.map fun field => trim field.name⟩

variable (key : SpelledKey)

theorem headBefore_append (rest : List Char) : key.headBefore [] ++ rest = key.headBefore rest := by
  simp [headBefore, KeyDeclaration.spacedHead]

theorem isHead : IsHead KeyDeclaration.recogniser (key.headBefore []) fun _ => key.declaration where
  startsWord := rfl
  balanced {rest} balanced := by
    rw [headBefore_append]
    exact KeyDeclaration.balanced_spacedHead _ _ _ _ (SpacedName.balanced_listText key.fields)
      balanced
  read rest := by
    have head : KeyDeclaration.readHead (key.headBefore rest) = some (key.declaration, rest) := by
      have listed := SpacedName.listedNames_listText key.nonempty
      rw [declaration, ← listed]
      exact KeyDeclaration.readHead_spacedHead _ _ _ _ (SpacedName.listText_ne_nil key.nonempty)
        (SpacedName.isArgument_listText key.fields) rest
    rw [headBefore_append]
    change KeyDeclaration.read (key.headBefore rest) = _
    rw [KeyDeclaration.read_eq, head]
    rfl

theorem spells : Spells KeyDeclaration.recogniser key.text key.declaration := by
  have spelled := key.isHead.spells key.lead key.block key.trail
  rwa [headBefore_append] at spelled

theorem toKey_declaration (common : NamePrefix) (isPrimary : Bool) :
    key.declaration.toKey common isPrimary =
      { name := String.ofList (common.strip (trim key.name.text))
        fields := key.fields.map fun field => String.ofList (common.strip (trim field.name))
        isPrimaryKey := isPrimary } := by
  simp [KeyDeclaration.toKey, declaration]

end SpelledKey

/-- The keys of a body are those of the declarations in its first key section, in their
order.  Each has the trimmed name and the trimmed field names of its declaration, without
the common prefix, and exactly the first key is primary. -/
theorem declaredKeys_spelledKeys (common : NamePrefix) {before : List Char}
    (keys : List SpelledKey) (after : List Char) (noSection : findSection keysKeyword before = none)
    (apart : endsInWord false before = false) :
    declaredKeys common (before ++ (keysKeyword ++ ' ' :: '{' ::
        (keys.flatMap SpelledKey.text ++ '}' :: after))) =
      keys.mapIdx fun position key =>
        { name := String.ofList (common.strip (trim key.name.text))
          fields := key.fields.map fun field => String.ofList (common.strip (trim field.name))
          isPrimaryKey := position == 0 } := by
  have recognised := Spells.all_sectionBody SpelledKey.spells (by decide) (by decide) noSection
    apart keys after
  rw [declaredKeys, keysKeyword, recognised]
  cases keys with
  | nil => rfl
  | cons first others =>
      simp only [List.map_cons, List.mapIdx_cons, List.map_map, Function.comp_def,
        SpelledKey.toKey_declaration]
      congr 1
      apply List.ext_getElem
      · simp
      · intro position _ _
        simp

/-- A block with a section, a declaration and a brace in a comment. -/
def nestedKeys : List Char :=
  "keys \x7b key(A; \"B\") \x7d // \x7d\n".toList

theorem balanced_nestedKeys : Balanced nestedKeys := by
  have closed : closeBlock .code 0 (nestedKeys ++ ['}']) = some (nestedKeys, []) := by
    decide +kernel
  exact (closeBlock_eq_some_iff.mp closed).1

/-- Two spelled declarations, with separators in their names and a block behind the first. -/
def spelledKeySample : List SpelledKey :=
  let listed (name : List Char) (unquoted : '"' ∉ name) (notBlank : trim name ≠ []) : SpacedName :=
    ⟨.space, name, .space, unquoted, notBlank⟩
  let key (name : NameText) (fields : List SpacedName) (nonempty : fields ≠ [])
      (block : Option TrailingBlock) : SpelledKey :=
    ⟨.space, .space, .space, name, .space, fields, nonempty, block, .space⟩
  [key ⟨"ABC K; (1)".toList, by decide +kernel, by decide +kernel⟩
      [listed "ABC No., \x7b".toList (by decide +kernel) (by decide +kernel),
        listed "Line) ".toList (by decide +kernel) (by decide +kernel)]
      (by simp) (some ⟨.space, nestedKeys, balanced_nestedKeys⟩),
    key ⟨"SK".toList, by decide +kernel, by decide +kernel⟩
      [listed "Code".toList (by decide +kernel) (by decide +kernel)] (by simp) none]

theorem declaredKeys_spelledKeySample :
    findSection keysKeyword "Caption = 'keys'; ".toList = none ∧
      endsInWord false "Caption = 'keys'; ".toList = false ∧
      declaredKeys ⟨"ABC ".toList⟩ ("Caption = 'keys'; ".toList ++ (keysKeyword ++ ' ' :: '{' ::
        (spelledKeySample.flatMap SpelledKey.text ++ '}' :: "key(X; \"Y\")".toList))) =
      [{ name := "K; (1)", fields := ["No., \x7b", "Line)"], isPrimaryKey := true },
       { name := "SK", fields := ["Code"], isPrimaryKey := false }] := by
  have noSection : findSection keysKeyword "Caption = 'keys'; ".toList = none := by decide +kernel
  have apart : endsInWord false "Caption = 'keys'; ".toList = false := by decide +kernel
  refine ⟨noSection, apart, ?_⟩
  rw [declaredKeys_spelledKeys _ spelledKeySample _ noSection apart]
  decide +kernel

end TableAtlas.Source
