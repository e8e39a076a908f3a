import TableAtlas.Proofs.BlockBodies
import TableAtlas.Proofs.SpelledSections

/-!
# Spelled fields

A field section lists its declarations with any blanks around their tokens, each
with a block of properties or without one.  The fields are read in their order, one
for each declaration that is not computed.  What a block contains tells about its
own declaration only, even if it looks like a further declaration or section.
-/

namespace TableAtlas.Source

open TableAtlas.Text

/-! ## Types -/

/-- The characters that a type has between double quotes only. -/
def typeDelimiters : List Char :=
  ['(', ')', '{', '}', '\'', '/']

/-- Whether a text, which starts inside double quotes or not, pairs its double
quotes and has no delimiter outside them. -/
def isTypeText (inQuotes : Bool) : List Char → Bool
  | [] => !inQuotes
  | c :: rest =>
      (inQuotes || !typeDelimiters.contains c) && isTypeText (inQuotes != (c == '"')) rest

theorem isArgument_of_isTypeText {inQuotes : Bool} {text : List Char}
    (isType : isTypeText inQuotes text = true) : isArgument inQuotes text = true := by
  induction text generalizing inQuotes with
  | nil => exact isType
  | cons c text induction =>
      simp only [isTypeText, Bool.and_eq_true, Bool.or_eq_true, Bool.not_eq_true'] at isType
      obtain ⟨quotedOrPlain, later⟩ := isType
      have notClosing : (c == ')' && !inQuotes) = false := by
        rcases quotedOrPlain with quoted | plain
        · simp [quoted]
        · have different : c ≠ ')' := by
            rintro rfl
            exact absurd plain (by decide)
          simp [different]
      simp [isArgument, notClosing, induction later]

/-- Outside its names in double quotes a type has plain characters only. -/
private theorem balanced_parts_of_isTypeText (text : List Char) :
    (isTypeText false text = true → Balanced text) ∧
      (isTypeText true text = true →
        ∃ inside rest, '"' ∉ inside ∧ text = inside ++ '"' :: rest ∧ Balanced rest) := by
  induction text with
  | nil => exact ⟨fun _ => .nil, fun isType => absurd isType (by decide)⟩
  | cons c text induction =>
      obtain ⟨outside, within⟩ := induction
      simp only [isTypeText, Bool.and_eq_true, Bool.or_eq_true, Bool.not_eq_true', Bool.false_bne,
        Bool.true_bne, reduceCtorEq, false_or, true_or, true_and]
      constructor
      · rintro ⟨plain, later⟩
        by_cases isQuote : c = '"'
        · subst c
          obtain ⟨inside, rest, absent, rfl, balanced⟩ := within later
          exact .string (.inr rfl) absent balanced
        · have isPlain : isPlainChar c = true := by
            simp only [typeDelimiters, List.contains_eq_mem, List.mem_cons, List.not_mem_nil,
              or_false, decide_eq_false_iff_not, not_or] at plain
            simp [isPlainChar, isQuote, plain]
          have unquoted : (c == '"') = false := by simpa using isQuote
          exact .plain isPlain (outside (by rwa [unquoted] at later))
      · intro later
        by_cases isQuote : c = '"'
        · subst c
          exact ⟨[], text, by simp, rfl, outside later⟩
        · have unquoted : (c == '"') = false := by simpa using isQuote
          obtain ⟨inside, rest, absent, rfl, balanced⟩ := within (by rwa [unquoted] at later)
          exact ⟨c :: inside, rest, by simp [absent, Ne.symm isQuote], rfl, balanced⟩

theorem balanced_of_isTypeText {text : List Char} (isType : isTypeText false text = true) :
    Balanced text :=
  (balanced_parts_of_isTypeText text).1 isType

/-- The type of a field as it may be spelled, with the blanks around it. -/
structure TypeText where
  text : List Char
  nonempty : text ≠ []
  isType : isTypeText false text = true

/-! ## Declarations -/

/-- A field declaration as it may be spelled, with any blanks between its tokens and at
most one block behind it. -/
structure SpelledField where
  lead : Blanks
  behindKeyword : Blanks
  behindParenthesis : Blanks
  number : Digits
  behindNumber : Blanks
  behindSemicolon : Blanks
  name : NameText
  behindName : Blanks
  type : TypeText
  block : Option TrailingBlock
  trail : Blanks

namespace SpelledField

/-- A spelled declaration up to its closing parenthesis, and the text behind it. -/
def headBefore (field : SpelledField) (rest : List Char) : List Char :=
  FieldDeclaration.spacedHead field.behindKeyword field.behindParenthesis field.number
    field.behindNumber field.behindSemicolon field.name field.behindName field.type.text rest

/-- A spelled declaration with the blanks around it and the block behind it. -/
def text (field : SpelledField) : List Char :=
  field.lead.text ++ field.headBefore (TrailingBlock.text field.block ++ field.trail.text)

/-- What is declared: the number, the trimmed name and type, and the properties in the
declaration's own block. -/
def declaration (field : SpelledField) : FieldDeclaration :=
  ⟨field.number.text, trim field.name.text, trim field.type.text,
    TrailingBlock.contents field.block⟩

variable (field : SpelledField)

theorem headBefore_append (rest : List Char) :
    field.headBefore [] ++ rest = field.headBefore rest := by
  simp [headBefore, FieldDeclaration.spacedHead]

theorem isHead : IsHead FieldDeclaration.recogniser (field.headBefore [])
    (FieldDeclaration.mk field.number.text (trim field.name.text) (trim field.type.text)) where
  startsWord := rfl
  balanced {rest} balanced := by
    rw [headBefore_append]
    exact FieldDeclaration.balanced_spacedHead _ _ _ _ _ _ _
      (balanced_of_isTypeText field.type.isType) balanced
  read rest := by
    have head : FieldDeclaration.readHead (field.headBefore rest) =
        some (⟨field.number.text, trim field.name.text, trim field.type.text, []⟩, rest) :=
      FieldDeclaration.readHead_spacedHead _ _ _ _ _ _ _ field.type.nonempty
        (isArgument_of_isTypeText field.type.isType) rest
    rw [headBefore_append]
    change FieldDeclaration.read (field.headBefore rest) = _
    rw [FieldDeclaration.read_eq, head]
    rfl

theorem spells : Spells FieldDeclaration.recogniser field.text field.declaration := by
  have spelled := field.isHead.spells field.lead field.block field.trail
  rwa [headBefore_append] at spelled

end SpelledField

/-! ## Sections -/

/-- The stored fields of a body are those of the declarations in its first field
section, in their order.  Each has the number, name and type of its declaration and
the properties of the block behind it. -/
theorem storedFields_spelledFields (common : NamePrefix) {before : List Char}
    (fields : List SpelledField) (after : List Char)
    (noSection : findSection fieldsKeyword before = none)
    (apart : endsInWord false before = false) :
    storedFields common (before ++ (fieldsKeyword ++ ' ' :: '{' ::
        (fields.flatMap SpelledField.text ++ '}' :: after))) =
      (fields.filter fun field => !field.declaration.fieldClass.isComputed).map
        fun field => field.declaration.toField common := by
  have recognised := Spells.all_sectionBody SpelledField.spells (by decide) (by decide) noSection
    apart fields after
  rw [storedFields, fieldsKeyword, recognised, List.filter_map, List.map_map]
  rfl

/-- Properties with a section, a declaration and a brace in a comment among them. -/
def nestedProperties : List Char :=
  "Caption = 'ABC Nr'; code fields \x7b field(9; X; Y) \x7d // \x7d\n".toList

theorem balanced_nestedProperties : Balanced nestedProperties := by
  have closed : closeBlock .code 0 (nestedProperties ++ ['}']) = some (nestedProperties, []) := by
    decide +kernel
  exact (closeBlock_eq_some_iff.mp closed).1

/-- Three spelled declarations: one with such properties, one that is computed, and one
without a block. -/
def spelledSample : List SpelledField :=
  let field (number : Digits) (name : NameText) (type : TypeText)
      (block : Option TrailingBlock) : SpelledField :=
    ⟨.space, .space, .space, number, .space, .space, name, .space, type, block, .space⟩
  let nested : TrailingBlock := ⟨.space, nestedProperties, balanced_nestedProperties⟩
  let computed : TrailingBlock :=
    ⟨.none, "FieldClass = FlowField;".toList, .of_plain (by decide +kernel)⟩
  [field ⟨['1'], by simp, List.forall_mem_singleton.mpr rfl⟩
      ⟨"ABC No.".toList, by decide +kernel, by decide +kernel⟩
      ⟨"Code[20]".toList, by decide +kernel, by decide +kernel⟩ (some nested),
    field ⟨['2'], by simp, List.forall_mem_singleton.mpr rfl⟩
      ⟨"Total".toList, by decide +kernel, by decide +kernel⟩
      ⟨"Decimal".toList, by decide +kernel, by decide +kernel⟩ (some computed),
    field ⟨['3'], by simp, List.forall_mem_singleton.mpr rfl⟩
      ⟨"Kind".toList, by decide +kernel, by decide +kernel⟩
      ⟨"Enum \"A)\"".toList, by decide +kernel, by decide +kernel⟩ none]

theorem storedFields_spelledSample :
    findSection fieldsKeyword "Caption = 'fields'; ".toList = none ∧
      endsInWord false "Caption = 'fields'; ".toList = false ∧
      storedFields ⟨"ABC ".toList⟩ ("Caption = 'fields'; ".toList ++ (fieldsKeyword ++ ' ' :: '{' ::
        (spelledSample.flatMap SpelledField.text ++ '}' :: "field(4; X; Y)".toList))) =
      [{ id := 1, name := "No.", type := "Code[20]", caption := "Nr", fieldClass := .normal,
         relation := "", isPrimaryKey := false, isForeignKey := false, relatedEntity := "",
         relatedField := "" },
       { id := 3, name := "Kind", type := "Enum \"A)\"", caption := "Kind",
         fieldClass := .normal, relation := "", isPrimaryKey := false, isForeignKey := false,
         relatedEntity := "", relatedField := "" }] := by
  have noSection : findSection fieldsKeyword "Caption = 'fields'; ".toList = none := by
    decide +kernel
  have apart : endsInWord false "Caption = 'fields'; ".toList = false := by decide +kernel
  refine ⟨noSection, apart, ?_⟩
  rw [storedFields_spelledFields _ spelledSample _ noSection apart]
  decide +kernel

end TableAtlas.Source
