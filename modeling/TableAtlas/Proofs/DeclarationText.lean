import TableAtlas.Proofs.NameLists

/-!
# Written declarations

The declarations of fields, keys and tables are written on one line, with names
in double quotes and single spaces between the tokens.  Each of them is read
back whole, whatever text follows it.
-/

namespace TableAtlas

namespace Text.Recogniser

open Source

variable {α : Type}

theorem all_cons (recogniser : Recogniser α) {c : Char} (rest : List Char)
    (notWord : isWordChar c = false) : recogniser.all (c :: rest) = recogniser.all rest := by
  have step := firstMatch_cons recogniser.recognise rest notWord
  cases matched : firstMatch recogniser.recognise false rest with
  | none =>
      rw [matched] at step
      rw [recogniser.all_of_none step, recogniser.all_of_none matched]
  | some found =>
      obtain ⟨skipped, value, left⟩ := found
      rw [matched] at step
      rw [recogniser.all_of_some step, recogniser.all_of_some matched]

theorem all_append (recogniser : Recogniser α) {text rest : List Char} {value : α}
    (isWord : startsWord text = true)
    (read : recogniser.recognise (text ++ rest) = some (value, rest)) :
    recogniser.all (text ++ rest) = value :: recogniser.all rest := by
  cases text with
  | nil => simp [startsWord] at isWord
  | cons first others =>
      rw [List.cons_append] at read ⊢
      exact recogniser.all_of_some (firstMatch_of_recognised isWord read)

theorem all_append_of_not_word (recogniser : Recogniser α) {front : List Char}
    (rest : List Char) (notWord : ∀ c ∈ front, isWordChar c = false) :
    recogniser.all (front ++ rest) = recogniser.all rest := by
  induction front with
  | nil => rfl
  | cons c front induction =>
      rw [List.cons_append, recogniser.all_cons _ (notWord c (by simp)),
        induction fun other member => notWord other (by simp [member])]

/-- Constructs that stand one behind the other are recognised in their order, if each
of them is recognised in front of the others. -/
theorem all_flatMap_append (recogniser : Recogniser α) {β : Type} {text : β → List Char}
    {value : β → α} {admits : List Char → Prop} {items : List β} {last : List Char}
    (admitsText : ∀ item ∈ items, ∀ rest, admits rest → admits (text item ++ rest))
    (recognised : ∀ item ∈ items, ∀ rest, admits rest →
      recogniser.all (text item ++ rest) = value item :: recogniser.all rest)
    (admitsLast : admits last) :
    recogniser.all (items.flatMap text ++ last) = items.map value ++ recogniser.all last := by
  have both : admits (items.flatMap text ++ last) ∧
      recogniser.all (items.flatMap text ++ last) = items.map value ++ recogniser.all last := by
    induction items with
    | nil => exact ⟨admitsLast, rfl⟩
    | cons item items induction =>
        obtain ⟨admitsLater, later⟩ := induction
          (fun other member => admitsText other (by simp [member]))
          (fun other member => recognised other (by simp [member]))
        rw [List.flatMap_cons, List.append_assoc]
        refine ⟨admitsText item (by simp) _ admitsLater, ?_⟩
        rw [recognised item (by simp) _ admitsLater, later]
        rfl
  exact both.2

theorem all_flatMap (recogniser : Recogniser α) {text : α → List Char} {values : List α}
    {before after last : List Char} (beforeNotWord : ∀ c ∈ before, isWordChar c = false)
    (afterNotWord : ∀ c ∈ after, isWordChar c = false)
    (lastNotWord : ∀ c ∈ last, isWordChar c = false)
    (isWord : ∀ value ∈ values, startsWord (text value) = true)
    (read : ∀ value ∈ values, ∀ rest,
      recogniser.recognise (text value ++ rest) = some (value, rest)) :
    recogniser.all ((values.flatMap fun value => before ++ text value ++ after) ++ last) =
      values := by
  have nothing : recogniser.all last = [] := by
    have empty := recogniser.all_append_of_not_word [] lastNotWord
    rwa [List.append_nil, recogniser.all_of_none (firstMatch_nil _)] at empty
  have recognised : ∀ value ∈ values, ∀ rest, True →
      recogniser.all (before ++ text value ++ after ++ rest) = value :: recogniser.all rest := by
    intro value member rest _
    rw [List.append_assoc, List.append_assoc, recogniser.all_append_of_not_word _ beforeNotWord,
      recogniser.all_append (isWord value member) (read value member _),
      recogniser.all_append_of_not_word _ afterNotWord]
  rw [recogniser.all_flatMap_append (fun _ _ _ => id) recognised trivial, nothing,
    List.append_nil, List.map_id']

end Text.Recogniser

namespace Source

open TableAtlas.Text

/-! ## Sections -/

/-- A section with the texts of its declarations, with a space before it. -/
def sectionText (keyword : List Char) (declarations : List (List Char)) : List Char :=
  ' ' :: (keyword ++ ' ' :: '{' :: ((declarations.flatMap fun text => ' ' :: text) ++ [' ', '}']))

theorem findSection_sectionText {keyword front : List Char}
    (passed : PassedOver keyword '{' front) (isWord : startsWord keyword = true)
    (declarations : List (List Char)) (rest : List Char) :
    findSection keyword (front ++ (sectionText keyword declarations ++ rest)) =
      some (front ++ [' '],
        (declarations.flatMap fun text => ' ' :: text) ++ ' ' :: '}' :: rest) := by
  have alone : readSectionHead keyword = fun place => (readMarked keyword '{' place).bind some := by
    funext place
    rw [readSectionHead_eq, Option.bind_fun_some]
  have written : sectionText keyword declarations ++ rest =
      ' ' :: (keyword ++ ' ' :: '{' ::
        ((declarations.flatMap fun text => ' ' :: text) ++ ' ' :: '}' :: rest)) := by
    simp [sectionText]
  rw [findSection, alone, written]
  exact firstMatch_append passed isWord (by decide) rfl

theorem sectionBody_sectionText {keyword front : List Char}
    (passed : PassedOver keyword '{' front) (isWord : startsWord keyword = true)
    {declarations : List (List Char)}
    (balanced : Balanced ((declarations.flatMap fun text => ' ' :: text) ++ [' ']))
    (rest : List Char) :
    sectionBody keyword (front ++ (sectionText keyword declarations ++ rest)) =
      (declarations.flatMap fun text => ' ' :: text) ++ [' '] := by
  have closed := balanced.splitBlock_append rest
  rw [List.append_assoc, List.singleton_append] at closed
  rw [sectionBody, findSection_sectionText passed isWord]
  simp only [closed]

/-- The declarations of a written section are recognised again. -/
theorem all_sectionBody {α : Type} (recogniser : Recogniser α) {keyword front : List Char}
    (passed : PassedOver keyword '{' front) (isKeyword : startsWord keyword = true)
    {text : α → List Char} {values : List α}
    (isWord : ∀ value ∈ values, startsWord (text value) = true)
    (read : ∀ value ∈ values, ∀ rest,
      recogniser.recognise (text value ++ rest) = some (value, rest))
    (balanced : Balanced (((values.map text).flatMap fun text => ' ' :: text) ++ [' ']))
    (rest : List Char) :
    recogniser.all
        (sectionBody keyword (front ++ (sectionText keyword (values.map text) ++ rest))) =
      values := by
  have space : ∀ c ∈ [' '], isWordChar c = false := List.forall_mem_singleton.mpr rfl
  have nothing : ∀ c ∈ ([] : List Char), isWordChar c = false := by simp
  have recognised := recogniser.all_flatMap space nothing space isWord read
  simpa [sectionBody_sectionText passed isKeyword balanced, List.flatMap_map] using recognised

theorem Balanced.flatMap_space {declarations : List (List Char)}
    (balanced : ∀ text ∈ declarations, Balanced text) :
    Balanced (declarations.flatMap fun text => ' ' :: text) := by
  induction declarations with
  | nil => exact .nil
  | cons text declarations induction =>
      have later := induction fun other member => balanced other (by simp [member])
      have separated : (declarations.flatMap fun text => ' ' :: text).head? ≠ some '/' := by
        cases declarations <;> simp
      exact .plain rfl ((balanced text (by simp)).append later separated)

theorem Balanced.flatMap_space_append {declarations : List (List Char)}
    (balanced : ∀ text ∈ declarations, Balanced text) :
    Balanced ((declarations.flatMap fun text => ' ' :: text) ++ [' ']) :=
  (Balanced.flatMap_space balanced).append (.plain rfl .nil) (by simp)

theorem Balanced.sectionText {keyword : List Char} {declarations : List (List Char)}
    (isPlain : keyword.all isPlainChar = true)
    (balanced : ∀ text ∈ declarations, Balanced text) :
    Balanced (sectionText keyword declarations) := by
  have inside := Balanced.flatMap_space_append balanced
  have block : Balanced ('{' :: ((declarations.flatMap fun text => ' ' :: text) ++ [' '] ++
      '}' :: [])) := .block inside .nil
  have spaced := Balanced.plain (c := ' ') rfl block
  have whole := Balanced.plain (c := ' ') rfl (Balanced.plain_append isPlain spaced)
  simpa [Source.sectionText] using whole

theorem PassedOver.fieldSection {declarations : List (List Char)}
    (passed : ∀ text ∈ declarations, PassedOver keysKeyword '{' (' ' :: text)) :
    PassedOver keysKeyword '{' (sectionText fieldsKeyword declarations) := by
  have head : PassedOver keysKeyword '{' (' ' :: (fieldsKeyword ++ [' ']) ++ ['{']) :=
    .of_avoids rfl rfl
  have closing : PassedOver keysKeyword '{' ([' '] ++ ['}']) :=
    .of_avoids rfl rfl
  have whole := head.append ((PassedOver.flatMap passed).append closing)
  simpa [sectionText] using whole

/-! ## Names -/

/-- A name that is written between double quotes and read back from there. -/
structure QuotableName (name : List Char) : Prop where
  unquoted : '"' ∉ name
  nonempty : name ≠ []
  trimmed : trim name = name

/-! ## Fields -/

namespace FieldDeclaration

/-- A field declaration as it is written without its block. -/
def head (declaration : FieldDeclaration) : List Char :=
  ['f', 'i', 'e', 'l', 'd'] ++ '(' :: (declaration.number ++ ';' :: ' ' ::
    (quotedName declaration.name ++ ';' :: (' ' :: declaration.type ++ [')'])))

/-- A field declaration as it is written. -/
def text (declaration : FieldDeclaration) : List Char :=
  declaration.head ++ ' ' :: '{' :: (declaration.properties ++ ['}'])

/-- What a written field declaration must be like to be read back. -/
structure Written (declaration : FieldDeclaration) : Prop where
  number : ∃ id, declaration.number = Nat.toDigits 10 id
  name : QuotableName declaration.name
  typeTrimmed : trim declaration.type = declaration.type
  typeArgument : isArgument false declaration.type = true
  properties : Balanced declaration.properties

theorem startsWord_head (declaration : FieldDeclaration) :
    startsWord declaration.head = true := by
  have isWord : isWordChar 'f' = true := rfl
  exact isWord

theorem startsWord_text (declaration : FieldDeclaration) :
    startsWord declaration.text = true :=
  declaration.startsWord_head

/-- A field declaration is read up to the block that follows it, which gives its properties. -/
theorem read_head {declaration : FieldDeclaration} (written : declaration.Written)
    (rest : List Char) :
    read (declaration.head ++ rest) =
      some ({ declaration with properties := (trailingBlock rest).1 }, (trailingBlock rest).2) := by
  obtain ⟨number, name, type, properties⟩ := declaration
  obtain ⟨⟨id, isNumber⟩, quotable, typeTrimmed, argument, -⟩ := written
  simp only at isNumber quotable typeTrimmed argument
  subst number
  have spaced := readHead_spacedHead .none .none (.ofNat id) .none .space
    ⟨name, quotable.nonempty, quotable.unquoted⟩ .none (List.cons_ne_nil ' ' type) argument rest
  rw [trim_space, typeTrimmed, quotable.trimmed] at spaced
  have isHead : readHead (head ⟨Nat.toDigits 10 id, name, type, properties⟩ ++ rest) =
      some (⟨Nat.toDigits 10 id, name, type, []⟩, rest) := by
    simpa [head, spacedHead, Digits.ofNat, Blanks.none, Blanks.space] using spaced
  rw [read_eq, isHead]
  rfl

/-- A written field declaration is read back, whatever follows it. -/
theorem read_text {declaration : FieldDeclaration} (written : declaration.Written)
    (rest : List Char) : read (declaration.text ++ rest) = some (declaration, rest) := by
  have block := written.properties.trailingBlock_append rest
  have read := read_head written (' ' :: '{' :: (declaration.properties ++ '}' :: rest))
  rw [block] at read
  simpa [text] using read

theorem balanced_text {declaration : FieldDeclaration} (written : declaration.Written)
    (typeBalanced : Balanced declaration.type) : Balanced declaration.text := by
  obtain ⟨id, isNumber⟩ := written.number
  have block : Balanced (' ' :: '{' :: (declaration.properties ++ ['}'])) :=
    .plain rfl (.block written.properties .nil)
  have typed : Balanced (' ' :: declaration.type) := .plain rfl typeBalanced
  have whole := balanced_spacedHead .none .none (.ofNat id) .none .space
    ⟨declaration.name, written.name.nonempty, written.name.unquoted⟩ .none typed block
  simpa [text, head, isNumber, spacedHead, Digits.ofNat, Blanks.none, Blanks.space] using whole

theorem passedOver_text {declaration : FieldDeclaration} {front : List Char}
    (written : declaration.Written)
    (nameAvoids : Avoids keysKeyword '{' declaration.name)
    (typeAvoids : Avoids keysKeyword '{' declaration.type)
    (properties : declaration.properties = front ++ [' '])
    (passed : PassedOver keysKeyword '{' front) :
    PassedOver keysKeyword '{' (' ' :: declaration.text) := by
  obtain ⟨id, isNumber⟩ := written.number
  have punctuated : isPunctuated keysKeyword '{' = true := rfl
  have opening : PassedOver keysKeyword '{' ([' ', 'f', 'i', 'e', 'l', 'd'] ++ ['(']) :=
    .concat_punctuation punctuated (by decide) rfl
  have digits : PassedOver keysKeyword '{' (Nat.toDigits 10 id ++ [';']) := by
    apply PassedOver.concat_punctuation punctuated (by decide)
    apply firstMatch_readMarked_eq_none
    apply all_toDigits
    intro c digit
    have different : sameLetter 'k' c = false := sameLetter_of_isDigit rfl digit
    rw [different, Bool.not_false]
  have space : PassedOver keysKeyword '{' ([' '] ++ ['"']) :=
    .concat_punctuation punctuated (by decide) rfl
  have name : PassedOver keysKeyword '{' (declaration.name ++ ['"']) :=
    .concat_punctuation punctuated (by decide) nameAvoids
  have separator : PassedOver keysKeyword '{' ([] ++ [';']) :=
    .concat_punctuation punctuated (by decide) rfl
  have type : PassedOver keysKeyword '{' (' ' :: declaration.type ++ [')']) := by
    apply PassedOver.concat_punctuation punctuated (by decide)
    rw [Avoids, firstMatch_cons _ _ rfl, typeAvoids, Option.map_none]
  have brace : PassedOver keysKeyword '{' ([' '] ++ ['{']) :=
    .of_avoids rfl rfl
  have closing : PassedOver keysKeyword '{' ([' '] ++ ['}']) :=
    .of_avoids rfl rfl
  have whole := (opening.append digits).append ((space.append name).append
    ((separator.append type).append (brace.append (passed.append closing))))
  simpa [text, head, isNumber, properties, quotedName] using whole

end FieldDeclaration

/-! ## Keys -/

/-- A list of names in double quotes, separated by commas, with a space before it. -/
def nameListText : List (List Char) → List Char
  | [] => [' ']
  | first :: others =>
      ' ' :: (quotedName first ++ others.flatMap fun name => ',' :: ' ' :: quotedName name)

/-- A name as it is written in a list. -/
def QuotableName.spaced {name : List Char} (quotable : QuotableName name) : SpacedName :=
  ⟨.space, name, .none, quotable.unquoted, quotable.trimmed.symm ▸ quotable.nonempty⟩

theorem QuotableName.text_spaced {name : List Char} (quotable : QuotableName name) :
    quotable.spaced.text = ' ' :: quotedName name := by
  simp [spaced, SpacedName.text, Blanks.space, Blanks.none]

section NameLists

variable {names : List (List Char)}

/-- The names of a written list. -/
def spacedNames (quotable : ∀ name ∈ names, QuotableName name) : List SpacedName :=
  names.pmap (fun _ quotable => quotable.spaced) quotable

private theorem listText_spacedNames (quotable : ∀ name ∈ names, QuotableName name)
    (nonempty : names ≠ []) :
    SpacedName.listText (spacedNames quotable) = nameListText names := by
  have elements : (spacedNames quotable).map SpacedName.text =
      names.map fun name => ' ' :: quotedName name := by
    simp [spacedNames, List.map_pmap, QuotableName.text_spaced]
  rw [SpacedName.listText, elements]
  cases names with
  | nil => exact absurd rfl nonempty
  | cons first others =>
      clear quotable nonempty elements
      induction others generalizing first with
      | nil => simp [nameListText]
      | cons second others induction => simpa [nameListText] using induction second

theorem listedNames_nameListText (quotable : ∀ name ∈ names, QuotableName name) :
    listedNames (nameListText names) = names := by
  by_cases empty : names = []
  · subst names
    rfl
  · have nonempty : spacedNames quotable ≠ [] := by simpa [spacedNames] using empty
    have trimmed : ((spacedNames quotable).map fun listed => trim listed.name) = names := by
      rw [spacedNames, List.map_pmap, List.pmap_eq_self]
      exact fun name member => (quotable name member).trimmed
    rw [← listText_spacedNames quotable empty, SpacedName.listedNames_listText nonempty, trimmed]

private theorem isArgument_nameListText (quotable : ∀ name ∈ names, QuotableName name) :
    isArgument false (nameListText names) = true := by
  by_cases empty : names = []
  · subst names
    rfl
  · rw [← listText_spacedNames quotable empty]
    exact SpacedName.isArgument_listText _

private theorem balanced_nameListText (quotable : ∀ name ∈ names, QuotableName name) :
    Balanced (nameListText names) := by
  by_cases empty : names = []
  · subst names
    exact .plain rfl .nil
  · rw [← listText_spacedNames quotable empty]
    exact SpacedName.balanced_listText _

end NameLists

namespace KeyDeclaration

/-- A key declaration as it is written. -/
def text (declaration : KeyDeclaration) : List Char :=
  ['k', 'e', 'y'] ++ '(' :: (quotedName declaration.name ++ ';' ::
    (nameListText declaration.fields ++ ')' :: ' ' :: '{' :: ' ' :: ['}']))

/-- What a written key declaration must be like to be read back. -/
structure Written (declaration : KeyDeclaration) : Prop where
  name : QuotableName declaration.name
  fields : ∀ name ∈ declaration.fields, QuotableName name

theorem startsWord_text (declaration : KeyDeclaration) :
    startsWord declaration.text = true := by
  have isWord : isWordChar 'k' = true := rfl
  exact isWord

/-- A written key declaration is read back, whatever follows it. -/
theorem read_text {declaration : KeyDeclaration} (written : declaration.Written)
    (rest : List Char) : read (declaration.text ++ rest) = some (declaration, rest) := by
  obtain ⟨name, fields⟩ := declaration
  obtain ⟨quotable, fieldsQuotable⟩ := written
  simp only at quotable fieldsQuotable
  have nonempty : nameListText fields ≠ [] := by
    cases fields <;> simp [nameListText]
  have spaced := readHead_spacedHead .none .none ⟨name, quotable.nonempty, quotable.unquoted⟩ .none
    nonempty (isArgument_nameListText fieldsQuotable) (' ' :: '{' :: ([' '] ++ '}' :: rest))
  rw [listedNames_nameListText fieldsQuotable, quotable.trimmed] at spaced
  have isHead : readHead (text ⟨name, fields⟩ ++ rest) =
      some (⟨name, fields⟩, ' ' :: '{' :: ([' '] ++ '}' :: rest)) := by
    simpa [text, spacedHead, Blanks.none] using spaced
  simp only [read_eq, isHead, Option.map_some, Balanced.space.trailingBlock_append]

theorem balanced_text {declaration : KeyDeclaration} (written : declaration.Written) :
    Balanced declaration.text := by
  have block : Balanced (' ' :: '{' :: ([' '] ++ '}' :: [])) :=
    .plain rfl (.block (.plain rfl .nil) .nil)
  have whole := balanced_spacedHead .none .none
    ⟨declaration.name, written.name.nonempty, written.name.unquoted⟩ .none
    (balanced_nameListText written.fields) block
  simpa [text, spacedHead, Blanks.none] using whole

end KeyDeclaration

/-! ## Tables -/

/-- The name of an extended table as it is written; nothing for an empty name. -/
def baseText (base : List Char) : List Char :=
  if base = [] then []
  else ' ' :: (['e', 'x', 't', 'e', 'n', 'd', 's'] ++ ' ' :: quotedName base)

private theorem readObjectName_quotedName {α : Type} (goOn : List Char → Option α)
    {name : List Char} (rest : List Char) (absent : '"' ∉ name) (nonempty : name ≠ []) :
    readObjectName goOn (quotedName name ++ rest) =
      (goOn rest).map fun found => (name, found) := by
  rw [quotedName_append, readObjectName, readQuotedName_append rest absent nonempty]

private theorem readBase_baseText {base : List Char} (absent : '"' ∉ base) (inside : List Char) :
    readBase (baseText base ++ ' ' :: '{' :: inside) = some (base, inside) := by
  have opening : readOpening (' ' :: '{' :: inside) = some inside := by
    rw [readOpening, dropBlanks_space]
    exact readChar_dropBlanks inside rfl
  by_cases empty : base = []
  · subst base
    simp [readBase, baseText, opening]
  · have spelled : baseText base ++ ' ' :: '{' :: inside =
        ' ' :: (['e', 'x', 't', 'e', 'n', 'd', 's'] ++ ' ' ::
          (quotedName base ++ ' ' :: '{' :: inside)) := by
      simp [baseText, empty]
    have keyword : ∀ after, dropBlanks (' ' :: (['e', 'x', 't', 'e', 'n', 'd', 's'] ++ after)) =
        ['e', 'x', 't', 'e', 'n', 'd', 's'] ++ after := by
      intro after
      rw [dropBlanks_space]
      exact dropBlanks_of_not_blank _ rfl
    have notOpening : ∀ after, readOpening
        (' ' :: (['e', 'x', 't', 'e', 'n', 'd', 's'] ++ after)) = none := by
      intro after
      rw [readOpening, keyword]
      rfl
    have blanks : ∀ after, readBlanks (' ' :: (quotedName base ++ after)) =
        some (quotedName base ++ after) := by
      intro after
      rw [readBlanks_space, quotedName_append, dropBlanks_of_not_blank _ rfl]
    rw [spelled]
    simp only [readBase, notOpening, keyword, readKeyword_append, blanks, Option.bind_eq_bind,
      Option.bind_some, readObjectName_quotedName readOpening _ absent empty, opening,
      Option.map_some]

namespace TableDeclaration

/-- A declaration of a table or table extension as it is written. -/
def text (declaration : TableDeclaration) : List Char :=
  declaration.keyword ++ ' ' :: (declaration.number ++ ' ' ::
    (quotedName declaration.name ++ (baseText declaration.base ++
      ' ' :: '{' :: (declaration.body ++ ['}']))))

/-- What a written declaration of a table must be like to be read back. -/
structure Written (declaration : TableDeclaration) : Prop where
  keyword : ∃ kind : ObjectKind, declaration.keyword = kind.keyword.toList
  number : ∃ id, declaration.number = Nat.toDigits 10 id
  nameUnquoted : '"' ∉ declaration.name
  nameNonempty : declaration.name ≠ []
  baseUnquoted : '"' ∉ declaration.base
  body : Balanced declaration.body

theorem startsWord_text {declaration : TableDeclaration} (written : declaration.Written) :
    startsWord declaration.text = true := by
  obtain ⟨kind, keyword⟩ := written.keyword
  have isWord : isWordChar 't' = true := rfl
  cases kind <;> simpa [text, keyword, ObjectKind.keyword, startsWord] using isWord

private theorem readObjectKeyword_append (kind : ObjectKind) (rest : List Char) :
    readObjectKeyword (kind.keyword.toList ++ ' ' :: rest) =
      some (kind.keyword.toList, dropBlanks rest) := by
  cases kind with
  | table =>
      have table : readKeyword ['t', 'a', 'b', 'l', 'e'] (ObjectKind.table.keyword.toList ++
          ' ' :: rest) = some (ObjectKind.table.keyword.toList, ' ' :: rest) :=
        readKeyword_append ['t', 'a', 'b', 'l', 'e'] (' ' :: rest)
      simp only [readObjectKeyword, table, Option.bind_eq_bind, Option.bind_some,
        readBlanks_space, Option.pure_def]
  | tableExtension =>
      have table : readKeyword ['t', 'a', 'b', 'l', 'e']
          (ObjectKind.tableExtension.keyword.toList ++ ' ' :: rest) =
            some (['t', 'a', 'b', 'l', 'e'],
              ['e', 'x', 't', 'e', 'n', 's', 'i', 'o', 'n'] ++ ' ' :: rest) :=
        readKeyword_append ['t', 'a', 'b', 'l', 'e'] _
      have continued : readBlanks (['e', 'x', 't', 'e', 'n', 's', 'i', 'o', 'n'] ++ ' ' :: rest) =
          none := rfl
      simp only [readObjectKeyword, table, Option.bind_eq_bind, Option.bind_some, continued,
        readKeyword_append, readBlanks_space, Option.pure_def]
      rfl

/-- A written declaration of a table is read back, whatever follows it. -/
theorem read_text {declaration : TableDeclaration} (written : declaration.Written)
    (rest : List Char) : read (declaration.text ++ rest) = some (declaration, rest) := by
  obtain ⟨keyword, number, name, base, body⟩ := declaration
  obtain ⟨⟨kind, isKeyword⟩, ⟨id, isNumber⟩, unquoted, nonempty, baseUnquoted, balanced⟩ := written
  simp only at isKeyword isNumber unquoted nonempty baseUnquoted balanced
  subst keyword number
  have spelled : text ⟨kind.keyword.toList, Nat.toDigits 10 id, name, base, body⟩ ++ rest =
      kind.keyword.toList ++ ' ' :: (Nat.toDigits 10 id ++ ' ' ::
        (quotedName name ++ (baseText base ++ ' ' :: '{' :: (body ++ '}' :: rest)))) := by
    simp [text]
  have numbered : ∀ after, readDigits (Nat.toDigits 10 id ++ ' ' :: after) =
      some (Nat.toDigits 10 id, ' ' :: after) :=
    fun after => readDigits_toDigits id after rfl
  have blanks : ∀ after, readBlanks (' ' :: (quotedName name ++ after)) =
      some (quotedName name ++ after) := by
    intro after
    rw [readBlanks_space, quotedName_append, dropBlanks_of_not_blank _ rfl]
  rw [spelled]
  simp only [read, readObjectKeyword_append, dropBlanks_toDigits, numbered, blanks,
    Option.bind_eq_bind, Option.bind_some, readObjectName_quotedName readBase _ unquoted nonempty,
    readBase_baseText baseUnquoted, balanced.splitBlock_append, Option.map_some, Option.pure_def]

end TableDeclaration

end Source

end TableAtlas
