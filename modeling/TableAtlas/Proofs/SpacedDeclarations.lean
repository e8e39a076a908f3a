import TableAtlas.Proofs.BlankedSearch
import TableAtlas.Proofs.LocalHeads
import TableAtlas.Proofs.PropertyReading

/-!
# Spaced declarations

Any blanks may stand between the tokens of a declaration, and a block may follow
it.  The block is taken whole where it is balanced, whatever is written in it, so
the text behind it is read as if the block were not there.

The section that holds the declarations is found behind any text that contains no
section of its kind and ends in no word.
-/

namespace TableAtlas.Source

open TableAtlas.Text

/-! ## Gaps -/

/-- The blanks between two tokens; there may be none. -/
structure Blanks where
  text : List Char
  areBlank : ∀ c ∈ text, isBlank c = true

namespace Blanks

/-- No blanks at all. -/
def none : Blanks :=
  ⟨[], by simp⟩

def space : Blanks :=
  ⟨[' '], List.forall_mem_singleton.mpr rfl⟩

variable (gap : Blanks)

theorem dropBlanks_append (rest : List Char) : dropBlanks (gap.text ++ rest) = dropBlanks rest :=
  List.dropWhile_append_of_pos gap.areBlank

theorem isWordChar_eq_false_of_mem : ∀ c ∈ gap.text, isWordChar c = false :=
  fun c member => isWordChar_of_isBlank (gap.areBlank c member)

theorem all_isPlainChar : gap.text.all isPlainChar = true := by
  rw [List.all_eq_true]
  intro c member
  exact forall_isBlank isPlainChar (by decide +kernel) (gap.areBlank c member)

theorem balanced_append {rest : List Char} (balanced : Balanced rest) :
    Balanced (gap.text ++ rest) :=
  .plain_append gap.all_isPlainChar balanced

theorem readChar_append {mark : Char} (rest : List Char) (notBlank : isBlank mark = false) :
    readChar mark (dropBlanks (gap.text ++ mark :: rest)) = some rest := by
  rw [gap.dropBlanks_append]
  exact readChar_dropBlanks rest notBlank

theorem dropFinalBlanks_append (text : List Char) :
    dropFinalBlanks (text ++ gap.text) = dropFinalBlanks text := by
  have blanks : ∀ c ∈ gap.text.reverse, isBlank c = true :=
    fun c member => gap.areBlank c (List.mem_reverse.mp member)
  simp only [dropFinalBlanks, List.reverse_append, dropBlanks]
  rw [List.dropWhile_append_of_pos blanks]

/-- The blanks around a text that neither starts nor ends with one are trimmed. -/
theorem trim_surrounded (before after : Blanks) {first last : Char} (middle : List Char)
    (firstNotBlank : isBlank first = false) (lastNotBlank : isBlank last = false) :
    trim (before.text ++ (first :: (middle ++ [last]) ++ after.text)) =
      first :: (middle ++ [last]) := by
  have trimmed := trim_eq_self middle firstNotBlank lastNotBlank
  rw [trim, dropBlanks_of_not_blank _ firstNotBlank] at trimmed
  rw [trim, before.dropBlanks_append, List.cons_append, dropBlanks_of_not_blank _ firstNotBlank,
    ← List.cons_append, after.dropFinalBlanks_append, trimmed]

theorem isDecimalDigit_eq_false_of_mem_head? {mark : Char} (rest : List Char)
    (notDigit : isDecimalDigit mark = false) :
    ∀ c ∈ (gap.text ++ mark :: rest).head?, isDecimalDigit c = false := by
  intro c starts
  cases text : gap.text with
  | nil =>
      obtain rfl : mark = c := by simpa [text] using starts
      exact notDigit
  | cons first others =>
      obtain rfl : first = c := by simpa [text] using starts
      have blank := gap.areBlank first (by simp [text])
      have checked : (!isDecimalDigit first) = true :=
        forall_isBlank (fun c => !isDecimalDigit c) (by decide +kernel) blank
      simpa using checked

end Blanks

/-! ## Numbers and names -/

/-- A number in ASCII digits. -/
structure Digits where
  text : List Char
  nonempty : text ≠ []
  areDigits : ∀ c ∈ text, c.isDigit = true

namespace Digits

def ofNat (n : Nat) : Digits :=
  ⟨Nat.toDigits 10 n, Nat.toDigits_ne_nil, fun _ => isDigit_of_mem_toDigits⟩

theorem balanced_append (number : Digits) {rest : List Char} (balanced : Balanced rest) :
    Balanced (number.text ++ rest) := by
  have isPlain : number.text.all isPlainChar = true :=
    List.all_eq_true.mpr fun c member => isPlainChar_of_isDigit (number.areDigits c member)
  exact .plain_append isPlain balanced

theorem readDigits_spaced (before : Blanks) (number : Digits) (after : Blanks) {mark : Char}
    (rest : List Char) (notDigit : isDecimalDigit mark = false) :
    readDigits (dropBlanks (before.text ++ (number.text ++ (after.text ++ mark :: rest)))) =
      some (number.text, after.text ++ mark :: rest) := by
  rw [before.dropBlanks_append, dropBlanks_digits _ number.nonempty number.areDigits]
  exact readDigits_append number.nonempty
    (fun c member => isDecimalDigit_of_isDigit (number.areDigits c member))
    (after.isDecimalDigit_eq_false_of_mem_head? rest notDigit)

end Digits

/-- A name that can be written between double quotes. -/
structure NameText where
  text : List Char
  nonempty : text ≠ []
  unquoted : '"' ∉ text

theorem NameText.readDeclaredName_spaced (before : Blanks) (name : NameText) (after : Blanks)
    (rest : List Char) :
    readDeclaredName (before.text ++ (quotedName name.text ++ (after.text ++ ';' :: rest))) =
      some (trim name.text, rest) := by
  have starts : dropBlanks (before.text ++ (quotedName name.text ++
      (after.text ++ ';' :: rest))) = '"' :: (name.text ++ '"' :: (after.text ++ ';' :: rest)) := by
    rw [before.dropBlanks_append, quotedName_append]
    exact dropBlanks_of_not_blank _ rfl
  have separated : dropBlanks (after.text ++ ';' :: rest) = ';' :: rest := by
    rw [after.dropBlanks_append]
    exact dropBlanks_of_not_blank rest rfl
  exact readDeclaredName_append starts separated name.unquoted name.nonempty

/-! ## Blocks behind declarations -/

/-- A block behind a declaration, which may contain any balanced text. -/
structure TrailingBlock where
  gap : Blanks
  body : List Char
  balanced : Balanced body

namespace TrailingBlock

/-- The block behind a declaration as it is written; nothing if there is none. -/
def text : Option TrailingBlock → List Char
  | none => []
  | some block => block.gap.text ++ '{' :: (block.body ++ ['}'])

/-- What the block behind a declaration contains; nothing if there is none. -/
def contents : Option TrailingBlock → List Char
  | none => []
  | some block => block.body

variable (block : Option TrailingBlock)

theorem balanced_append {rest : List Char} (balanced : Balanced rest) :
    Balanced (text block ++ rest) := by
  cases block with
  | none => exact balanced
  | some block =>
      have whole := block.gap.balanced_append (.block block.balanced balanced)
      simpa [text] using whole

theorem trailingBlock_append {rest : List Char}
    (notOpened : (dropBlanks rest).head? ≠ some '{') :
    trailingBlock (text block ++ rest) = (contents block, rest) := by
  cases block with
  | none => exact trailingBlock_of_not_opened notOpened
  | some block =>
      have opened : dropBlanks (text (some block) ++ rest) =
          '{' :: (block.body ++ '}' :: rest) := by
        simp only [text, List.append_assoc, List.cons_append, List.nil_append,
          block.gap.dropBlanks_append]
        exact dropBlanks_of_not_blank _ rfl
      simp [trailingBlock, opened, block.balanced.splitBlock_append, contents]

end TrailingBlock

/-! ## Heads -/

namespace FieldDeclaration

/-- The head of a field declaration with blanks between its tokens, and the text behind it. -/
def spacedHead (behindKeyword behindParenthesis : Blanks) (number : Digits)
    (behindNumber behindSemicolon : Blanks) (name : NameText) (behindName : Blanks)
    (type rest : List Char) : List Char :=
  ['f', 'i', 'e', 'l', 'd'] ++ (behindKeyword.text ++ '(' :: (behindParenthesis.text ++
    (number.text ++ (behindNumber.text ++ ';' :: (behindSemicolon.text ++
      (quotedName name.text ++ (behindName.text ++ ';' :: (type ++ ')' :: rest))))))))

section SpacedHead

variable (behindKeyword behindParenthesis : Blanks) (number : Digits)
variable (behindNumber behindSemicolon : Blanks) (name : NameText) (behindName : Blanks)
variable {type rest : List Char}

theorem readHead_spacedHead (nonempty : type ≠ []) (argument : isArgument false type = true)
    (rest : List Char) :
    readHead (spacedHead behindKeyword behindParenthesis number behindNumber behindSemicolon name
        behindName type rest) =
      some (⟨number.text, trim name.text, trim type, []⟩, rest) := by
  have opening : ∀ inside, readChar '(' (dropBlanks (behindKeyword.text ++ '(' :: inside)) =
      some inside :=
    fun inside => behindKeyword.readChar_append inside rfl
  have numbered : ∀ inside, readDigits (dropBlanks (behindParenthesis.text ++
      (number.text ++ (behindNumber.text ++ ';' :: inside)))) =
        some (number.text, behindNumber.text ++ ';' :: inside) :=
    fun inside => number.readDigits_spaced behindParenthesis behindNumber inside rfl
  have separator : ∀ inside, readChar ';' (dropBlanks (behindNumber.text ++ ';' :: inside)) =
      some inside :=
    fun inside => behindNumber.readChar_append inside rfl
  have named : ∀ inside, readDeclaredName (behindSemicolon.text ++ (quotedName name.text ++
      (behindName.text ++ ';' :: inside))) = some (trim name.text, inside) :=
    fun inside => name.readDeclaredName_spaced behindSemicolon behindName inside
  have typed : ∀ closed, readArguments (type ++ ')' :: closed) = some (type, closed) :=
    fun closed => readArguments_append closed nonempty argument
  simp only [readHead, spacedHead, readKeyword_append, Option.bind_eq_bind, Option.bind_some,
    opening, numbered, separator, named, typed, Option.pure_def]

theorem balanced_spacedHead (typeBalanced : Balanced type) (balanced : Balanced rest) :
    Balanced (spacedHead behindKeyword behindParenthesis number behindNumber behindSemicolon name
      behindName type rest) := by
  have closed := Balanced.plain (c := ')') rfl balanced
  have typed := Balanced.plain (c := ';') rfl (typeBalanced.append closed (by simp))
  have named := (behindName.balanced_append typed).quotedName_append name.unquoted
  have separated := Balanced.plain (c := ';') rfl (behindSemicolon.balanced_append named)
  have numbered := number.balanced_append (behindNumber.balanced_append separated)
  have opened := Balanced.plain (c := '(') rfl (behindParenthesis.balanced_append numbered)
  exact .plain_append rfl (behindKeyword.balanced_append opened)

end SpacedHead

end FieldDeclaration

namespace KeyDeclaration

/-- The head of a key declaration with blanks between its tokens, and the text behind it. -/
def spacedHead (behindKeyword behindParenthesis : Blanks) (name : NameText) (behindName : Blanks)
    (list rest : List Char) : List Char :=
  ['k', 'e', 'y'] ++ (behindKeyword.text ++ '(' :: (behindParenthesis.text ++
    (quotedName name.text ++ (behindName.text ++ ';' :: (list ++ ')' :: rest)))))

section SpacedHead

variable (behindKeyword behindParenthesis : Blanks) (name : NameText) (behindName : Blanks)
variable {list rest : List Char}

theorem readHead_spacedHead (nonempty : list ≠ []) (argument : isArgument false list = true)
    (rest : List Char) :
    readHead (spacedHead behindKeyword behindParenthesis name behindName list rest) =
      some (⟨trim name.text, listedNames list⟩, rest) := by
  have opening : ∀ inside, readChar '(' (dropBlanks (behindKeyword.text ++ '(' :: inside)) =
      some inside :=
    fun inside => behindKeyword.readChar_append inside rfl
  have named : ∀ inside, readDeclaredName (behindParenthesis.text ++ (quotedName name.text ++
      (behindName.text ++ ';' :: inside))) = some (trim name.text, inside) :=
    fun inside => name.readDeclaredName_spaced behindParenthesis behindName inside
  have listed : ∀ closed, readArguments (list ++ ')' :: closed) = some (list, closed) :=
    fun closed => readArguments_append closed nonempty argument
  simp only [readHead, spacedHead, readKeyword_append, Option.bind_eq_bind, Option.bind_some,
    opening, named, listed, Option.pure_def]

theorem balanced_spacedHead (listBalanced : Balanced list) (balanced : Balanced rest) :
    Balanced (spacedHead behindKeyword behindParenthesis name behindName list rest) := by
  have closed := Balanced.plain (c := ')') rfl balanced
  have listed := Balanced.plain (c := ';') rfl (listBalanced.append closed (by simp))
  have named := (behindName.balanced_append listed).quotedName_append name.unquoted
  have opened := Balanced.plain (c := '(') rfl (behindParenthesis.balanced_append named)
  exact .plain_append rfl (behindKeyword.balanced_append opened)

end SpacedHead

end KeyDeclaration

/-! ## Sections -/

section Sections

variable {letter mark : Char} {letters : List Char}

/-- A word that is not found in front of another one does not run into it. -/
private theorem readMarked_eq_none_in_front
    (different : (letters.all fun other => !sameLetter other letter) = true)
    (notBlank : isBlank letter = false) (notMark : letter ≠ mark) {c : Char} {front : List Char}
    (unread : readMarked (letter :: letters) mark (c :: front) = none) (rest : List Char) :
    readMarked (letter :: letters) mark (c :: front ++ letter :: rest) = none := by
  by_cases same : sameLetter letter c = true
  · simp only [readMarked, List.cons_append, readKeyword, same, if_true,
      readKeyword_separated different] at unread ⊢
    cases keyword : readKeyword letters front with
    | none => rfl
    | some found =>
        simp only [keyword, Option.map_some, Option.bind_eq_bind, Option.bind_some,
          dropBlanks_separated notBlank] at unread ⊢
        cases blanks : dropBlanks found.2 with
        | nil => simp [readChar, notMark]
        | cons d left => simpa [blanks, readChar] using unread
  · simp [readMarked, readKeyword, same]

/-- A search finds the first place where the word stands with its mark, behind any
text that contains no such place and ends in no word. -/
theorem firstMatch_readMarked_append (isWord : isWordChar letter = true)
    (different : (letters.all fun other => !sameLetter other letter) = true)
    (markNotWord : isWordChar mark = false) (markNotBlank : isBlank mark = false)
    {afterWord : Bool} {before : List Char}
    (unmatched : firstMatch (readMarked (letter :: letters) mark) afterWord before = none)
    (apart : endsInWord afterWord before = false) (after : List Char) :
    firstMatch (readMarked (letter :: letters) mark) afterWord
      (before ++ (letter :: letters ++ ' ' :: mark :: after)) = some (before, after) := by
  induction before generalizing afterWord with
  | nil =>
      obtain rfl : afterWord = false := apart
      have read := readMarked_append (letter :: letters) after markNotBlank
      exact firstMatch_of_recognised isWord read
  | cons c before induction =>
      have notBlank : isBlank letter = false := by
        rw [← Bool.not_eq_true]
        intro blank
        exact absurd isWord (by simp [isWordChar_of_isBlank blank])
      have notMark : letter ≠ mark := by
        rintro rfl
        exact absurd isWord (by simp [markNotWord])
      rw [endsInWord_cons] at apart
      obtain ⟨unrecognised, unmatchedLater⟩ := firstMatch_cons_eq_none_iff.mp unmatched
      have later := induction unmatchedLater apart
      have unrecognisedThere : recognisedAt (readMarked (letter :: letters) mark) afterWord
          (c :: (before ++ (letter :: letters ++ ' ' :: mark :: after))) = none := by
        simp only [recognisedAt, atBoundary, startsWord] at unrecognised ⊢
        by_cases boundary : (afterWord != isWordChar c) = true
        · simp only [boundary, if_true] at unrecognised ⊢
          exact readMarked_eq_none_in_front different notBlank notMark unrecognised _
        · simp [boundary]
      rw [List.cons_append, firstMatch_of_recognisedAt_eq_none unrecognisedThere, later]
      rfl

/-- The first section is found behind any text that contains no such section and ends
in no word, and its block is taken whole. -/
theorem sectionBody_append (isWord : isWordChar letter = true)
    (different : (letters.all fun other => !sameLetter other letter) = true)
    {before content : List Char} (noSection : findSection (letter :: letters) before = none)
    (apart : endsInWord false before = false) (balanced : Balanced content) (after : List Char) :
    sectionBody (letter :: letters)
      (before ++ (letter :: letters ++ ' ' :: '{' :: (content ++ '}' :: after))) = content := by
  have found : findSection (letter :: letters)
      (before ++ (letter :: letters ++ ' ' :: '{' :: (content ++ '}' :: after))) =
        some (before, content ++ '}' :: after) :=
    firstMatch_readMarked_append isWord different rfl rfl noSection apart _
  rw [sectionBody, found]
  simp only [balanced.splitBlock_append]

end Sections

end TableAtlas.Source
