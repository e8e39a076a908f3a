import TableAtlas.Proofs.SpacedDeclarations
import TableAtlas.Proofs.TargetResolution

/-!
# Conditions of relation expressions

A condition starts at a keyword outside double quotes.  A keyword is a whole run of
ASCII letters, digits and underscores in any letter case.  Nothing between double
quotes is a keyword, so quoted names are resolved whatever they contain and whatever
condition follows them.

A bare word may have letters beyond ASCII, which belong to the word but to none of
its runs.  It is resolved whole exactly if none of its runs is a keyword.
-/

namespace TableAtlas.Source

open TableAtlas.Text

/-! ## Keywords -/

/-- The words that introduce a condition, in lowercase. -/
def conditionKeywords : List (List Char) :=
  [['w', 'h', 'e', 'r', 'e'], ['i', 'f']]

/-- Whether a word introduces a condition, in whatever letter case it is spelled. -/
def IsConditionKeyword (word : List Char) : Prop :=
  word.map Char.toLower ∈ conditionKeywords

instance (word : List Char) : Decidable (IsConditionKeyword word) :=
  inferInstanceAs (Decidable (_ ∈ _))

theorem isAlpha_of_mem_conditionKeywords {keyword : List Char}
    (member : keyword ∈ conditionKeywords) : ∀ letter ∈ keyword, letter.isAlpha = true := by
  have checked : (conditionKeywords.all fun keyword => keyword.all Char.isAlpha) = true := by
    decide
  simp only [List.all_eq_true] at checked
  exact checked keyword member

theorem not_isConditionKeyword_nil : ¬IsConditionKeyword [] := by
  decide

theorem isKeywordChar_of_isAlpha {c : Char} (isLetter : c.isAlpha = true) :
    isKeywordChar c = true := by
  simp [isKeywordChar, Char.isAlphanum, isLetter]

theorem startsKeyword_iff {keyword : List Char}
    (areLetters : ∀ letter ∈ keyword, letter.isAlpha = true) (text : List Char) :
    startsKeyword keyword text = true ↔
      (text.takeWhile isKeywordChar).map Char.toLower = keyword := by
  induction keyword generalizing text with
  | nil =>
      cases text with
      | nil => simp [startsKeyword]
      | cons c rest =>
          by_cases continued : isKeywordChar c = true <;> simp [startsKeyword, continued]
  | cons letter letters induction =>
      cases text with
      | nil => simp [startsKeyword]
      | cons c rest =>
          have later := induction (fun other member => areLetters other (by simp [member])) rest
          by_cases continued : isKeywordChar c = true
          · simp [startsKeyword, continued, later]
          · have different : c.toLower ≠ letter := by
              rintro rfl
              have isLetter := isAlpha_of_isAlpha_toLower (areLetters c.toLower (by simp))
              exact continued (isKeywordChar_of_isAlpha isLetter)
            simp [startsKeyword, continued, different]

theorem startsCondition_iff (text : List Char) :
    startsCondition text = true ↔ IsConditionKeyword (text.takeWhile isKeywordChar) := by
  have isWhere := startsKeyword_iff (isAlpha_of_mem_conditionKeywords (List.mem_cons_self ..)) text
  have isIf := startsKeyword_iff
    (isAlpha_of_mem_conditionKeywords (List.mem_cons_of_mem _ (List.mem_singleton_self _))) text
  rw [startsCondition, Bool.or_eq_true, isWhere, isIf]
  simp [IsConditionKeyword, conditionKeywords]

/-! ## Cuts -/

theorem isPrefix_cutCondition (inQuotes afterKeywordChar : Bool) (text : List Char) :
    cutCondition inQuotes afterKeywordChar text <+: text := by
  induction text generalizing inQuotes afterKeywordChar with
  | nil => exact List.prefix_rfl
  | cons c rest induction =>
      simp only [cutCondition]
      split
      · exact List.nil_prefix
      · exact List.prefix_cons_inj c |>.mpr (induction _ _)

/-- Outside quotes an expression is cut at a keyword that does not continue a word. -/
theorem cutCondition_keyword {keyword content : List Char}
    (isKeyword : IsConditionKeyword keyword)
    (ended : ∀ c ∈ content.head?, isKeywordChar c = false) :
    cutCondition false false (keyword ++ content) = [] := by
  have areKeywordChars : ∀ c ∈ keyword, isKeywordChar c = true := by
    intro c member
    have isLetter := isAlpha_of_mem_conditionKeywords isKeyword c.toLower
      (List.mem_map_of_mem member)
    exact isKeywordChar_of_isAlpha (isAlpha_of_isAlpha_toLower isLetter)
  have starts : startsCondition (keyword ++ content) = true := by
    rw [startsCondition_iff, takeWhile_append_of_ended areKeywordChars ended]
    exact isKeyword
  cases keyword with
  | nil => exact absurd isKeyword not_isConditionKeyword_nil
  | cons first others =>
      rw [List.cons_append] at starts ⊢
      simp [cutCondition, starts]

/-- Outside quotes nothing is cut before the end of a text that has neither keyword
characters nor quotes. -/
theorem cutCondition_append {front : List Char}
    (separates : ∀ c ∈ front, isKeywordChar c = false ∧ c ≠ '"') (rest : List Char) :
    cutCondition false false (front ++ rest) = front ++ cutCondition false false rest := by
  induction front with
  | nil => rfl
  | cons c front induction =>
      obtain ⟨separating, unquoted⟩ := separates c (by simp)
      have noKeyword : startsCondition (c :: (front ++ rest)) = false := by
        rw [← Bool.not_eq_true, startsCondition_iff]
        simp [separating, not_isConditionKeyword_nil]
      have notQuote : (c == '"') = false := by simpa using unquoted
      have later := induction fun other member => separates other (by simp [member])
      simp [cutCondition, noKeyword, separating, notQuote, later]

theorem Blanks.separates (gap : Blanks) :
    ∀ c ∈ gap.text, isKeywordChar c = false ∧ c ≠ '"' := by
  intro c member
  have checked : (!isKeywordChar c && c != '"') = true :=
    forall_isBlank (fun c => !isKeywordChar c && c != '"') (by decide +kernel)
      (gap.areBlank c member)
  simpa using checked

/-! ## Quoted names -/

/-- A condition with the blanks in front of it.  The keyword may be spelled in any letter
case, and what follows it does not continue it. -/
structure SpelledCondition where
  gap : Blanks
  keyword : List Char
  content : List Char
  isKeyword : IsConditionKeyword keyword
  ended : ∀ c ∈ content.head?, isKeywordChar c = false

namespace SpelledCondition

/-- The text of a condition; nothing if there is none. -/
def text : Option SpelledCondition → List Char
  | none => []
  | some condition => condition.gap.text ++ (condition.keyword ++ condition.content)

/-- A condition is cut off, up to the blanks in front of it. -/
theorem cutCondition_text (condition : Option SpelledCondition) :
    ∃ gap : Blanks, cutCondition false false (text condition) = gap.text := by
  cases condition with
  | none => exact ⟨.none, rfl⟩
  | some condition =>
      refine ⟨condition.gap, ?_⟩
      rw [text, cutCondition_append condition.gap.separates,
        cutCondition_keyword condition.isKeyword condition.ended, List.append_nil]

end SpelledCondition

/-- A field name behind a dot, with blanks around the dot. -/
structure DottedName where
  beforeDot : Blanks
  afterDot : Blanks
  name : NameText

namespace DottedName

/-- The text of a field name with its dot; nothing if there is none. -/
def text : Option DottedName → List Char
  | none => []
  | some field =>
      field.beforeDot.text ++ '.' :: (field.afterDot.text ++ quotedName field.name.text)

end DottedName

/-- A relation expression with quoted names, and possibly a condition. -/
def spelledExpression (entity : NameText) (field : Option DottedName)
    (condition : Option SpelledCondition) : List Char :=
  quotedName entity.text ++ (DottedName.text field ++ SpelledCondition.text condition)

namespace RelationTarget

private theorem trim_cutCondition (entity : NameText) (field : Option DottedName)
    (condition : Option SpelledCondition) :
    trim (cutCondition false false (spelledExpression entity field condition)) =
      quotedName entity.text ++ DottedName.text field := by
  obtain ⟨gap, cut⟩ := SpelledCondition.cutCondition_text condition
  have cutField : cutCondition false false
      (DottedName.text field ++ SpelledCondition.text condition) =
        DottedName.text field ++ gap.text := by
    cases field with
    | none => exact cut
    | some field =>
        have dot : ∀ c ∈ ['.'], isKeywordChar c = false ∧ c ≠ '"' :=
          List.forall_mem_singleton.mpr (by decide)
        have behindDot : ∀ rest, cutCondition false false ('.' :: rest) =
            '.' :: cutCondition false false rest := cutCondition_append dot
        simp only [DottedName.text, List.append_assoc, List.cons_append]
        rw [cutCondition_append field.beforeDot.separates, behindDot,
          cutCondition_append field.afterDot.separates,
          cutCondition_quotedName _ field.name.unquoted, cut]
  have ends : ∃ middle, quotedName entity.text ++ DottedName.text field =
      '"' :: (middle ++ ['"']) := by
    cases field with
    | none => exact ⟨entity.text, by simp [DottedName.text, quotedName]⟩
    | some field =>
        refine ⟨entity.text ++ '"' :: (field.beforeDot.text ++
          '.' :: (field.afterDot.text ++ '"' :: field.name.text)), ?_⟩
        simp [DottedName.text, quotedName]
  obtain ⟨middle, written⟩ := ends
  rw [spelledExpression, cutCondition_quotedName _ entity.unquoted, cutField,
    ← List.append_assoc, written]
  exact Blanks.none.trim_surrounded gap middle rfl rfl

private theorem readField_text (field : Option DottedName) :
    readField (DottedName.text field) = field.map fun field => field.name.text := by
  cases field with
  | none => rfl
  | some field =>
      have dot : readChar '.' (dropBlanks (DottedName.text (some field))) =
          some (field.afterDot.text ++ quotedName field.name.text) :=
        field.beforeDot.readChar_append _ rfl
      have quote : dropBlanks (field.afterDot.text ++ quotedName field.name.text) =
          quotedName field.name.text := by
        rw [field.afterDot.dropBlanks_append]
        exact dropBlanks_of_not_blank _ rfl
      have named := readName_quotedName [] field.name.unquoted field.name.nonempty
      rw [List.append_nil] at named
      simp [readField, dot, quote, named]

/-- Quoted names are resolved whatever they contain, whatever blanks stand around the
dot and whatever condition follows.  Each of them is stripped of the prefix, and the
field is empty if none is named. -/
theorem ofExpression_spelledExpression (common : NamePrefix) (entity : NameText)
    (field : Option DottedName) (condition : Option SpelledCondition) :
    ofExpression common (spelledExpression entity field condition) =
      ⟨common.strip entity.text,
        (field.map fun field => common.strip field.name.text).getD []⟩ := by
  have named := readName_quotedName (DottedName.text field) entity.unquoted entity.nonempty
  rw [ofExpression, trim_cutCondition, named]
  simp only [readField_text, Option.map_map]
  rfl

/-- A name that ends in a keyword, a field, and a condition that opens another quote. -/
theorem ofExpression_spelledExpression_usedIf :
    let entity : NameText := ⟨"AB Used IF".toList, by decide, by decide⟩
    let field : DottedName := ⟨.space, .space, ⟨"No.".toList, by decide, by decide⟩⟩
    let condition : SpelledCondition :=
      ⟨.space, "wHerE".toList, "(\"x".toList, by decide, fun c member => by cases member; rfl⟩
    let expression := spelledExpression entity (some field) (some condition)
    expression = "\"AB Used IF\" . \"No.\" wHerE(\"x".toList ∧
      ofExpression ⟨"AB ".toList⟩ expression = ⟨"Used IF".toList, "No.".toList⟩ := by
  intro entity field condition expression
  have resolved :=
    ofExpression_spelledExpression ⟨"AB ".toList⟩ entity (some field) (some condition)
  exact ⟨by decide +kernel, resolved.trans (by decide +kernel)⟩

end RelationTarget

/-! ## Bare words -/

/-- The runs of ASCII letters, digits and underscores between the other characters of a
text; a run may be empty. -/
def keywordRuns (text : List Char) : List (List Char) :=
  text.splitOnP fun c => !isKeywordChar c

/-- Whether no run of a text is a keyword. -/
def FreeOfKeywords (text : List Char) : Prop :=
  ∀ run ∈ keywordRuns text, ¬IsConditionKeyword run

instance (text : List Char) : Decidable (FreeOfKeywords text) :=
  inferInstanceAs (Decidable (∀ run ∈ keywordRuns text, ¬IsConditionKeyword run))

section Runs

variable {c : Char} (rest : List Char)

theorem keywordRuns_cons_of_not (separating : isKeywordChar c = false) :
    keywordRuns (c :: rest) = [] :: keywordRuns rest := by
  simp [keywordRuns, List.splitOnP_cons_eq_if_modifyHead, separating]

theorem keywordRuns_cons (continued : isKeywordChar c = true) :
    keywordRuns (c :: rest) = (keywordRuns rest).modifyHead (List.cons c) := by
  simp [keywordRuns, List.splitOnP_cons_eq_if_modifyHead, continued]

/-- The first run is the one that the text starts with. -/
theorem keywordRuns_eq (text : List Char) :
    keywordRuns text = text.takeWhile isKeywordChar :: (keywordRuns text).tail := by
  induction text with
  | nil => rfl
  | cons c rest induction =>
      by_cases continued : isKeywordChar c = true
      · rw [keywordRuns_cons rest continued, induction]
        simp [continued]
      · rw [Bool.not_eq_true] at continued
        rw [keywordRuns_cons_of_not rest continued]
        simp [continued]

end Runs

/-- An expression without quotes is kept whole exactly if none of its runs is a keyword.
A run that continues the text in front of the expression does not count. -/
theorem cutCondition_eq_self_iff {afterKeywordChar : Bool} {text : List Char}
    (unquoted : '"' ∉ text) :
    cutCondition false afterKeywordChar text = text ↔
      ∀ run ∈ if afterKeywordChar then (keywordRuns text).tail else keywordRuns text,
        ¬IsConditionKeyword run := by
  induction text generalizing afterKeywordChar with
  | nil =>
      have empty : keywordRuns [] = [[]] := rfl
      cases afterKeywordChar <;> simp [cutCondition, empty, not_isConditionKeyword_nil]
  | cons c rest induction =>
      simp only [List.mem_cons, not_or] at unquoted
      have notQuote : (c == '"') = false := by simpa using Ne.symm unquoted.1
      have later : ∀ after, cutCondition false after rest = rest ↔
          ∀ run ∈ if after then (keywordRuns rest).tail else keywordRuns rest,
            ¬IsConditionKeyword run :=
        fun _ => induction unquoted.2
      by_cases continued : isKeywordChar c = true
      · -- The character belongs to the first run, which is checked where it starts.
        have runs : keywordRuns (c :: rest) =
            (c :: rest).takeWhile isKeywordChar :: (keywordRuns rest).tail := by
          rw [keywordRuns_eq, keywordRuns_cons rest continued, List.tail_modifyHead]
        rw [runs]
        cases afterKeywordChar with
        | true => simpa [cutCondition, notQuote, continued] using later true
        | false =>
            rw [if_neg Bool.false_ne_true, List.forall_mem_cons, ← startsCondition_iff]
            by_cases starts : startsCondition (c :: rest) = true
            · simp [cutCondition, starts]
            · simpa [cutCondition, starts, notQuote, continued] using later true
      · rw [Bool.not_eq_true] at continued
        have noKeyword : startsCondition (c :: rest) = false := by
          rw [← Bool.not_eq_true, startsCondition_iff]
          simp [continued, not_isConditionKeyword_nil]
        have runs := keywordRuns_cons_of_not rest continued
        cases afterKeywordChar <;>
          simpa [cutCondition, noKeyword, notQuote, continued, runs, not_isConditionKeyword_nil]
            using later false

/-- A bare word: word characters of any script. -/
structure BareWord where
  text : List Char
  nonempty : text ≠ []
  areWordChars : ∀ c ∈ text, isWordChar c = true

namespace BareWord

variable (word : BareWord)

theorem unquoted : '"' ∉ word.text := by
  intro member
  exact absurd (word.areWordChars '"' member) (by decide)

theorem isBlank_eq_false_of_mem : ∀ c ∈ word.text, isBlank c = false := by
  intro c member
  rw [← Bool.not_eq_true]
  intro blank
  have isWord := word.areWordChars c member
  rw [isWordChar_of_isBlank blank] at isWord
  exact absurd isWord (by decide)

theorem readName_append (rest : List Char) (ended : ∀ c ∈ rest.head?, isWordChar c = false) :
    readName (word.text ++ rest) = some (word.text, rest) := by
  have taken := takeWhile_append_of_ended word.areWordChars ended
  have left := dropWhile_append_of_ended word.areWordChars ended
  cases text : word.text with
  | nil => exact absurd text word.nonempty
  | cons first others =>
      have notQuote : first ≠ '"' := by
        rintro rfl
        exact word.unquoted (by simp [text])
      rw [text] at taken left
      rw [readName, List.cons_append, readQuotedName_eq_none notQuote, readWord]
      rw [List.cons_append] at taken left
      simp [taken, left]

theorem readName_text : readName word.text = some (word.text, []) := by
  simpa using word.readName_append [] (by simp)

end BareWord

theorem dropBlanks_eq_self {text : List Char} (notBlank : ∀ c ∈ text, isBlank c = false) :
    dropBlanks text = text := by
  cases text with
  | nil => rfl
  | cons c rest => exact dropBlanks_of_not_blank rest (notBlank c (by simp))

theorem trim_of_not_blank {text : List Char} (notBlank : ∀ c ∈ text, isBlank c = false) :
    trim text = text := by
  have keptBackwards : dropBlanks text.reverse = text.reverse :=
    dropBlanks_eq_self fun c member => notBlank c (List.mem_reverse.mp member)
  rw [trim, dropBlanks_eq_self notBlank, dropFinalBlanks, keptBackwards, List.reverse_reverse]

theorem length_trim_le (text : List Char) : (trim text).length ≤ text.length := by
  have front := (dropBlanks_suffix text).length_le
  have back := (dropBlanks_suffix (dropBlanks text).reverse).length_le
  simp only [List.length_reverse] at back
  simp only [trim, dropFinalBlanks, List.length_reverse]
  omega

theorem length_readName_le {text name rest : List Char}
    (read : readName text = some (name, rest)) : name.length + rest.length ≤ text.length := by
  rcases Option.or_eq_some_iff.mp read with quoted | ⟨-, bare⟩
  · have whole := congrArg List.length (readQuotedName_eq_some_iff.mp quoted).1
    simp only [List.length_cons, List.length_append] at whole
    omega
  · unfold readWord at bare
    split at bare
    · exact absurd bare (by simp)
    · rename_i first others taken
      simp only [Option.some.injEq, Prod.mk.injEq] at bare
      obtain ⟨rfl, rfl⟩ := bare
      have whole := congrArg List.length
        (List.takeWhile_append_dropWhile (p := isWordChar) (l := text))
      rw [taken, List.length_append] at whole
      exact Nat.le_of_eq whole

namespace RelationTarget

theorem length_readField_lt {rest field : List Char} (read : readField rest = some field) :
    field.length < rest.length := by
  simp only [readField, Option.bind_eq_bind, Option.bind_eq_some_iff, Prod.exists, Option.pure_def,
    Option.some.injEq, readChar_eq_some_iff] at read
  obtain ⟨afterDot, dot, name, left, named, rfl⟩ := read
  have dotted := (dropBlanks_suffix rest).length_le
  have behind := (dropBlanks_suffix afterDot).length_le
  have bound := length_readName_le named
  simp only [dot, List.length_cons] at dotted
  omega

theorem length_ofExpression_le {expression : List Char} {target : RelationTarget}
    (resolved : ofExpression .none expression = target) :
    target.entity.length + (if target.field = [] then 0 else target.field.length + 1) ≤
      (cutCondition false false expression).length := by
  have trimmed := length_trim_le (cutCondition false false expression)
  unfold ofExpression at resolved
  split at resolved
  · subst resolved
    simp
  · rename_i entity rest named
    have bound := length_readName_le named
    subst resolved
    simp only [NamePrefix.strip_none]
    cases field : readField rest with
    | none =>
        simp
        omega
    | some name =>
        have shorter := length_readField_lt field
        simp only [Option.map_some, Option.getD_some, NamePrefix.strip_none]
        split <;> omega

/-- An expression whose target takes up all its characters has not been cut. -/
theorem cutCondition_eq_self_of_length {expression : List Char} {target : RelationTarget}
    (resolved : ofExpression .none expression = target)
    (whole : target.entity.length + (if target.field = [] then 0 else target.field.length + 1) =
      expression.length) : cutCondition false false expression = expression := by
  have bound := length_ofExpression_le resolved
  exact (isPrefix_cutCondition false false expression).eq_of_length_le (by omega)

theorem ofExpression_bareWord_iff (word : BareWord) :
    ofExpression .none word.text = ⟨word.text, []⟩ ↔ FreeOfKeywords word.text := by
  have cut : cutCondition false false word.text = word.text ↔ FreeOfKeywords word.text :=
    cutCondition_eq_self_iff word.unquoted
  rw [← cut]
  constructor
  · intro resolved
    exact cutCondition_eq_self_of_length resolved (by simp)
  · intro kept
    rw [ofExpression, kept, trim_of_not_blank word.isBlank_eq_false_of_mem, word.readName_text]
    rfl

theorem ofExpression_dottedWords_iff (word other : BareWord) :
    ofExpression .none (word.text ++ '.' :: other.text) = ⟨word.text, other.text⟩ ↔
      FreeOfKeywords word.text ∧ FreeOfKeywords other.text := by
  have cut : cutCondition false false (word.text ++ '.' :: other.text) =
      word.text ++ '.' :: other.text ↔ FreeOfKeywords word.text ∧ FreeOfKeywords other.text := by
    have unquoted : '"' ∉ word.text ++ '.' :: other.text := by
      simp [word.unquoted, other.unquoted]
    have runs : keywordRuns (word.text ++ '.' :: other.text) =
        keywordRuns word.text ++ keywordRuns other.text :=
      List.splitOnP_append_cons _ _ rfl
    rw [cutCondition_eq_self_iff unquoted]
    simp [FreeOfKeywords, runs, or_imp, forall_and]
  rw [← cut]
  constructor
  · intro resolved
    apply cutCondition_eq_self_of_length resolved
    simp only [other.nonempty, if_false, List.length_append, List.length_cons]
  · intro kept
    have notBlank : ∀ c ∈ word.text ++ '.' :: other.text, isBlank c = false := by
      have dot : isBlank '.' = false := rfl
      simp only [List.forall_mem_append, List.forall_mem_cons]
      exact ⟨word.isBlank_eq_false_of_mem, dot, other.isBlank_eq_false_of_mem⟩
    have named := word.readName_append ('.' :: other.text) (by simp; rfl)
    have field : readField ('.' :: other.text) = some other.text := by
      have dot : dropBlanks ('.' :: other.text) = '.' :: other.text :=
        dropBlanks_of_not_blank _ rfl
      have start := dropBlanks_eq_self other.isBlank_eq_false_of_mem
      simp [readField, dot, readChar, start, other.readName_text]
    rw [ofExpression, kept, trim_of_not_blank notBlank, named]
    simp [field]

/-- Without a prefix a bare word, alone or behind another one and a dot, is resolved
whole exactly if none of its runs of ASCII letters, digits and underscores is a keyword.
For a word without other characters this says that it is not a keyword itself. -/
theorem ofExpression_bareWords_iff (word other : BareWord) :
    (ofExpression .none word.text = ⟨word.text, []⟩ ↔ FreeOfKeywords word.text) ∧
      (ofExpression .none (word.text ++ '.' :: other.text) = ⟨word.text, other.text⟩ ↔
        FreeOfKeywords word.text ∧ FreeOfKeywords other.text) :=
  ⟨ofExpression_bareWord_iff word, ofExpression_dottedWords_iff word other⟩

example : FreeOfKeywords "Elsewhere_if".toList ∧ ¬FreeOfKeywords "Où.If".toList := by
  decide +kernel

/-- A word that ends in a run of its own, behind a letter beyond ASCII. -/
def foreignWord : BareWord :=
  ⟨"Maßif".toList, by decide, List.all_eq_true.mp (by decide +kernel)⟩

/-- A word that is no keyword is cut inside, alone and behind another one. -/
theorem ofExpression_foreignWord :
    ¬IsConditionKeyword foreignWord.text ∧
      ofExpression .none foreignWord.text = ⟨"Maß".toList, []⟩ ∧
      ofExpression .none (foreignWord.text ++ '.' :: foreignWord.text) = ⟨"Maß".toList, []⟩ := by
  decide +kernel

end RelationTarget

end TableAtlas.Source
