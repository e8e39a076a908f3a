import TableAtlas.Proofs.BalancedText
import TableAtlas.Source.Section

/-!
# Reading tokens back

Every reader takes exactly the token that a text starts with.  The lemmas state
this for a token in front of an arbitrary rest, which is how the proofs about
whole declarations use them.
-/

namespace TableAtlas.Source

open TableAtlas.Text

theorem map_map_eq_self {α β : Type} {write : α → β} {read : β → α} {items : List α}
    (restored : ∀ item ∈ items, read (write item) = item) :
    (items.map write).map read = items := by
  rw [List.map_map]
  calc items.map (read ∘ write) = items.map id := List.map_congr_left restored
    _ = items := List.map_id items

/-! ## Runs of characters -/

section Runs

variable {property : Char → Bool} {front rest : List Char}

theorem takeWhile_append_of_ended (taken : ∀ c ∈ front, property c = true)
    (ended : ∀ c ∈ rest.head?, property c = false) :
    (front ++ rest).takeWhile property = front := by
  have stops : rest.takeWhile property = [] := by
    cases rest with
    | nil => rfl
    | cons c rest => simp [ended c rfl]
  rw [List.takeWhile_append_of_pos taken, stops, List.append_nil]

theorem dropWhile_append_of_ended (taken : ∀ c ∈ front, property c = true)
    (ended : ∀ c ∈ rest.head?, property c = false) :
    (front ++ rest).dropWhile property = rest := by
  have stops : rest.dropWhile property = rest := by
    cases rest with
    | nil => rfl
    | cons c rest => simp [ended c rfl]
  rw [List.dropWhile_append_of_pos taken, stops]

end Runs

/-! ## Blanks and keywords -/

theorem dropBlanks_space (rest : List Char) : dropBlanks (' ' :: rest) = dropBlanks rest := by
  simp [dropBlanks_cons, show isBlank ' ' = true by decide]

theorem dropBlanks_of_not_blank {c : Char} (rest : List Char) (notBlank : isBlank c = false) :
    dropBlanks (c :: rest) = c :: rest := by
  simp [dropBlanks_cons, notBlank]

theorem readChar_dropBlanks {c : Char} (rest : List Char) (notBlank : isBlank c = false) :
    readChar c (dropBlanks (c :: rest)) = some rest := by
  rw [dropBlanks_of_not_blank rest notBlank, readChar, if_pos rfl]

theorem readBlanks_space (rest : List Char) :
    readBlanks (' ' :: rest) = some (dropBlanks rest) := by
  simp [readBlanks, show isBlank ' ' = true by decide]

theorem readKeyword_append (word rest : List Char) :
    readKeyword word (word ++ rest) = some (word, rest) := by
  induction word with
  | nil => rfl
  | cons letter letters induction => simp [readKeyword, induction]

/-! ## Letters -/

theorem isAlpha_iff {c : Char} : c.isAlpha = true ↔ c.isUpper = true ∨ c.isLower = true :=
  Bool.or_eq_true_iff

theorem toNat_lt_of_isAlpha {c : Char} (isLetter : c.isAlpha = true) : c.toNat < 128 := by
  rcases isAlpha_iff.mp isLetter with upper | lower
  · have bound : c.toNat ≤ 90 := (of_decide_eq_true upper).2
    omega
  · have bound : c.toNat ≤ 122 := of_decide_eq_true (Bool.and_eq_true_iff.mp lower).2
    omega

theorem isWordChar_of_isAlpha {c : Char} (isLetter : c.isAlpha = true) :
    isWordChar c = true := by
  simp [isWordChar, toNat_lt_of_isAlpha isLetter, Char.isAlphanum, isLetter]

theorem isAlpha_toLower {c : Char} (isLetter : c.isAlpha = true) : c.toLower.isAlpha = true := by
  have checked : ∀ code < 128, (Char.ofNat code).isAlpha = true →
      (Char.ofNat code).toLower.isAlpha = true := by decide
  have small := toNat_lt_of_isAlpha isLetter
  have lowered := checked c.toNat small
  rw [Char.ofNat_toNat] at lowered
  exact lowered isLetter

theorem isAlpha_of_isAlpha_toLower {c : Char} (isLetter : c.toLower.isAlpha = true) :
    c.isAlpha = true := by
  by_cases capital : c.isUpper = true
  · exact isAlpha_iff.mpr (.inl capital)
  · have kept : c.toLower = c := dif_neg fun isCapital => capital (decide_eq_true isCapital)
    rwa [kept] at isLetter

theorem sameLetter_of_toLower_eq {letter c : Char} (isLetter : letter.isAlpha = true)
    (same : c.toLower = letter.toLower) : sameLetter letter c = true := by
  have isLetterToo : c.isAlpha = true := by
    apply isAlpha_of_isAlpha_toLower
    rw [same]
    exact isAlpha_toLower isLetter
  have small := toNat_lt_of_isAlpha isLetter
  have smallToo := toNat_lt_of_isAlpha isLetterToo
  simp [sameLetter, foldCase, small, smallToo, same]

private theorem lt_of_isAlpha_ofNat {code : Nat} (isLetter : (Char.ofNat code).isAlpha = true) :
    code < 128 := by
  by_cases valid : code.isValidChar
  · have kept : (Char.ofNat code).toNat = code := by
      rw [Char.ofNat, dif_pos valid]
      rfl
    rw [← kept]
    exact toNat_lt_of_isAlpha isLetter
  · have nothing : (Char.ofNat code).isAlpha = false := by
      rw [Char.ofNat, dif_neg valid]
      rfl
    rw [nothing] at isLetter
    exact absurd isLetter (by decide)

/-- A code point is its own lowercase form unless a run covers it, and then its form is
no less than the first form of the run. -/
private theorem lower_eq_self_or (runs : List CaseRun) (code : Nat) :
    CaseRun.lower runs code = code ∨
      ∃ run ∈ runs, run.first ≤ code ∧ code ≤ run.last ∧
        run.target ≤ CaseRun.lower runs code := by
  induction runs with
  | nil => exact .inl rfl
  | cons run later induction =>
      simp only [CaseRun.lower]
      split
      · exact .inl rfl
      · split
        · split
          · exact .inr ⟨run, by simp, by omega, by assumption, by omega⟩
          · exact .inl rfl
        · rcases induction with same | ⟨other, member, bounds⟩
          · exact .inl same
          · exact .inr ⟨other, by simp [member], bounds⟩

/-- Beyond ASCII only the long s and the Kelvin sign fold to letters of ASCII. -/
theorem isAlpha_of_isAlpha_foldCase {c : Char} (isLetter : (foldCase c).isAlpha = true) :
    c.isAlpha = true ∨ c = 'ſ' ∨ c = '\u212A' := by
  by_cases small : c.toNat < 128
  · rw [foldCase, if_pos small] at isLetter
    exact .inl (isAlpha_of_isAlpha_toLower isLetter)
  · rw [foldCase, if_neg small] at isLetter
    split at isLetter
    · exact .inl isLetter
    · split at isLetter
      · rename_i representative found
        obtain ⟨front, behind, parts, -⟩ := List.lookup_eq_some_iff.mp found
        have member : (c.toNat, representative) ∈ caseVariants := by simp [parts]
        have checked : ∀ variant ∈ caseVariants, (Char.ofNat variant.2).isAlpha = true →
            Char.ofNat variant.1 = 'ſ' := by decide +kernel
        exact .inr (.inl (by simpa using checked _ member isLetter))
      · rw [lowerChar, if_neg small] at isLetter
        have bound := lt_of_isAlpha_ofNat isLetter
        have checked : ∀ run ∈ foreignCaseRuns, run.target < 128 →
            run.first = run.last ∧ Char.ofNat run.first = '\u212A' := by decide +kernel
        rcases lower_eq_self_or foreignCaseRuns c.toNat with
          same | ⟨run, member, lower, upper, target⟩
        · omega
        · obtain ⟨single, isKelvin⟩ := checked run member (by omega)
          have code : run.first = c.toNat := by omega
          exact .inr (.inr (by simpa [code] using isKelvin))

private theorem isWordChar_of_isAlpha_foldCase {c : Char}
    (isLetter : (foldCase c).isAlpha = true) : isWordChar c = true := by
  rcases isAlpha_of_isAlpha_foldCase isLetter with ofAscii | rfl | rfl
  · exact isWordChar_of_isAlpha ofAscii
  · decide +kernel
  · decide +kernel

/-- Whatever differs from an ASCII letter at most in case can stand inside a word. -/
theorem isWordChar_of_sameLetter {letter c : Char} (isLetter : letter.isAlpha = true)
    (same : sameLetter letter c = true) : isWordChar c = true := by
  apply isWordChar_of_isAlpha_foldCase
  have folded : foldCase letter = foldCase c := by simpa [sameLetter] using same
  rw [← folded, foldCase, if_pos (toNat_lt_of_isAlpha isLetter)]
  exact isAlpha_toLower isLetter

theorem readKeyword_spelled {word spelled : List Char}
    (areLetters : ∀ letter ∈ word, letter.isAlpha = true)
    (sameWord : spelled.map Char.toLower = word.map Char.toLower) (rest : List Char) :
    readKeyword word (spelled ++ rest) = some (spelled, rest) := by
  induction word generalizing spelled with
  | nil =>
      obtain rfl : spelled = [] := by simpa using sameWord
      rfl
  | cons letter letters induction =>
      cases spelled with
      | nil => simp at sameWord
      | cons c others =>
          simp only [List.map_cons, List.cons.injEq] at sameWord
          have same := sameLetter_of_toLower_eq (areLetters letter (by simp)) sameWord.1
          have later := induction (fun other member => areLetters other (by simp [member]))
            sameWord.2
          simp [readKeyword, same, later]

/-! ## Numbers -/

theorem isBlank_of_isDigit {c : Char} (digit : c.isDigit = true) : isBlank c = false := by
  simp only [Char.isDigit, Bool.and_eq_true, decide_eq_true_eq] at digit
  have lower : 48 ≤ c.toNat := digit.1
  have upper : c.toNat ≤ 57 := digit.2
  simp only [isBlank, blankRanges, inRanges_cons, inRanges_nil, Bool.and_eq_false_iff,
    Bool.or_eq_false_iff, decide_eq_false_iff_not]
  omega

theorem isPlainChar_of_isDigit {c : Char} (digit : c.isDigit = true) :
    isPlainChar c = true := by
  have notDigit : ∀ mark : Char, mark.isDigit = false → c ≠ mark := by
    rintro mark isMark rfl
    simp [digit] at isMark
  simp [isPlainChar, notDigit]

theorem sameLetter_of_isDigit {letter c : Char} (isLetter : (foldCase letter).isDigit = false)
    (digit : c.isDigit = true) : sameLetter letter c = false := by
  have kept : foldCase c = c := by
    have bounds := digit
    simp only [Char.isDigit, Bool.and_eq_true, decide_eq_true_eq] at bounds
    have lower : 48 ≤ c.toNat := bounds.1
    have upper : c.toNat ≤ 57 := bounds.2
    have small : c.toNat < 128 := by omega
    rw [foldCase, if_pos small]
    have notCapital : ¬(c.val ≥ 'A'.val ∧ c.val ≤ 'Z'.val) := by
      rintro ⟨capital, -⟩
      have bound : 65 ≤ c.toNat := capital
      omega
    exact dif_neg notCapital
  have different : foldCase letter ≠ foldCase c := by
    intro same
    rw [kept] at same
    rw [same, digit] at isLetter
    exact absurd isLetter (by decide)
  simpa [sameLetter] using different

theorem isDigit_of_mem_toDigits {n : Nat} {c : Char} (member : c ∈ Nat.toDigits 10 n) :
    c.isDigit = true :=
  Nat.isDigit_of_mem_toDigits (by decide) (by decide) member

theorem all_toDigits {property : Char → Bool} (n : Nat)
    (ofDigit : ∀ {c : Char}, c.isDigit = true → property c = true) :
    (Nat.toDigits 10 n).all property = true := by
  rw [List.all_eq_true]
  intro c member
  exact ofDigit (isDigit_of_mem_toDigits member)

theorem dropBlanks_digits {digits : List Char} (rest : List Char) (nonempty : digits ≠ [])
    (areDigits : ∀ c ∈ digits, c.isDigit = true) :
    dropBlanks (digits ++ rest) = digits ++ rest := by
  cases digits with
  | nil => exact absurd rfl nonempty
  | cons first others =>
      have firstIsDigit := areDigits first (List.mem_cons_self ..)
      exact dropBlanks_of_not_blank _ (isBlank_of_isDigit firstIsDigit)

theorem readDigits_append {digits rest : List Char} (nonempty : digits ≠ [])
    (areDigits : ∀ c ∈ digits, isDecimalDigit c = true)
    (ends : ∀ c ∈ rest.head?, isDecimalDigit c = false) :
    readDigits (digits ++ rest) = some (digits, rest) := by
  rw [readDigits, takeWhile_append_of_ended areDigits ends,
    dropWhile_append_of_ended areDigits ends]
  cases digits with
  | nil => exact absurd rfl nonempty
  | cons first others => rfl

theorem dropBlanks_toDigits (n : Nat) (rest : List Char) :
    dropBlanks (Nat.toDigits 10 n ++ rest) = Nat.toDigits 10 n ++ rest :=
  dropBlanks_digits rest Nat.toDigits_ne_nil fun _ member => isDigit_of_mem_toDigits member

theorem readDigits_toDigits (n : Nat) {c : Char} (rest : List Char)
    (notDigit : isDecimalDigit c = false) :
    readDigits (Nat.toDigits 10 n ++ c :: rest) = some (Nat.toDigits 10 n, c :: rest) :=
  readDigits_append Nat.toDigits_ne_nil
    (fun _ member => isDecimalDigit_of_isDigit (isDigit_of_mem_toDigits member))
    (by simpa using notDigit)

theorem idOfDigits_toDigits {n : Nat} (bound : n < idLimit) :
    idOfDigits (Nat.toDigits 10 n) = n := by
  have isDigit : (Nat.toDigits 10 n).all Char.isDigit = true :=
    all_toDigits n fun digit => digit
  have value : (Nat.toDigits 10 n).foldl
      (fun total c => total * 10 + (c.toNat - '0'.toNat)) 0 = n := by
    have ordered := Nat.ofDigitChars_ten_toDigits (n := n)
    rw [Nat.ofDigitChars_eq_foldl] at ordered
    simpa only [Nat.mul_comm] using ordered
  have isNumber :
      ¬((Nat.toDigits 10 n).isEmpty = true ∨ (!(Nat.toDigits 10 n).all Char.isDigit) = true) := by
    simp [isDigit, Nat.toDigits_ne_nil]
  simp only [idOfDigits, parseId, value, if_neg isNumber, if_pos bound, Option.getD_some]

/-! ## Quoted names -/

theorem readQuotedName_append {name : List Char} (rest : List Char) (absent : '"' ∉ name)
    (nonempty : name ≠ []) :
    readQuotedName ('"' :: (name ++ '"' :: rest)) = some (name, rest) :=
  readQuotedName_eq_some_iff.mpr ⟨rfl, absent, nonempty⟩

theorem readDeclaredName_append {text name afterName rest : List Char}
    (starts : dropBlanks text = '"' :: (name ++ '"' :: afterName))
    (separated : dropBlanks afterName = ';' :: rest) (absent : '"' ∉ name)
    (nonempty : name ≠ []) : readDeclaredName text = some (trim name, rest) := by
  simp [readDeclaredName, starts, readQuotedName_append _ absent nonempty, separated, readChar]

/-! ## Arguments -/

/-- Whether a text, which starts inside double quotes or not, pairs its double
quotes and has no closing parenthesis outside them. -/
def isArgument (inQuotes : Bool) : List Char → Bool
  | [] => !inQuotes
  | c :: rest => !(c == ')' && !inQuotes) && isArgument (inQuotes != (c == '"')) rest

theorem splitAtParenthesis_append {inQuotes : Bool} {text : List Char} (rest : List Char)
    (argument : isArgument inQuotes text = true) :
    splitAtParenthesis inQuotes (text ++ ')' :: rest) = some (text, rest) := by
  induction text generalizing inQuotes with
  | nil =>
      have outside : inQuotes = false := by simpa [isArgument] using argument
      simp [splitAtParenthesis, outside]
  | cons c text induction =>
      simp only [isArgument, Bool.and_eq_true, Bool.not_eq_true', Bool.and_eq_false_iff,
        beq_eq_false_iff_ne, ne_eq, Bool.not_eq_false'] at argument
      obtain ⟨inside, argumentLater⟩ := argument
      have notClosing : ¬(c = ')' ∧ inQuotes = false) := by
        rintro ⟨closing, outside⟩
        rcases inside with notClosing | quoted
        · exact notClosing closing
        · simp [outside] at quoted
      simp [splitAtParenthesis, notClosing, induction argumentLater]

theorem readArguments_append {text : List Char} (rest : List Char) (nonempty : text ≠ [])
    (argument : isArgument false text = true) :
    readArguments (text ++ ')' :: rest) = some (text, rest) := by
  simp [readArguments, splitAtParenthesis_append rest argument, nonempty]

/-! ## Places of a search -/

theorem firstMatch_cons {α : Type} (recognise : List Char → Option α) {c : Char}
    (rest : List Char) (notWord : isWordChar c = false) :
    firstMatch recognise false (c :: rest) =
      (firstMatch recognise false rest).map (prepending [c]) := by
  simp only [firstMatch, recognisedAt, atBoundary, startsWord, notWord]
  rfl

theorem firstMatch_of_recognised {α : Type} {recognise : List Char → Option α} {c : Char}
    {rest : List Char} {found : α} (isWord : isWordChar c = true)
    (recognised : recognise (c :: rest) = some found) :
    firstMatch recognise false (c :: rest) = some ([], found) := by
  simp [firstMatch, recognisedAt, atBoundary, startsWord, isWord, recognised]

@[simp] theorem firstMatch_nil {α : Type} (recognise : List Char → Option α) :
    firstMatch recognise false [] = none := rfl

end TableAtlas.Source
