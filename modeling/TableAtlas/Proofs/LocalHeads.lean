import TableAtlas.Proofs.LocalReading
import TableAtlas.Proofs.PassedText
import TableAtlas.Source.TableDeclaration

/-!
# Local heads

Every head of a declaration or a section ends in a brace or a parenthesis, so
what it is read as does not depend on the text behind it.

The name of a table is the only token that is chosen by what follows it: a bare
name may run into the word `extends`.  At most one end of the name lets the
head go on, so the choice is local as well.
-/

namespace TableAtlas.Source

open TableAtlas.Text

/-! ## Characters of tokens -/

theorem mem_of_inRanges {ranges : List (Nat × Nat)} {code : Nat}
    (inside : inRanges ranges code = true) :
    ∃ range ∈ ranges, range.1 ≤ code ∧ code ≤ range.2 := by
  induction ranges with
  | nil => simp at inside
  | cons range later induction =>
      rw [inRanges_cons, Bool.and_eq_true, Bool.or_eq_true, decide_eq_true_iff,
        decide_eq_true_iff] at inside
      obtain ⟨lower, upper | inLater⟩ := inside
      · exact ⟨range, List.mem_cons_self .., lower, upper⟩
      · obtain ⟨other, member, bounds⟩ := induction inLater
        exact ⟨other, List.mem_cons_of_mem range member, bounds⟩

/-- The code points of all blanks. -/
def blankCodes : List Nat :=
  blankRanges.flatMap fun range => List.range' range.1 (range.2 + 1 - range.1)

/-- There are few blanks, so what holds of all of them can be checked. -/
theorem forall_isBlank (property : Char → Bool)
    (checked : (blankCodes.all fun code => property (Char.ofNat code)) = true) {c : Char}
    (blank : isBlank c = true) : property c = true := by
  obtain ⟨range, member, lower, upper⟩ := mem_of_inRanges blank
  have code : c.toNat ∈ blankCodes := by
    refine List.mem_flatMap.mpr ⟨range, member, ?_⟩
    rw [List.mem_range'_1]
    omega
  have holds := List.all_eq_true.mp checked c.toNat code
  rwa [Char.ofNat_toNat] at holds

theorem isWordChar_of_isBlank {c : Char} (blank : isBlank c = true) : isWordChar c = false := by
  have checked : (!isWordChar c) = true :=
    forall_isBlank (fun c => !isWordChar c) (by decide +kernel) blank
  simpa using checked

/-! ## Names of tables -/

section Names

variable {α : Type} {goOn : List Char → Option α}

theorem readOpening_stretch {text inside : List Char} (taken : readOpening text = some inside) :
    TakesStretch readOpening id text inside :=
  TakesStretch.of_dropBlanks (readChar_stretch taken)

theorem readLongest_eq_none {c : Char} (notWord : isWordChar c = false) (rest : List Char) :
    readLongest goOn (c :: rest) = none := by
  simp [readLongest, notWord]

theorem readLongest_append {word rest : List Char} {found : α} (nonempty : word ≠ [])
    (isWord : ∀ c ∈ word, isWordChar c = true) (longest : readLongest goOn rest = none)
    (recognised : goOn rest = some found) :
    readLongest goOn (word ++ rest) = some (word, found) := by
  induction word with
  | nil => exact absurd rfl nonempty
  | cons c word induction =>
      have first := isWord c (List.mem_cons_self ..)
      cases word with
      | nil => simp [readLongest, first, longest, recognised]
      | cons next word =>
          have later := induction (List.cons_ne_nil next word) fun d member =>
            isWord d (List.mem_cons_of_mem c member)
          rw [List.cons_append, readLongest, if_pos first, later]

theorem isWordChar_of_readLongest {text word : List Char} {found : α}
    (read : readLongest goOn text = some (word, found)) :
    word ≠ [] ∧ ∀ c ∈ word, isWordChar c = true := by
  induction text generalizing word with
  | nil => simp [readLongest] at read
  | cons c rest induction =>
      simp only [readLongest] at read
      split at read
      · rename_i first
        split at read
        · rename_i longer
          simp only [Option.some.injEq, Prod.mk.injEq] at read
          obtain ⟨rfl, rfl⟩ := read
          refine ⟨List.cons_ne_nil _ _, ?_⟩
          exact List.forall_mem_cons.mpr ⟨first, (induction longer).2⟩
        · simp only [Option.map_eq_some_iff, Prod.mk.injEq] at read
          obtain ⟨_, -, rfl, -⟩ := read
          exact ⟨List.cons_ne_nil _ _, by simpa using first⟩
      · exact absurd read (by simp)

theorem readObjectName_stretch {result : List Char → α} {text name rest : List Char}
    (goesOn : ∀ {place}, goOn place = some (result rest) → TakesStretch goOn result place rest)
    (longest : ∀ {place value}, goOn place = some value → readLongest goOn place = none)
    (taken : readObjectName goOn text = some (name, result rest)) :
    TakesStretch (readObjectName goOn) (fun other => (name, result other)) text rest := by
  unfold readObjectName at taken
  split at taken
  · rename_i quoted place isQuoted
    simp only [Option.map_eq_some_iff, Prod.mk.injEq] at taken
    obtain ⟨_, recognised, rfl, rfl⟩ := taken
    obtain ⟨stretch, nonempty, rfl, again⟩ := readQuotedName_stretch isQuoted
    obtain ⟨later, -, rfl, laterAgain⟩ := goesOn recognised
    refine ⟨stretch ++ later, by simp [nonempty], by simp, fun other => ?_⟩
    simp only [List.append_assoc, readObjectName, again, laterAgain, Option.map_some]
  · split at taken
    · exact absurd taken (by simp)
    · rename_i c left _
      split at taken
      · rename_i starts
        obtain ⟨nonempty, isWord⟩ := isWordChar_of_readLongest taken
        obtain ⟨place, whole, recognised⟩ := readLongest_eq_some taken
        obtain ⟨later, -, rfl, laterAgain⟩ := goesOn recognised
        refine ⟨name ++ later, by simp [nonempty], by rw [whole, List.append_assoc], fun other => ?_⟩
        have bare : c ≠ '"' := by
          rintro rfl
          exact absurd starts (by decide)
        obtain ⟨others, isName⟩ : ∃ others, name = c :: others := by
          cases name with
          | nil => exact absurd rfl nonempty
          | cons first others =>
              obtain ⟨rfl, -⟩ := List.cons.inj whole
              exact ⟨others, rfl⟩
        have again := readLongest_append nonempty isWord (longest (laterAgain other))
          (laterAgain other)
        rw [isName, List.cons_append] at again
        simp only [List.append_assoc, isName, List.cons_append, readObjectName,
          readQuotedName_eq_none bare, starts, if_true, again]
      · exact absurd taken (by simp)

theorem readLongest_of_readOpening {text inside : List Char} (read : readOpening text = some inside) :
    readLongest goOn text = none := by
  cases text with
  | nil => rfl
  | cons c rest =>
      apply readLongest_eq_none
      by_cases blank : isBlank c = true
      · exact isWordChar_of_isBlank blank
      · rw [readOpening, dropBlanks_of_not_blank rest (by simpa using blank),
          readChar_eq_some_iff] at read
        obtain ⟨rfl, -⟩ := List.cons.inj read
        rfl

theorem readBaseName_stretch {text name inside : List Char}
    (taken : readObjectName readOpening text = some (name, inside)) :
    TakesStretch (readObjectName readOpening) (fun other => (name, other)) text inside :=
  readObjectName_stretch readOpening_stretch readLongest_of_readOpening taken

end Names

/-! ## Names of extended tables -/

section Bases

/-- The keyword in front of the name of an extended table. -/
def extendsKeyword : List Char := ['e', 'x', 't', 'e', 'n', 'd', 's']

private theorem not_blank_of_sameLetter {letter c : Char} (ofKeyword : letter ∈ extendsKeyword)
    (same : sameLetter letter c = true) : isBlank c = false ∧ c ≠ '{' := by
  constructor
  · rw [← Bool.not_eq_true]
    intro blank
    have different := forall_isBlank
      (fun c => extendsKeyword.all fun letter => !sameLetter letter c) (by decide +kernel) blank
    have notSame := List.all_eq_true.mp different letter ofKeyword
    rw [same] at notSame
    exact absurd notSame (by decide)
  · rintro rfl
    have different : (extendsKeyword.all fun letter => !sameLetter letter '{') = true := by decide
    have notSame := List.all_eq_true.mp different letter ofKeyword
    rw [same] at notSame
    exact absurd notSame (by decide)

theorem exists_sameLetter_of_readKeyword {word text found rest : List Char}
    (read : readKeyword word text = some (found, rest)) :
    ∀ c ∈ found, ∃ letter ∈ word, sameLetter letter c = true := by
  induction word generalizing text found with
  | nil =>
      simp only [readKeyword, Option.some.injEq, Prod.mk.injEq] at read
      obtain ⟨rfl, -⟩ := read
      simp
  | cons letter letters induction =>
      obtain ⟨c, left, -, same, tail, rfl, inner⟩ := sameLetter_of_readKeyword read
      refine List.forall_mem_cons.mpr ⟨⟨letter, List.mem_cons_self .., same⟩, ?_⟩
      intro d member
      obtain ⟨other, otherMember, otherSame⟩ := induction inner d member
      exact ⟨other, List.mem_cons_of_mem letter otherMember, otherSame⟩

private theorem readBase_eq_none {c : Char} {rest : List Char} (notBlank : isBlank c = false)
    (notOpening : c ≠ '{') (noKeyword : readKeyword extendsKeyword (c :: rest) = none) :
    readBase (c :: rest) = none := by
  have closed : readOpening (c :: rest) = none := by
    simp [readOpening, dropBlanks_of_not_blank rest notBlank, readChar, notOpening]
  have unread : readKeyword ['e', 'x', 't', 'e', 'n', 'd', 's'] (c :: rest) = none := noKeyword
  simp [readBase, closed, dropBlanks_of_not_blank rest notBlank, unread]

private theorem readKeyword_eq_none_of_sameLetter {letter other c : Char} {letters rest : List Char}
    (same : sameLetter other c = true) (different : sameLetter letter other = false) :
    readKeyword (letter :: letters) (c :: rest) = none := by
  have folded : foldCase other = foldCase c := by simpa [sameLetter] using same
  have unequal : sameLetter letter c = false := by
    rw [sameLetter, ← folded]
    exact different
  simp [readKeyword, unequal]

private theorem readObjectName_opening {α : Type} (goOn : List Char → Option α)
    (rest : List Char) : readObjectName goOn ('{' :: rest) = none := by
  have notStart : startsBareName '{' = false := by decide
  simp [readObjectName, readQuotedName_eq_none, notStart]

/-- The name of an extended table is followed by the opening of the body, so it
is not itself the keyword in front of such a name. -/
private theorem readObjectName_behind_keyword {text base inside spelled left named : List Char}
    (isName : readObjectName readOpening text = some (base, inside))
    (keyword : readKeyword extendsKeyword text = some (spelled, left))
    (blanks : readBlanks left = some named) : readObjectName readOpening named = none := by
  obtain ⟨behind, blank, tail, leftStarts, isBlank⟩ := dropBlanks_of_readBlanks blanks
  unfold readObjectName at isName
  split at isName
  · rename_i quoted rest isQuoted
    rw [(readQuotedName_eq_some_iff.mp isQuoted).1] at keyword
    have unread : readKeyword extendsKeyword ('"' :: (quoted ++ '"' :: rest)) = none := rfl
    exact absurd (unread.symm.trans keyword) (by simp)
  · split at isName
    · exact absurd isName (by simp)
    · split at isName
      · obtain ⟨-, isWord⟩ := isWordChar_of_readLongest isName
        obtain ⟨rest, whole, opening⟩ := readLongest_eq_some isName
        have opened := readChar_eq_some_iff.mp opening
        have split : base ++ rest = spelled ++ left :=
          whole.symm.trans (readKeyword_eq_append keyword).1
        have endTogether : rest = left := by
          rcases List.append_eq_append_iff.mp split with ⟨more, spelledIs, restIs⟩ | ⟨more, baseIs, leftIs⟩
          · cases more with
            | nil => exact restIs
            | cons c more =>
                have member : c ∈ spelled := by simp [spelledIs]
                obtain ⟨letter, ofKeyword, sameLetter⟩ :=
                  exists_sameLetter_of_readKeyword keyword c member
                obtain ⟨notBlank, notOpening⟩ := not_blank_of_sameLetter ofKeyword sameLetter
                rw [restIs, List.cons_append, dropBlanks_of_not_blank _ notBlank] at opened
                exact absurd (List.cons.inj opened).1 notOpening
          · cases more with
            | nil => exact leftIs.symm
            | cons c more =>
                have member : c ∈ base := by simp [baseIs]
                rw [leftStarts, List.cons_append] at leftIs
                obtain ⟨rfl, -⟩ := List.cons.inj leftIs
                have notWord := isWordChar_of_isBlank isBlank
                rw [isWord blank member] at notWord
                exact absurd notWord (by decide)
        rw [← behind, ← endTogether, opened]
        exact readObjectName_opening readOpening inside
      · exact absurd isName (by simp)

private theorem readLongest_cons_eq_none {α : Type} {goOn : List Char → Option α} (c : Char)
    {rest : List Char} (longer : readLongest goOn rest = none) (here : goOn rest = none) :
    readLongest goOn (c :: rest) = none := by
  simp [readLongest, longer, here]

/-- Behind the keyword stands a name, in front of which no other keyword stands. -/
private theorem readBase_behind_keyword {left named base inside : List Char}
    (blanks : readBlanks left = some named)
    (isName : readObjectName readOpening named = some (base, inside)) : readBase left = none := by
  obtain ⟨behind, -⟩ := dropBlanks_of_readBlanks blanks
  have notOpened : readOpening left = none := by
    rw [readOpening, behind]
    cases opened : readChar '{' named with
    | none => rfl
    | some rest =>
        rw [readChar_eq_some_iff.mp opened, readObjectName_opening] at isName
        exact absurd isName (by simp)
  simp only [readBase, notOpened, behind, Option.bind_eq_bind]
  cases keyword : readKeyword ['e', 'x', 't', 'e', 'n', 'd', 's'] named with
  | none => rfl
  | some found =>
      cases further : readBlanks found.2 with
      | none => simp [further]
      | some rest => simp [further, readObjectName_behind_keyword isName keyword further]

/-- No part of the keyword `extends` belongs to the name in front of it. -/
private theorem readLongest_keyword {text spelled left named base inside : List Char}
    (keyword : readKeyword extendsKeyword text = some (spelled, left))
    (blanks : readBlanks left = some named)
    (isName : readObjectName readOpening named = some (base, inside)) :
    readLongest readBase text = none := by
  have atName := readBase_behind_keyword blanks isName
  obtain ⟨-, blank, tail, rfl, isBlank⟩ := dropBlanks_of_readBlanks blanks
  have atBlank : readLongest readBase (blank :: tail) = none :=
    readLongest_eq_none (isWordChar_of_isBlank isBlank) tail
  obtain ⟨e₁, _, rfl, -, _, -, keyword⟩ := sameLetter_of_readKeyword keyword
  obtain ⟨x, _, rfl, sameX, _, -, keyword⟩ := sameLetter_of_readKeyword keyword
  obtain ⟨t, _, rfl, sameT, _, -, keyword⟩ := sameLetter_of_readKeyword keyword
  obtain ⟨e₂, _, rfl, sameE, _, -, keyword⟩ := sameLetter_of_readKeyword keyword
  obtain ⟨n, _, rfl, sameN, _, -, keyword⟩ := sameLetter_of_readKeyword keyword
  obtain ⟨d, _, rfl, sameD, _, -, keyword⟩ := sameLetter_of_readKeyword keyword
  obtain ⟨s, _, rfl, sameS, _, -, keyword⟩ := sameLetter_of_readKeyword keyword
  simp only [readKeyword, Option.some.injEq, Prod.mk.injEq] at keyword
  obtain ⟨-, rfl⟩ := keyword
  have startsNoExtends : ∀ {letter c : Char} {rest : List Char}, letter ∈ extendsKeyword →
      sameLetter letter c = true → sameLetter 'e' letter = false → readBase (c :: rest) = none := by
    intro letter c rest ofKeyword same different
    obtain ⟨notBlank, notOpening⟩ := not_blank_of_sameLetter ofKeyword same
    exact readBase_eq_none notBlank notOpening (readKeyword_eq_none_of_sameLetter same different)
  have atSecondE : ∀ {rest : List Char}, readBase (e₂ :: n :: rest) = none := by
    intro rest
    obtain ⟨notBlank, notOpening⟩ := not_blank_of_sameLetter (by decide) sameE
    have unread : readKeyword ['x', 't', 'e', 'n', 'd', 's'] (n :: rest) = none :=
      readKeyword_eq_none_of_sameLetter sameN (by decide)
    apply readBase_eq_none notBlank notOpening
    rw [extendsKeyword, readKeyword, unread]
    split <;> rfl
  have fromS := readLongest_cons_eq_none s atBlank atName
  have fromD := readLongest_cons_eq_none d fromS (startsNoExtends (by decide) sameS (by decide))
  have fromN := readLongest_cons_eq_none n fromD (startsNoExtends (by decide) sameD (by decide))
  have fromE := readLongest_cons_eq_none e₂ fromN (startsNoExtends (by decide) sameN (by decide))
  have fromT := readLongest_cons_eq_none t fromE atSecondE
  have fromX := readLongest_cons_eq_none x fromT (startsNoExtends (by decide) sameT (by decide))
  exact readLongest_cons_eq_none e₁ fromX (startsNoExtends (by decide) sameX (by decide))

/-- Where a name can end, no longer name can. -/
theorem readLongest_of_readBase {text : List Char} {found : List Char × List Char}
    (taken : readBase text = some found) : readLongest readBase text = none := by
  unfold readBase at taken
  split at taken
  · rename_i opened opening
    exact readLongest_of_readOpening opening
  · simp only [Option.bind_eq_bind, Option.bind_eq_some_iff, Prod.exists] at taken
    obtain ⟨spelled, left, keyword, named, blanks, isName⟩ := taken
    cases text with
    | nil => rfl
    | cons c rest =>
        by_cases blank : isBlank c = true
        · exact readLongest_eq_none (isWordChar_of_isBlank blank) rest
        · rw [dropBlanks_of_not_blank rest (by simpa using blank)] at keyword
          exact readLongest_keyword keyword blanks isName

private theorem readOpening_of_readKeyword {text spelled left : List Char}
    (keyword : readKeyword extendsKeyword (dropBlanks text) = some (spelled, left)) :
    readOpening text = none := by
  obtain ⟨c, tail, starts, same, -⟩ := sameLetter_of_readKeyword keyword
  obtain ⟨-, notOpening⟩ := not_blank_of_sameLetter (by decide) same
  rw [readOpening, starts, readChar, if_neg notOpening]

theorem readBase_isLocal : IsLocal readBase := by
  intro text inside base taken
  unfold readBase at taken
  split at taken
  · rename_i opened opening
    simp only [Option.some.injEq, Prod.mk.injEq] at taken
    obtain ⟨rfl, rfl⟩ := taken
    obtain ⟨stretch, nonempty, whole, again⟩ := readOpening_stretch opening
    refine ⟨stretch, nonempty, whole, fun other => ?_⟩
    simp only [readBase, again, id]
  · simp only [Option.bind_eq_bind, Option.bind_eq_some_iff, Prod.exists] at taken
    obtain ⟨spelled, left, keyword, named, blanks, isName⟩ := taken
    have takesKeyword : TakesStretch
        (fun text => readKeyword ['e', 'x', 't', 'e', 'n', 'd', 's'] (dropBlanks text))
        (fun other => (spelled, other)) text left :=
      (readKeyword_stretch (by decide) keyword).of_dropBlanks
    obtain ⟨stretch, nonempty, rfl, keywordAgain⟩ := takesKeyword
    obtain ⟨later, -, rfl, nameAgain⟩ := (readBlanks_run blanks).bind (readBaseName_stretch isName)
    refine ⟨stretch ++ later, by simp [nonempty], by simp, fun other => ?_⟩
    have closed := readOpening_of_readKeyword (keywordAgain (later ++ other))
    simp only [List.append_assoc, readBase, closed, keywordAgain, Option.bind_eq_bind,
      Option.bind_some]
    exact nameAgain other

end Bases

/-! ## Heads of tables -/

namespace TableDeclaration

/-- Reads the head of a declaration up to the opening of its body. -/
def readHead (text : List Char) : Option (TableDeclaration × List Char) := do
  let (keyword, afterKeyword) ← readObjectKeyword text
  let (number, afterNumber) ← readDigits afterKeyword
  let (name, base, inside) ← readObjectName readBase (← readBlanks afterNumber)
  return (⟨keyword, number, name, base, []⟩, inside)

/-- A declaration with the given body. -/
def withBody (declaration : TableDeclaration) (body : List Char) : TableDeclaration :=
  { declaration with body := body }

theorem read_eq (text : List Char) :
    read text = (readHead text).map fun (head, inside) =>
      (head.withBody (splitBlock inside).1, (splitBlock inside).2) := by
  simp only [read, readHead, Option.bind_eq_bind, Option.pure_def, Option.map_bind,
    Function.comp_def, Option.map_some]
  rfl

theorem readObjectKeyword_run {text keyword rest : List Char}
    (taken : readObjectKeyword text = some (keyword, rest)) :
    TakesRun readObjectKeyword (fun other => (keyword, other)) text rest := by
  simp only [readObjectKeyword, Option.bind_eq_bind, Option.bind_eq_some_iff, Prod.exists] at taken
  obtain ⟨table, afterTable, isTable, result⟩ := taken
  obtain ⟨stretch, nonempty, rfl, tableAgain⟩ := readKeyword_stretch (by decide) isTable
  split at result
  · rename_i left blanks
    simp only [Option.pure_def, Option.some.injEq, Prod.mk.injEq] at result
    obtain ⟨rfl, rfl⟩ := result
    obtain ⟨run, -, rfl, blanksAgain⟩ := readBlanks_run blanks
    refine ⟨stretch ++ run, by simp [nonempty], by simp, fun other sameStart => ?_⟩
    simp [readObjectKeyword, tableAgain, blanksAgain other sameStart]
  · rename_i notBlank
    simp only [Option.bind_eq_some_iff, Prod.exists, Option.pure_def, Option.some.injEq,
      Prod.mk.injEq] at result
    obtain ⟨extension, afterExtension, isExtension, left, blanks, rfl, rfl⟩ := result
    obtain ⟨later, laterNonempty, rfl, laterAgain⟩ := readKeyword_stretch (by decide) isExtension
    obtain ⟨run, -, rfl, blanksAgain⟩ := readBlanks_run blanks
    refine ⟨stretch ++ (later ++ run), by simp [nonempty], by simp, fun other sameStart => ?_⟩
    have stillNotBlank : readBlanks (later ++ (run ++ other)) = none := by
      cases later with
      | nil => exact absurd rfl laterNonempty
      | cons c later => simpa [readBlanks] using notBlank
    simp [readObjectKeyword, tableAgain, stillNotBlank, laterAgain, blanksAgain other sameStart]

/-- The head of a table is read alike whatever follows it. -/
theorem readHead_isLocal : IsLocal readHead := by
  intro text inside head taken
  simp only [readHead, Option.bind_eq_bind, Option.bind_eq_some_iff, Prod.exists, Option.pure_def,
    Option.some.injEq, Prod.mk.injEq] at taken
  obtain ⟨keyword, afterKeyword, isKeyword, number, afterNumber, digits, named, blanks, name,
    base, opened, isName, rfl, rfl⟩ := taken
  have takesName : TakesStretch (readObjectName readBase) (fun other => (name, base, other))
      named opened :=
    readObjectName_stretch (fun recognised => readBase_isLocal recognised)
      readLongest_of_readBase isName
  exact (readObjectKeyword_run isKeyword).bind <| (readDigits_run digits).bind <|
    (readBlanks_run blanks).bind <| takesName.map fun _ => rfl

end TableDeclaration

/-! ## Heads of sections, fields and keys -/

section Heads

variable {text rest : List Char}

theorem readMarked_stretch {word : List Char} {mark : Char} (nonempty : word ≠ [])
    (taken : readMarked word mark text = some rest) :
    TakesStretch (readMarked word mark) id text rest := by
  simp only [readMarked, Option.bind_eq_bind, Option.bind_eq_some_iff, Prod.exists] at taken
  obtain ⟨spelled, afterWord, keyword, marked⟩ := taken
  exact (readKeyword_stretch nonempty keyword).bind (readChar_stretch marked).of_dropBlanks

private theorem readQuotedName_bare {name : List Char}
    (isBare : ∀ c ∈ name, (!endsBareName c) = true) (other : List Char) :
    readQuotedName (dropBlanks (name ++ ';' :: other)) = none := by
  induction name with
  | nil => rfl
  | cons c name induction =>
      rw [List.cons_append, dropBlanks_cons]
      split
      · exact induction fun d member => isBare d (List.mem_cons_of_mem c member)
      · apply readQuotedName_eq_none
        rintro rfl
        exact absurd (isBare '"' (List.mem_cons_self ..)) (by decide)

theorem readDeclaredName_isLocal : IsLocal readDeclaredName := by
  intro text rest name taken
  unfold readDeclaredName at taken
  split at taken
  · rename_i quoted afterName isQuoted
    simp only [Option.bind_eq_bind, Option.bind_eq_some_iff, Option.pure_def, Option.some.injEq,
      Prod.mk.injEq] at taken
    obtain ⟨remaining, separated, rfl, rfl⟩ := taken
    have takesQuoted := (readQuotedName_stretch isQuoted).of_dropBlanks
    obtain ⟨stretch, nonempty, rfl, quotedAgain⟩ := takesQuoted
    obtain ⟨later, -, rfl, laterAgain⟩ := (readChar_stretch separated).of_dropBlanks
    refine ⟨stretch ++ later, by simp [nonempty], by simp, fun other => ?_⟩
    simp only [List.append_assoc, readDeclaredName, quotedAgain, laterAgain]
    rfl
  · simp only [Option.bind_eq_bind, Option.bind_eq_some_iff, readChar_eq_some_iff] at taken
    obtain ⟨remaining, separated, result⟩ := taken
    split at result
    · exact absurd result (by simp)
    · rename_i nonempty
      simp only [Option.some.injEq, Prod.mk.injEq] at result
      obtain ⟨rfl, rfl⟩ := result
      let name := text.takeWhile fun c => !endsBareName c
      have isBare : ∀ c ∈ name, (!endsBareName c) = true :=
        List.all_eq_true.mp List.all_takeWhile
      have whole : text = name ++ ';' :: remaining := by
        rw [← separated, List.takeWhile_append_dropWhile]
      refine ⟨name ++ [';'], by simp, by simp [← whole], fun other => ?_⟩
      have taken : (name ++ ';' :: other).takeWhile (fun c => !endsBareName c) = name := by
        rw [List.takeWhile_append_of_pos isBare]
        simp [endsBareName]
      have left : (name ++ ';' :: other).dropWhile (fun c => !endsBareName c) = ';' :: other := by
        rw [List.dropWhile_append_of_pos isBare]
        simp [endsBareName]
      rw [List.append_assoc, List.singleton_append, readDeclaredName,
        readQuotedName_bare isBare other]
      simp only [taken, left, readChar, if_true, Option.bind_eq_bind, Option.bind_some]
      exact if_neg nonempty

theorem splitAtParenthesis_again {inQuotes : Bool} {before after : List Char}
    (split : splitAtParenthesis inQuotes text = some (before, after)) (other : List Char) :
    splitAtParenthesis inQuotes (before ++ ')' :: other) = some (before, other) := by
  induction text generalizing inQuotes before with
  | nil => simp [splitAtParenthesis] at split
  | cons c rest induction =>
      simp only [splitAtParenthesis] at split
      split at split
      · rename_i closing
        simp only [Option.some.injEq, Prod.mk.injEq] at split
        obtain ⟨rfl, rfl⟩ := split
        simp [splitAtParenthesis, closing.2]
      · rename_i notClosing
        simp only [Option.map_eq_some_iff, Prod.exists, Prod.mk.injEq] at split
        obtain ⟨tail, _, inner, rfl, rfl⟩ := split
        simp [splitAtParenthesis, notClosing, induction inner]

theorem readArguments_isLocal : IsLocal readArguments := by
  intro text rest arguments taken
  simp only [readArguments, Option.bind_eq_bind, Option.bind_eq_some_iff, Prod.exists] at taken
  obtain ⟨before, after, split, result⟩ := taken
  split at result
  · exact absurd result (by simp)
  · rename_i nonempty
    simp only [Option.some.injEq, Prod.mk.injEq] at result
    obtain ⟨rfl, rfl⟩ := result
    refine ⟨before ++ [')'], by simp, by simp [splitAtParenthesis_eq_append split], fun other => ?_⟩
    simp only [List.append_assoc, List.singleton_append, readArguments,
      splitAtParenthesis_again split, Option.bind_eq_bind, Option.bind_some, if_neg nonempty]

end Heads

namespace FieldDeclaration

/-- Reads the head of a declaration up to its closing parenthesis. -/
def readHead (text : List Char) : Option (FieldDeclaration × List Char) := do
  let (_, afterKeyword) ← readKeyword ['f', 'i', 'e', 'l', 'd'] text
  let opened ← readChar '(' (dropBlanks afterKeyword)
  let (number, afterNumber) ← readDigits (dropBlanks opened)
  let separated ← readChar ';' (dropBlanks afterNumber)
  let (name, afterName) ← readDeclaredName separated
  let (type, closed) ← readArguments afterName
  return (⟨number, name, trim type, []⟩, closed)

/-- A declaration with the given properties. -/
def withProperties (declaration : FieldDeclaration) (properties : List Char) : FieldDeclaration :=
  { declaration with properties := properties }

theorem read_eq (text : List Char) :
    read text = (readHead text).map fun (head, closed) =>
      (head.withProperties (trailingBlock closed).1, (trailingBlock closed).2) := by
  simp only [read, readHead, Option.bind_eq_bind, Option.pure_def, Option.map_bind,
    Function.comp_def, Option.map_some]
  rfl

theorem readHead_isLocal : IsLocal readHead := by
  intro text rest head taken
  simp only [readHead, Option.bind_eq_bind, Option.bind_eq_some_iff, Prod.exists, Option.pure_def,
    Option.some.injEq, Prod.mk.injEq] at taken
  obtain ⟨spelled, afterKeyword, keyword, opened, opening, number, afterNumber, digits,
    separated, separator, name, afterName, declared, type, closed, arguments, rfl, rfl⟩ := taken
  exact (readKeyword_stretch (by decide) keyword).bind <|
    (readChar_stretch opening).of_dropBlanks.bind <|
    (readDigits_run digits).of_dropBlanks.bind <|
    (readChar_stretch separator).of_dropBlanks.bind <|
    (readDeclaredName_isLocal declared).bind <|
    (readArguments_isLocal arguments).map fun _ => rfl

end FieldDeclaration

namespace KeyDeclaration

/-- Reads the head of a declaration up to its closing parenthesis. -/
def readHead (text : List Char) : Option (KeyDeclaration × List Char) := do
  let (_, afterKeyword) ← readKeyword ['k', 'e', 'y'] text
  let opened ← readChar '(' (dropBlanks afterKeyword)
  let (name, afterName) ← readDeclaredName opened
  let (list, closed) ← readArguments afterName
  return (⟨name, listedNames list⟩, closed)

theorem read_eq (text : List Char) :
    read text = (readHead text).map fun (head, closed) => (head, (trailingBlock closed).2) := by
  simp only [read, readHead, Option.bind_eq_bind, Option.pure_def, Option.map_bind,
    Function.comp_def, Option.map_some]

theorem readHead_isLocal : IsLocal readHead := by
  intro text rest head taken
  simp only [readHead, Option.bind_eq_bind, Option.bind_eq_some_iff, Prod.exists, Option.pure_def,
    Option.some.injEq, Prod.mk.injEq] at taken
  obtain ⟨spelled, afterKeyword, keyword, opened, opening, name, afterName, declared, list,
    closed, arguments, rfl, rfl⟩ := taken
  exact (readKeyword_stretch (by decide) keyword).bind <|
    (readChar_stretch opening).of_dropBlanks.bind <|
    (readDeclaredName_isLocal declared).bind <|
    (readArguments_isLocal arguments).map fun _ => rfl

end KeyDeclaration

end TableAtlas.Source
