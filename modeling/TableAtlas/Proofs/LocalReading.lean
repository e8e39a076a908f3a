import TableAtlas.Proofs.TokenReading

/-!
# Local reading

What a reader takes from a text does not depend on the text behind it.  A token
that ends only where its characters end, such as a number or a run of blanks,
depends on the next character as well.  Such a token becomes local when a local
one follows it.
-/

namespace TableAtlas.Source

open TableAtlas.Text

/-! ## Stretches -/

section Stretches

variable {β γ : Type} {read : List Char → Option β} {result : List Char → β}
  {text middle rest : List Char}

/-- The reader takes a stretch of the text up to `rest`, and takes the same
stretch in front of any other text.  What it returns then is given by `result`. -/
def TakesStretch (read : List Char → Option β) (result : List Char → β)
    (text rest : List Char) : Prop :=
  ∃ stretch, stretch ≠ [] ∧ text = stretch ++ rest ∧
    ∀ other, read (stretch ++ other) = some (result other)

/-- The reader takes a stretch of the text up to `rest`, and takes the same
stretch in front of any other text that starts with the same character. -/
def TakesRun (read : List Char → Option β) (result : List Char → β)
    (text rest : List Char) : Prop :=
  ∃ run, run ≠ [] ∧ text = run ++ rest ∧
    ∀ other, other.head? = rest.head? → read (run ++ other) = some (result other)

/-- Whatever the reader takes, it takes in front of any other text. -/
def IsLocal {α : Type} (read : List Char → Option (α × List Char)) : Prop :=
  ∀ ⦃text rest : List Char⦄ ⦃found : α⦄, read text = some (found, rest) →
    TakesStretch read (fun other => (found, other)) text rest

theorem TakesStretch.toRun (takes : TakesStretch read result text rest) :
    TakesRun read result text rest := by
  obtain ⟨stretch, nonempty, whole, again⟩ := takes
  exact ⟨stretch, nonempty, whole, fun other _ => again other⟩

private theorem head?_append_of_ne_nil {stretch : List Char} (nonempty : stretch ≠ [])
    (rest other : List Char) : (stretch ++ other).head? = (stretch ++ rest).head? := by
  cases stretch with
  | nil => exact absurd rfl nonempty
  | cons c stretch => rfl

/-- A stretch behind a run fixes where the run ends. -/
theorem TakesRun.bind {next : β → Option γ} {nextResult : List Char → γ}
    (takes : TakesRun read result text middle)
    (thenTakes : TakesStretch (fun other => next (result other)) nextResult middle rest) :
    TakesStretch (fun text => (read text).bind next) nextResult text rest := by
  obtain ⟨run, runNonempty, rfl, again⟩ := takes
  obtain ⟨stretch, nonempty, rfl, thenAgain⟩ := thenTakes
  refine ⟨run ++ stretch, by simp [runNonempty], by simp, fun other => ?_⟩
  simp only [List.append_assoc]
  rw [again _ (head?_append_of_ne_nil nonempty rest other), Option.bind_some]
  exact thenAgain other

theorem TakesStretch.bind {next : β → Option γ} {nextResult : List Char → γ}
    (takes : TakesStretch read result text middle)
    (thenTakes : TakesStretch (fun other => next (result other)) nextResult middle rest) :
    TakesStretch (fun text => (read text).bind next) nextResult text rest :=
  takes.toRun.bind thenTakes

theorem TakesStretch.map {next : β → Option γ} {nextResult : List Char → γ}
    (takes : TakesStretch read result text rest)
    (returns : ∀ other, next (result other) = some (nextResult other)) :
    TakesStretch (fun text => (read text).bind next) nextResult text rest := by
  obtain ⟨stretch, nonempty, whole, again⟩ := takes
  exact ⟨stretch, nonempty, whole, fun other => by simp only [again, Option.bind_some, returns]⟩

theorem IsLocal.append {α : Type} {read : List Char → Option (α × List Char)} {found : α}
    (isLocal : IsLocal read) (taken : read text = some (found, rest)) (more : List Char) :
    read (text ++ more) = some (found, rest ++ more) := by
  obtain ⟨stretch, -, rfl, again⟩ := isLocal taken
  rw [List.append_assoc, again]

theorem IsLocal.suffix {α : Type} {read : List Char → Option (α × List Char)} {found : α}
    (isLocal : IsLocal read) (taken : read text = some (found, rest)) : rest <:+ text := by
  obtain ⟨stretch, -, rfl, -⟩ := isLocal taken
  exact List.suffix_append stretch rest

end Stretches

/-! ## Blanks -/

section Blanks

variable {β : Type} {read : List Char → Option β} {result : List Char → β}
  {text rest : List Char}

theorem dropBlanks_run (text : List Char) :
    ∃ blanks, text = blanks ++ dropBlanks text ∧
      ∀ other, other.head? = (dropBlanks text).head? → dropBlanks (blanks ++ other) = other := by
  refine ⟨text.takeWhile isBlank, (List.takeWhile_append_dropWhile).symm, ?_⟩
  intro other sameStart
  have areBlank : ∀ c ∈ text.takeWhile isBlank, isBlank c = true :=
    List.all_eq_true.mp List.all_takeWhile
  rw [dropBlanks, List.dropWhile_append_of_pos areBlank]
  cases other with
  | nil => rfl
  | cons c other =>
      have starts : (text.dropWhile isBlank).head? = some c := sameStart.symm
      have notBlank : isBlank c = false := by
        have stops := List.head?_dropWhile_not isBlank text
        rw [starts] at stops
        simpa using stops
      exact dropBlanks_of_not_blank other notBlank

theorem TakesStretch.of_dropBlanks (takes : TakesStretch read result (dropBlanks text) rest) :
    TakesStretch (fun text => read (dropBlanks text)) result text rest := by
  obtain ⟨stretch, nonempty, whole, again⟩ := takes
  obtain ⟨blanks, wholeText, drops⟩ := dropBlanks_run text
  refine ⟨blanks ++ stretch, by simp [nonempty], ?_, fun other => ?_⟩
  · rw [List.append_assoc, ← whole]
    exact wholeText
  · have sameStart : (stretch ++ other).head? = (dropBlanks text).head? := by
      rw [whole]
      exact head?_append_of_ne_nil nonempty rest other
    simp only [List.append_assoc, drops _ sameStart, again]

theorem TakesRun.of_dropBlanks (takes : TakesRun read result (dropBlanks text) rest) :
    TakesRun (fun text => read (dropBlanks text)) result text rest := by
  obtain ⟨run, nonempty, whole, again⟩ := takes
  obtain ⟨blanks, wholeText, drops⟩ := dropBlanks_run text
  refine ⟨blanks ++ run, by simp [nonempty], ?_, fun other sameStart => ?_⟩
  · rw [List.append_assoc, ← whole]
    exact wholeText
  · have startsAlike : (run ++ other).head? = (dropBlanks text).head? := by
      rw [whole]
      exact head?_append_of_ne_nil nonempty rest other
    simp only [List.append_assoc, drops _ startsAlike, again other sameStart]

theorem readBlanks_run (taken : readBlanks text = some rest) :
    TakesRun readBlanks id text rest := by
  cases text with
  | nil => simp [readBlanks] at taken
  | cons c left =>
      simp only [readBlanks] at taken
      split at taken
      · rename_i blank
        obtain rfl := Option.some.inj taken
        obtain ⟨blanks, whole, drops⟩ := dropBlanks_run left
        refine ⟨c :: blanks, List.cons_ne_nil c blanks, ?_, fun other sameStart => ?_⟩
        · rw [List.cons_append, ← whole]
        · rw [List.cons_append, readBlanks, if_pos blank, drops other sameStart, id]
      · exact absurd taken (by simp)

theorem dropBlanks_of_readBlanks (taken : readBlanks text = some rest) :
    dropBlanks text = rest ∧ ∃ c left, text = c :: left ∧ isBlank c = true := by
  cases text with
  | nil => simp [readBlanks] at taken
  | cons c left =>
      simp only [readBlanks] at taken
      split at taken
      · rename_i blank
        obtain rfl := Option.some.inj taken
        exact ⟨by rw [dropBlanks_cons, if_pos blank], c, left, rfl, blank⟩
      · exact absurd taken (by simp)

end Blanks

/-! ## Tokens -/

section Tokens

variable {text rest found : List Char}

theorem readChar_stretch {c : Char} (taken : readChar c text = some rest) :
    TakesStretch (readChar c) id text rest := by
  refine ⟨[c], List.cons_ne_nil c [], readChar_eq_some_iff.mp taken, fun other => ?_⟩
  exact readChar_eq_some_iff.mpr rfl

theorem sameLetter_of_readKeyword {letter : Char} {letters : List Char}
    (read : readKeyword (letter :: letters) text = some (found, rest)) :
    ∃ c left, text = c :: left ∧ sameLetter letter c = true ∧
      ∃ tail, found = c :: tail ∧ readKeyword letters left = some (tail, rest) := by
  cases text with
  | nil => simp [readKeyword] at read
  | cons c left =>
      simp only [readKeyword] at read
      split at read
      · rename_i same
        simp only [Option.map_eq_some_iff, Prod.exists, Prod.mk.injEq] at read
        obtain ⟨tail, _, inner, rfl, rfl⟩ := read
        exact ⟨c, left, rfl, same, tail, rfl, inner⟩
      · exact absurd read (by simp)

theorem readKeyword_stretch {word : List Char} (nonempty : word ≠ [])
    (taken : readKeyword word text = some (found, rest)) :
    TakesStretch (readKeyword word) (fun other => (found, other)) text rest := by
  obtain ⟨whole, length⟩ := readKeyword_eq_append taken
  have foundNonempty : found ≠ [] := by
    rintro rfl
    exact nonempty (List.eq_nil_of_length_eq_zero length.symm)
  refine ⟨found, foundNonempty, whole, fun other => ?_⟩
  clear foundNonempty length nonempty
  induction word generalizing text found with
  | nil =>
      simp only [readKeyword, Option.some.injEq, Prod.mk.injEq] at taken
      obtain ⟨rfl, -⟩ := taken
      rfl
  | cons letter letters induction =>
      obtain ⟨c, left, -, same, tail, rfl, inner⟩ := sameLetter_of_readKeyword taken
      have again := induction inner (readKeyword_eq_append inner).1
      rw [List.cons_append, readKeyword, if_pos same, again]
      rfl

theorem readDigits_run (taken : readDigits text = some (found, rest)) :
    TakesRun readDigits (fun other => (found, other)) text rest := by
  unfold readDigits at taken
  split at taken
  · exact absurd taken (by simp)
  · rename_i first others isRun
    simp only [Option.some.injEq, Prod.mk.injEq] at taken
    obtain ⟨rfl, rfl⟩ := taken
    have areDigits : ∀ c ∈ first :: others, isDecimalDigit c = true := by
      rw [← isRun]
      exact List.all_eq_true.mp List.all_takeWhile
    refine ⟨first :: others, List.cons_ne_nil first others, ?_, fun other sameStart => ?_⟩
    · rw [← isRun, List.takeWhile_append_dropWhile]
    · apply readDigits_append (List.cons_ne_nil first others) areDigits
      intro c starts
      have ends := List.head?_dropWhile_not isDecimalDigit text
      rw [← sameStart, Option.mem_def.mp starts] at ends
      simpa using ends

theorem readQuotedName_stretch (taken : readQuotedName text = some (found, rest)) :
    TakesStretch readQuotedName (fun other => (found, other)) text rest := by
  obtain ⟨rfl, absent, nonempty⟩ := readQuotedName_eq_some_iff.mp taken
  refine ⟨'"' :: (found ++ ['"']), List.cons_ne_nil _ _, by simp, fun other => ?_⟩
  exact readQuotedName_eq_some_iff.mpr ⟨by simp, absent, nonempty⟩

theorem readQuotedName_eq_none {c : Char} (different : c ≠ '"') (rest : List Char) :
    readQuotedName (c :: rest) = none := by
  simp [readQuotedName, readChar, different]

end Tokens

end TableAtlas.Source
