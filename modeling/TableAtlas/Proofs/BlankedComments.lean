import Mathlib.Data.List.Forall2
import TableAtlas.Proofs.BalancedText

/-!
# Blanked comments

A line comment starts at `//` outside strings and ends with its line.  When all
line comments of a text are replaced by spaces, each block ends where it ended
before, since the brace scanner passes over comments and spaces alike.
-/

namespace TableAtlas.Source

open TableAtlas.Text

/-! ## Blanking -/

/-- Whether a character in front of the given text belongs to a line comment,
which it may also open. -/
def isCommented (context : Context) (c : Char) (rest : List Char) : Bool :=
  match context with
  | .comment => c != '\n'
  | .string _ => false
  | .code => c == '/' && rest.head? == some '/'
  | .slash => c == '/' && rest.head? == some '/'

/-- A text that starts in a context, with each line comment replaced by spaces. -/
def blankFrom (context : Context) : List Char → List Char
  | [] => []
  | c :: rest =>
      if isCommented context c rest then ' ' :: blankFrom .comment rest
      else c :: blankFrom (context.next c) rest

/-- A text with each line comment replaced by spaces. -/
def blankComments (text : List Char) : List Char :=
  blankFrom .code text

theorem blankFrom_cons_of_commented {context : Context} {c : Char} {rest : List Char}
    (commented : isCommented context c rest = true) :
    blankFrom context (c :: rest) = ' ' :: blankFrom .comment rest := by
  rw [blankFrom, if_pos commented]

theorem blankFrom_cons_of_not_commented {context : Context} {c : Char} {rest : List Char}
    (kept : isCommented context c rest = false) :
    blankFrom context (c :: rest) = c :: blankFrom (context.next c) rest := by
  rw [blankFrom, if_neg (by simp [kept])]

example : blankComments ("a'//' // b\n\"c//\" /d".toList) = "a'//'     \n\"c//\" /d".toList := by
  decide

/-- Each character of the first text is kept in the second or replaced by a space. -/
def Blanked (text blanked : List Char) : Prop :=
  List.Forall₂ (fun c d => d = c ∨ d = ' ') text blanked

theorem blanked_blankFrom (context : Context) (text : List Char) :
    Blanked text (blankFrom context text) := by
  induction text generalizing context with
  | nil => exact .nil
  | cons c rest induction =>
      cases commented : isCommented context c rest with
      | true =>
          rw [blankFrom_cons_of_commented commented]
          exact .cons (.inr rfl) (induction .comment)
      | false =>
          rw [blankFrom_cons_of_not_commented commented]
          exact .cons (.inl rfl) (induction _)

theorem blanked_blankComments (text : List Char) : Blanked text (blankComments text) :=
  blanked_blankFrom .code text

@[simp] theorem length_blankComments (text : List Char) :
    (blankComments text).length = text.length :=
  (blanked_blankComments text).length_eq.symm

/-! ## Blocks -/

/-- What the brace scanner takes the context of a blanked text to be: there are
no comments in it. -/
def Context.blanked : Context → Context
  | .comment => .code
  | context => context

/-- The parts of a split text, blanked. -/
private def blankSplit (context : Context) (split : List Char × List Char) :
    List Char × List Char :=
  (blankFrom context split.1, blankComments split.2)

/-- The end of a body decides nothing about comments, since a brace follows it. -/
private theorem isCommented_append (context : Context) (c : Char) (body after : List Char) :
    isCommented context c (body ++ '}' :: after) = isCommented context c body := by
  cases body with
  | nil => cases context <;> simp [isCommented]
  | cons d body => cases context <;> rfl

private theorem map_blankSplit_of_commented {context inner : Context} {depth : Nat} {c : Char}
    {rest : List Char} (commented : isCommented context c rest = true) :
    ((closeBlock inner depth rest).map (prepending [c])).map (blankSplit context) =
      ((closeBlock inner depth rest).map (blankSplit .comment)).map (prepending [' ']) := by
  cases closed : closeBlock inner depth rest with
  | none => rfl
  | some split =>
      rw [closeBlock_eq_append closed, isCommented_append] at commented
      simp [prepending, blankSplit, blankFrom_cons_of_commented commented]

private theorem map_blankSplit_of_not_commented {context inner : Context} {depth : Nat} {c : Char}
    {rest : List Char} (kept : isCommented context c rest = false) :
    ((closeBlock inner depth rest).map (prepending [c])).map (blankSplit context) =
      ((closeBlock inner depth rest).map (blankSplit (context.next c))).map (prepending [c]) := by
  cases closed : closeBlock inner depth rest with
  | none => rfl
  | some split =>
      rw [closeBlock_eq_append closed, isCommented_append] at kept
      simp [prepending, blankSplit, blankFrom_cons_of_not_commented kept]

/-- Behind the first slash of a comment the scanner is as good as inside it. -/
private theorem closeBlock_next_of_commented {context : Context} {c : Char} {rest : List Char}
    (commented : isCommented context c rest = true) (depth : Nat) :
    closeBlock (context.next c) depth rest = closeBlock .comment depth rest := by
  cases context with
  | comment =>
      have inside : c ≠ '\n' := by simpa [isCommented] using commented
      simp [Context.next, inside]
  | string quote => simp [isCommented] at commented
  | code =>
      obtain ⟨rfl, opens⟩ : c = '/' ∧ rest.head? = some '/' := by
        simpa [isCommented] using commented
      cases rest with
      | nil => simp at opens
      | cons d rest =>
          obtain rfl : d = '/' := by simpa using opens
          rfl
  | slash =>
      obtain ⟨rfl, -⟩ : c = '/' ∧ rest.head? = some '/' := by
        simpa [isCommented] using commented
      rfl

private theorem not_brace_of_commented {context : Context} {c : Char} {rest : List Char}
    (commented : isCommented context c rest = true) (counts : context.countsBraces = true) :
    c ≠ '{' ∧ c ≠ '}' := by
  have isSlash : c = '/' := by
    cases context with
    | comment => simp [Context.countsBraces] at counts
    | string quote => simp [Context.countsBraces] at counts
    | code => exact (by simpa [isCommented] using commented : c = '/' ∧ _).1
    | slash => exact (by simpa [isCommented] using commented : c = '/' ∧ _).1
  subst isSlash
  decide

/-- A comment closes no block, so the scanner goes on inside it. -/
private theorem closeBlock_of_commented {context : Context} {c : Char} {rest : List Char}
    (commented : isCommented context c rest = true) (depth : Nat) :
    closeBlock context depth (c :: rest) =
      (closeBlock .comment depth rest).map (prepending [c]) := by
  rw [closeBlock_skip (not_brace_of_commented commented), closeBlock_next_of_commented commented]

private theorem closeBlock_blank {context : Context} {c : Char} {rest : List Char}
    (commented : isCommented context c rest = true) (depth : Nat) (text : List Char) :
    closeBlock context.blanked depth (' ' :: text) =
      (closeBlock .code depth text).map (prepending [' ']) := by
  have next : context.blanked.next ' ' = .code := by
    cases context with
    | string quote => simp [isCommented] at commented
    | _ => rfl
  rw [closeBlock_skip (by simp), next]

private theorem inCode_of_brace {context : Context} {c : Char} {rest : List Char}
    (kept : isCommented context c rest = false) (counts : context.blanked.countsBraces = true)
    (isBrace : c = '{' ∨ c = '}') :
    context.countsBraces = true ∧ context.next c = .code := by
  cases context with
  | comment =>
      obtain rfl : c = '\n' := by simpa [isCommented] using kept
      exact absurd isBrace (by decide)
  | string quote => simp [Context.blanked, Context.countsBraces] at counts
  | _ => rcases isBrace with rfl | rfl <;> exact ⟨rfl, rfl⟩

private theorem blanked_next {context : Context} {c : Char} {rest : List Char}
    (separated : context = .slash → c ≠ '/') (kept : isCommented context c rest = false) :
    context.blanked.next c = (context.next c).blanked ∧
      (context.next c = .slash → rest.head? ≠ some '/') := by
  have afterCode : (Context.afterCode c).blanked = .afterCode c := by
    unfold Context.afterCode
    split
    · rfl
    · split <;> rfl
  have opensSlash : Context.afterCode c = .slash → c = '/' := by
    unfold Context.afterCode
    split
    · simp
    · split
      · exact fun _ => by assumption
      · simp
  cases context with
  | comment =>
      obtain rfl : c = '\n' := by simpa [isCommented] using kept
      exact ⟨rfl, by simp [Context.next]⟩
  | string quote =>
      by_cases closes : c = quote <;> simp [Context.next, Context.blanked, closes]
  | code =>
      refine ⟨afterCode.symm, fun isSlash opens => ?_⟩
      simp [isCommented, opensSlash isSlash, opens] at kept
  | slash =>
      have next : Context.slash.next c = .afterCode c := by
        simp [Context.next, separated rfl]
      rw [next]
      exact ⟨by rw [afterCode]; exact next, fun isSlash => absurd (opensSlash isSlash) (separated rfl)⟩

/-- The scanner finds the end of a block in a blanked text where it found it before. -/
theorem closeBlock_blankFrom (context : Context) (depth : Nat) {text : List Char}
    (separated : context = .slash → text.head? ≠ some '/') :
    closeBlock context.blanked depth (blankFrom context text) =
      (closeBlock context depth text).map (blankSplit context) := by
  induction text generalizing context depth with
  | nil => rfl
  | cons c rest induction =>
      cases commented : isCommented context c rest with
      | true =>
          have inner : closeBlock .code depth (blankFrom .comment rest) =
              (closeBlock .comment depth rest).map (blankSplit .comment) :=
            induction .comment depth (by simp)
          rw [blankFrom_cons_of_commented commented, closeBlock_blank commented, inner,
            closeBlock_of_commented commented, map_blankSplit_of_commented commented]
      | false =>
          obtain ⟨sameNext, separatedLater⟩ :=
            blanked_next (fun isSlash => by simpa using separated isSlash) commented
          rw [blankFrom_cons_of_not_commented commented]
          by_cases skipped : context.blanked.countsBraces = true → c ≠ '{' ∧ c ≠ '}'
          · have skippedThere : context.countsBraces = true → c ≠ '{' ∧ c ≠ '}' := by
              cases context with
              | comment => simp [Context.countsBraces]
              | _ => exact skipped
            rw [closeBlock_skip skipped, sameNext, induction _ depth separatedLater,
              closeBlock_skip skippedThere, map_blankSplit_of_not_commented commented]
          · obtain ⟨counts, isBrace⟩ : context.blanked.countsBraces = true ∧ (c = '{' ∨ c = '}') := by
              by_contra neither
              refine skipped fun counts => ⟨fun opening => ?_, fun closing => ?_⟩
              · exact neither ⟨counts, .inl opening⟩
              · exact neither ⟨counts, .inr closing⟩
            obtain ⟨countsThere, next⟩ := inCode_of_brace commented counts isBrace
            have inner : ∀ depth, closeBlock .code depth (blankFrom .code rest) =
                (closeBlock .code depth rest).map (blankSplit .code) :=
              fun depth => induction .code depth (by simp)
            rw [next]
            rcases isBrace with rfl | rfl
            · rw [closeBlock_opening counts, inner, closeBlock_opening countsThere,
                map_blankSplit_of_not_commented commented, next]
            · cases depth with
              | zero =>
                  rw [closeBlock_end counts, closeBlock_end countsThere]
                  rfl
              | succ depth =>
                  rw [closeBlock_closing counts, inner, closeBlock_closing countsThere,
                    map_blankSplit_of_not_commented commented, next]

theorem splitBlock_blankComments (text : List Char) :
    splitBlock (blankComments text) =
      (blankComments (splitBlock text).1, blankComments (splitBlock text).2) := by
  have closed : closeBlock .code 0 (blankComments text) =
      (closeBlock .code 0 text).map (blankSplit .code) :=
    closeBlock_blankFrom .code 0 (by simp)
  rw [splitBlock, splitBlock]
  cases found : closeBlock .code 0 text with
  | none =>
      rw [closed, found]
      rfl
  | some split =>
      rw [closed, found]
      rfl

/-- Behind a head, no comment stands in front of an opening brace. -/
def BlockAdjoins (rest : List Char) : Prop :=
  (dropBlanks (blankComments rest)).head? = some '{' → (dropBlanks rest).head? = some '{'

instance (rest : List Char) : Decidable (BlockAdjoins rest) :=
  inferInstanceAs (Decidable (_ → _))

theorem blankComments_cons_of_plain {c : Char} (isPlain : isPlainChar c = true)
    (rest : List Char) : blankComments (c :: rest) = c :: blankComments rest := by
  simp only [isPlainChar, Bool.and_eq_true, bne_iff_ne] at isPlain
  obtain ⟨⟨⟨⟨notSingle, notDouble⟩, -⟩, -⟩, notSlash⟩ := isPlain
  have kept : isCommented .code c rest = false := by simp [isCommented, notSlash]
  have next : Context.code.next c = .code := by
    simp [Context.next, Context.afterCode, notSingle, notDouble, notSlash]
  rw [blankComments, blankFrom_cons_of_not_commented kept, next, blankComments]

theorem isPlainChar_of_isBlank {c : Char} (blank : isBlank c = true) : isPlainChar c = true := by
  have different : ∀ mark : Char, isBlank mark = false → c ≠ mark := by
    rintro mark notBlank rfl
    exact absurd (blank.symm.trans notBlank) (by decide)
  simp (disch := decide) [isPlainChar, different]

private theorem dropBlanks_blankComments {rest inside : List Char}
    (opened : dropBlanks rest = '{' :: inside) :
    dropBlanks (blankComments rest) = '{' :: blankComments inside := by
  induction rest with
  | nil => simp at opened
  | cons c rest induction =>
      rw [dropBlanks_cons] at opened
      split at opened
      · rename_i blank
        rw [blankComments_cons_of_plain (isPlainChar_of_isBlank blank), dropBlanks_cons, if_pos blank,
          induction opened]
      · obtain ⟨rfl, rfl⟩ := List.cons.inj opened
        have opening : blankComments ('{' :: rest) = '{' :: blankComments rest := rfl
        rw [opening, dropBlanks_cons, if_neg (by decide)]

private theorem trailingBlock_of_opened {text inside : List Char}
    (opened : dropBlanks text = '{' :: inside) : trailingBlock text = splitBlock inside := by
  simp only [trailingBlock, opened]

theorem trailingBlock_of_not_opened {text : List Char}
    (notOpened : (dropBlanks text).head? ≠ some '{') : trailingBlock text = ([], text) := by
  unfold trailingBlock
  split
  · rename_i inside opened
    simp [opened] at notOpened
  · rfl

/-- The block behind a head is blanked with the text if it adjoins the head. -/
theorem trailingBlock_blankComments {rest : List Char} (adjoins : BlockAdjoins rest) :
    trailingBlock (blankComments rest) =
      (blankComments (trailingBlock rest).1, blankComments (trailingBlock rest).2) := by
  by_cases opens : (dropBlanks rest).head? = some '{'
  · obtain ⟨inside, opened⟩ : ∃ inside, dropBlanks rest = '{' :: inside := by
      cases dropped : dropBlanks rest with
      | nil => simp [dropped] at opens
      | cons c inside =>
          obtain rfl : c = '{' := by simpa [dropped] using opens
          exact ⟨inside, rfl⟩
    rw [trailingBlock_of_opened (dropBlanks_blankComments opened), trailingBlock_of_opened opened,
      splitBlock_blankComments]
  · rw [trailingBlock_of_not_opened fun opensThere => opens (adjoins opensThere),
      trailingBlock_of_not_opened opens]
    rfl

end TableAtlas.Source
