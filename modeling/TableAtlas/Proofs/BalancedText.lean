import TableAtlas.Source.Block

/-!
# Balanced texts

A balanced text closes every string, comment and block that it opens.  The
brace scanner crosses such a text without changing its depth, so a block with
a balanced body ends at the brace right behind the body, whatever follows it.
-/

namespace TableAtlas.Source

open TableAtlas.Text

/-- Puts further text in front of the first part of a split text. -/
def prepending {β : Type} (front : List Char) (split : List Char × β) : List Char × β :=
  (front ++ split.1, split.2)

@[simp] theorem prepending_mk {β : Type} (front text : List Char) (found : β) :
    prepending front (text, found) = (front ++ text, found) := rfl

@[simp] theorem map_prepending_nil {β : Type} (result : Option (List Char × β)) :
    result.map (prepending []) = result := by
  cases result <;> rfl

theorem map_prepending_eq_some_iff {β : Type} {front text : List Char}
    {result : Option (List Char × β)} {found : β} :
    result.map (prepending front) = some (text, found) ↔
      ∃ tail, result = some (tail, found) ∧ text = front ++ tail := by
  cases result with
  | none => simp
  | some split =>
      obtain ⟨tail, behind⟩ := split
      simp only [Option.map_some, prepending_mk, Option.some.injEq, Prod.mk.injEq]
      constructor
      · rintro ⟨rfl, rfl⟩
        exact ⟨tail, ⟨rfl, rfl⟩, rfl⟩
      · rintro ⟨_, ⟨rfl, rfl⟩, rfl⟩
        exact ⟨rfl, rfl⟩

theorem map_prepending_prepending {β : Type} (front middle : List Char)
    (result : Option (List Char × β)) :
    (result.map (prepending middle)).map (prepending front) =
      result.map (prepending (front ++ middle)) := by
  cases result <;> simp [prepending]

/-- Whether a character of program text neither opens nor closes anything. -/
def isPlainChar (c : Char) : Bool :=
  c != '\'' && c != '"' && c != '{' && c != '}' && c != '/'

/-- A text in which every string, comment and block is closed again. -/
inductive Balanced : List Char → Prop where
  | nil : Balanced []
  | plain {c : Char} {rest : List Char} :
      isPlainChar c = true → Balanced rest → Balanced (c :: rest)
  | slash {rest : List Char} :
      rest.head? ≠ some '/' → Balanced rest → Balanced ('/' :: rest)
  | string {quote : Char} {inside rest : List Char} :
      quote = '\'' ∨ quote = '"' → quote ∉ inside → Balanced rest →
      Balanced (quote :: (inside ++ quote :: rest))
  | comment {inside rest : List Char} :
      '\n' ∉ inside → Balanced rest → Balanced ('/' :: '/' :: (inside ++ '\n' :: rest))
  | block {inner rest : List Char} :
      Balanced inner → Balanced rest → Balanced ('{' :: (inner ++ '}' :: rest))

/-- A character that is no brace, or stands where braces do not count, is passed. -/
theorem closeBlock_skip {context : Context} {depth : Nat} {c : Char} {rest : List Char}
    (skipped : context.countsBraces = true → c ≠ '{' ∧ c ≠ '}') :
    closeBlock context depth (c :: rest) =
      (closeBlock (context.next c) depth rest).map (prepending [c]) := by
  cases counts : context.countsBraces with
  | false =>
      simp only [closeBlock, counts]
      rfl
  | true =>
      obtain ⟨notOpening, notClosing⟩ := skipped counts
      simp only [closeBlock, counts, notOpening, notClosing]
      rfl

theorem closeBlock_opening {context : Context} (counts : context.countsBraces = true)
    {depth : Nat} {rest : List Char} :
    closeBlock context depth ('{' :: rest) =
      (closeBlock .code (depth + 1) rest).map (prepending ['{']) := by
  cases context with
  | code => rfl
  | slash => rfl
  | string quote => simp [Context.countsBraces] at counts
  | comment => simp [Context.countsBraces] at counts

theorem closeBlock_closing {context : Context} (counts : context.countsBraces = true)
    {depth : Nat} {rest : List Char} :
    closeBlock context (depth + 1) ('}' :: rest) =
      (closeBlock .code depth rest).map (prepending ['}']) := by
  cases context with
  | code => rfl
  | slash => rfl
  | string quote => simp [Context.countsBraces] at counts
  | comment => simp [Context.countsBraces] at counts

theorem closeBlock_end {context : Context} (counts : context.countsBraces = true)
    {rest : List Char} : closeBlock context 0 ('}' :: rest) = some ([], rest) := by
  simp [closeBlock, counts]

theorem closeBlock_plain {depth : Nat} {c : Char} {rest : List Char}
    (isPlain : isPlainChar c = true) :
    closeBlock .code depth (c :: rest) = (closeBlock .code depth rest).map (prepending [c]) := by
  simp only [isPlainChar, Bool.and_eq_true, bne_iff_ne, ne_eq] at isPlain
  obtain ⟨⟨⟨⟨notSingle, notDouble⟩, notOpening⟩, notClosing⟩, notSlash⟩ := isPlain
  have next : Context.code.next c = .code := by
    simp [Context.next, Context.afterCode, notSingle, notDouble, notSlash]
  rw [closeBlock_skip fun _ => ⟨notOpening, notClosing⟩, next]

theorem closeBlock_quote {depth : Nat} {quote : Char} {rest : List Char}
    (isQuote : quote = '\'' ∨ quote = '"') :
    closeBlock .code depth (quote :: rest) =
      (closeBlock (.string quote) depth rest).map (prepending [quote]) := by
  have next : Context.code.next quote = .string quote := by
    simp [Context.next, Context.afterCode, isQuote]
  have notBrace : quote ≠ '{' ∧ quote ≠ '}' := by
    rcases isQuote with rfl | rfl <;> decide
  rw [closeBlock_skip fun _ => notBrace, next]

theorem closeBlock_slash {depth : Nat} {rest : List Char} (separated : rest.head? ≠ some '/') :
    closeBlock .code depth ('/' :: rest) =
      (closeBlock .code depth rest).map (prepending ['/']) := by
  have next : Context.code.next '/' = .slash := rfl
  have same : closeBlock .slash depth rest = closeBlock .code depth rest := by
    cases rest with
    | nil => rfl
    | cons c rest =>
        have different : c ≠ '/' := by
          intro same
          exact separated (by simp [same])
        simp [closeBlock, Context.next, Context.countsBraces, different]
  rw [closeBlock_skip (by decide), next, same]

theorem closeBlock_slashes {depth : Nat} {rest : List Char} :
    closeBlock .code depth ('/' :: '/' :: rest) =
      (closeBlock .comment depth rest).map (prepending ['/', '/']) := by
  have first : Context.code.next '/' = .slash := rfl
  have second : Context.slash.next '/' = .comment := rfl
  rw [closeBlock_skip (by decide), first, closeBlock_skip (by decide), second,
    map_prepending_prepending]
  rfl

/-- In this context braces do not count, and only the given character ends it. -/
structure Context.EndsAt (context : Context) (terminator : Char) : Prop where
  uncounted : context.countsBraces = false
  ends : context.next terminator = .code
  stays : ∀ c, c ≠ terminator → context.next c = context

theorem Context.endsAt_string (quote : Char) : (Context.string quote).EndsAt quote where
  uncounted := rfl
  ends := by simp [Context.next]
  stays := by simp +contextual [Context.next]

theorem Context.endsAt_comment : Context.comment.EndsAt '\n' where
  uncounted := rfl
  ends := rfl
  stays := by simp +contextual [Context.next]

theorem Context.EndsAt.closeBlock_cons {context : Context} {terminator : Char}
    (endsAt : context.EndsAt terminator) {depth : Nat} {c : Char} {rest : List Char} :
    closeBlock context depth (c :: rest) =
      (closeBlock (context.next c) depth rest).map (prepending [c]) :=
  closeBlock_skip fun counted => absurd counted (by simp [endsAt.uncounted])

theorem Context.EndsAt.closeBlock_append {context : Context} {terminator : Char}
    (endsAt : context.EndsAt terminator) {depth : Nat} {inside rest : List Char}
    (absent : terminator ∉ inside) :
    closeBlock context depth (inside ++ terminator :: rest) =
      (closeBlock .code depth rest).map (prepending (inside ++ [terminator])) := by
  induction inside with
  | nil => rw [List.nil_append, endsAt.closeBlock_cons, endsAt.ends, List.nil_append]
  | cons c inside induction =>
      simp only [List.mem_cons, not_or] at absent
      rw [List.cons_append, endsAt.closeBlock_cons, endsAt.stays c (Ne.symm absent.1),
        induction absent.2]
      simp only [map_prepending_prepending, List.cons_append, List.nil_append]

/-- The scanner leaves a string or a comment only at the character that ends it. -/
theorem Context.EndsAt.exists_end {context : Context} {terminator : Char}
    (endsAt : context.EndsAt terminator) {depth : Nat} {text body after : List Char}
    (closed : closeBlock context depth text = some (body, after)) :
    ∃ inside behind tail, terminator ∉ inside ∧ text = inside ++ terminator :: behind ∧
      closeBlock .code depth behind = some (tail, after) ∧ body = inside ++ terminator :: tail := by
  induction text generalizing body with
  | nil => simp [closeBlock] at closed
  | cons c text induction =>
      rw [endsAt.closeBlock_cons] at closed
      obtain ⟨tail, found, rfl⟩ := map_prepending_eq_some_iff.mp closed
      by_cases isEnd : c = terminator
      · subst c
        rw [endsAt.ends] at found
        exact ⟨[], text, tail, by simp, rfl, found, rfl⟩
      · rw [endsAt.stays c isEnd] at found
        obtain ⟨inside, behind, rest, absent, rfl, later, rfl⟩ := induction found
        refine ⟨c :: inside, behind, rest, ?_, rfl, later, rfl⟩
        simp [absent, Ne.symm isEnd]

/-- The scanner crosses a balanced text and stands in program text behind it. -/
theorem Balanced.closeBlock_append {text : List Char} (balanced : Balanced text) (depth : Nat)
    {rest : List Char} (separated : rest.head? ≠ some '/') :
    closeBlock .code depth (text ++ rest) =
      (closeBlock .code depth rest).map (prepending text) := by
  induction balanced generalizing depth rest with
  | nil => simp
  | @plain c text isPlain balanced induction =>
      rw [List.cons_append, closeBlock_plain isPlain, induction depth separated]
      simp only [map_prepending_prepending, List.cons_append, List.nil_append]
  | @slash text notComment balanced induction =>
      have separatedText : (text ++ rest).head? ≠ some '/' := by
        cases text with
        | nil => exact separated
        | cons c text => simpa using notComment
      rw [List.cons_append, closeBlock_slash separatedText, induction depth separated]
      simp only [map_prepending_prepending, List.cons_append, List.nil_append]
  | @string quote inside text isQuote absent balanced induction =>
      rw [List.cons_append, closeBlock_quote isQuote, List.append_assoc, List.cons_append,
        (Context.endsAt_string quote).closeBlock_append absent,
        induction depth separated]
      simp only [map_prepending_prepending, List.append_assoc, List.cons_append,
        List.nil_append]
  | @comment inside text absent balanced induction =>
      rw [List.cons_append, List.cons_append, closeBlock_slashes, List.append_assoc,
        List.cons_append, Context.endsAt_comment.closeBlock_append absent,
        induction depth separated]
      simp only [map_prepending_prepending, List.append_assoc, List.cons_append,
        List.nil_append]
  | @block inner text innerBalanced balanced innerInduction induction =>
      have crossedOneDeeper : closeBlock .code (depth + 1) (inner ++ '}' :: (text ++ rest)) = _ :=
        innerInduction (depth + 1) (by simp)
      rw [List.cons_append, closeBlock_opening rfl, List.append_assoc, List.cons_append,
        crossedOneDeeper, closeBlock_closing rfl, induction depth separated]
      simp only [map_prepending_prepending, List.cons_append, List.nil_append]

theorem Balanced.splitBlock_append {text : List Char} (balanced : Balanced text)
    (rest : List Char) : splitBlock (text ++ '}' :: rest) = (text, rest) := by
  have closed : closeBlock .code 0 (text ++ '}' :: rest) = some (text, rest) := by
    rw [balanced.closeBlock_append 0 (by simp)]
    simp [closeBlock, Context.countsBraces]
  simp [splitBlock, closed]

/-- A block with a balanced body that directly follows a declaration is taken whole. -/
theorem Balanced.trailingBlock_append {text : List Char} (balanced : Balanced text)
    (rest : List Char) :
    trailingBlock (' ' :: '{' :: (text ++ '}' :: rest)) = (text, rest) := by
  have opened : dropBlanks (' ' :: '{' :: (text ++ '}' :: rest)) =
      '{' :: (text ++ '}' :: rest) := by
    simp [dropBlanks_cons, show isBlank ' ' = true by decide, show isBlank '{' = false by decide]
  simp [trailingBlock, opened, balanced.splitBlock_append]

namespace Balanced

theorem append {first second : List Char} (firstBalanced : Balanced first)
    (secondBalanced : Balanced second) (separated : second.head? ≠ some '/') :
    Balanced (first ++ second) := by
  induction firstBalanced with
  | nil => exact secondBalanced
  | plain isPlain _ induction => exact .plain isPlain induction
  | @slash text notComment _ induction =>
      refine .slash ?_ induction
      cases text with
      | nil => exact separated
      | cons c text => simpa using notComment
  | string isQuote absent _ induction =>
      simpa using Balanced.string isQuote absent induction
  | comment absent _ induction =>
      simpa using Balanced.comment absent induction
  | block innerBalanced _ _ induction =>
      simpa using Balanced.block innerBalanced induction

/-- A text without quotes, braces and slashes may stand in front of a balanced one. -/
theorem plain_append {text rest : List Char} (isPlain : text.all isPlainChar = true)
    (balanced : Balanced rest) : Balanced (text ++ rest) := by
  induction text with
  | nil => exact balanced
  | cons c text induction =>
      simp only [List.all_cons, Bool.and_eq_true] at isPlain
      exact .plain isPlain.1 (induction isPlain.2)

theorem of_plain {text : List Char} (isPlain : text.all isPlainChar = true) :
    Balanced text := by
  simpa using plain_append isPlain .nil

theorem space : Balanced [' '] :=
  .plain (by decide) .nil

theorem name {inside rest : List Char} (absent : '"' ∉ inside) (balanced : Balanced rest) :
    Balanced ('"' :: (inside ++ '"' :: rest)) :=
  .string (.inr rfl) absent balanced

end Balanced

end TableAtlas.Source
