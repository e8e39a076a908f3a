import Mathlib.Data.String.Basic
import TableAtlas.Proofs.BalancedText

/-!
# Bodies of blocks

The brace scanner counts depths and keeps no stack, while balanced texts are built
by nesting.  They agree: what the scanner takes as the body of a block is balanced,
and a balanced text in front of a closing brace is what it takes.  A text therefore
starts with at most one body of a block, and without one it is taken whole.
-/

namespace TableAtlas.Source

open TableAtlas.Text

/-- A text that is balanced but for the closing braces of blocks that were opened
before it, of which there are `depth`. -/
inductive Closes : Nat → List Char → Prop where
  | balanced {text : List Char} : Balanced text → Closes 0 text
  | brace {depth : Nat} {first rest : List Char} :
      Balanced first → Closes depth rest → Closes (depth + 1) (first ++ '}' :: rest)

namespace Closes

theorem prepend {depth : Nat} {text : List Char} (closes : Closes depth text)
    (front : List Char)
    (allowed : ∀ start, start <+: text → Balanced start → Balanced (front ++ start)) :
    Closes depth (front ++ text) := by
  cases closes with
  | balanced balanced => exact .balanced (allowed text List.prefix_rfl balanced)
  | @brace depth first rest balanced closes =>
      rw [← List.append_assoc]
      exact .brace (allowed first (List.prefix_append first _) balanced) closes

theorem plain {depth : Nat} {c : Char} {text : List Char} (isPlain : isPlainChar c = true)
    (closes : Closes depth text) : Closes depth (c :: text) :=
  closes.prepend [c] fun _ _ balanced => .plain isPlain balanced

theorem slash {depth : Nat} {text : List Char} (separated : text.head? ≠ some '/')
    (closes : Closes depth text) : Closes depth ('/' :: text) := by
  apply closes.prepend ['/']
  intro start isStart balanced
  refine .slash ?_ balanced
  intro commented
  obtain ⟨tail, rfl⟩ := List.head?_eq_some_iff.mp commented
  obtain ⟨rest, rfl⟩ := isStart
  exact separated rfl

theorem string {depth : Nat} {quote : Char} {inside text : List Char}
    (isQuote : quote = '\'' ∨ quote = '"') (absent : quote ∉ inside)
    (closes : Closes depth text) : Closes depth (quote :: (inside ++ quote :: text)) := by
  have joined := closes.prepend (quote :: (inside ++ [quote])) fun start _ balanced => by
    simpa using Balanced.string isQuote absent balanced
  simpa using joined

theorem comment {depth : Nat} {inside text : List Char} (absent : '\n' ∉ inside)
    (closes : Closes depth text) : Closes depth ('/' :: '/' :: (inside ++ '\n' :: text)) := by
  have joined := closes.prepend ('/' :: '/' :: (inside ++ ['\n'])) fun start _ balanced => by
    simpa using Balanced.comment absent balanced
  simpa using joined

theorem opening {depth : Nat} {text : List Char} (closes : Closes (depth + 1) text) :
    Closes depth ('{' :: text) := by
  cases closes with
  | @brace _ first rest balanced closes =>
      have joined := closes.prepend ('{' :: (first ++ ['}'])) fun start _ later => by
        simpa using Balanced.block balanced later
      simpa using joined

theorem closing {depth : Nat} {text : List Char} (closes : Closes depth text) :
    Closes (depth + 1) ('}' :: text) :=
  .brace .nil closes

end Closes

/-- What a character does in program text. -/
inductive CodeChar : Char → Prop where
  | plain {c : Char} : isPlainChar c = true → CodeChar c
  | quote {c : Char} : c = '\'' ∨ c = '"' → CodeChar c
  | slash : CodeChar '/'
  | opening : CodeChar '{'
  | closing : CodeChar '}'

theorem codeChar (c : Char) : CodeChar c := by
  have roles : isPlainChar c = true ∨ (c = '\'' ∨ c = '"') ∨ c = '/' ∨ c = '{' ∨ c = '}' := by
    simp only [isPlainChar, Bool.and_eq_true, bne_iff_ne]
    tauto
  rcases roles with isPlain | isQuote | rfl | rfl | rfl
  · exact .plain isPlain
  · exact .quote isQuote
  · exact .slash
  · exact .opening
  · exact .closing

/-- The body that the scanner takes closes what it opens and the blocks opened before it. -/
theorem closes_of_closeBlock {depth : Nat} {text body after : List Char}
    (closed : closeBlock .code depth text = some (body, after)) : Closes depth body := by
  induction size : text.length using Nat.strong_induction_on generalizing depth text body with
  | _ size induction =>
      subst size
      cases text with
      | nil => simp [closeBlock] at closed
      | cons c rest =>
          have later : ∀ {depth : Nat} {text body : List Char},
              text.length < (c :: rest).length →
              closeBlock .code depth text = some (body, after) → Closes depth body :=
            fun shorter found => induction _ shorter found rfl
          cases codeChar c with
          | plain isPlain =>
              rw [closeBlock_plain isPlain] at closed
              obtain ⟨tail, found, rfl⟩ := map_prepending_eq_some_iff.mp closed
              exact (later (by simp) found).plain isPlain
          | quote isQuote =>
              rw [closeBlock_quote isQuote] at closed
              obtain ⟨tail, found, rfl⟩ := map_prepending_eq_some_iff.mp closed
              obtain ⟨inside, behind, rest, absent, rfl, ended, rfl⟩ :=
                (Context.endsAt_string c).exists_end found
              exact (later (by simp; omega) ended).string isQuote absent
          | slash =>
              by_cases commented : rest.head? = some '/'
              · obtain ⟨rest, rfl⟩ := List.head?_eq_some_iff.mp commented
                rw [closeBlock_slashes] at closed
                obtain ⟨tail, found, rfl⟩ := map_prepending_eq_some_iff.mp closed
                obtain ⟨inside, behind, rest, absent, rfl, ended, rfl⟩ :=
                  Context.endsAt_comment.exists_end found
                exact (later (by simp; omega) ended).comment absent
              · rw [closeBlock_slash commented] at closed
                obtain ⟨tail, found, rfl⟩ := map_prepending_eq_some_iff.mp closed
                refine (later (by simp) found).slash ?_
                rw [closeBlock_eq_append found] at commented
                intro slashed
                obtain ⟨tail, rfl⟩ := List.head?_eq_some_iff.mp slashed
                exact commented rfl
          | opening =>
              rw [closeBlock_opening rfl] at closed
              obtain ⟨tail, found, rfl⟩ := map_prepending_eq_some_iff.mp closed
              exact (later (by simp) found).opening
          | closing =>
              cases depth with
              | zero =>
                  rw [closeBlock_end rfl] at closed
                  cases closed
                  exact .balanced .nil
              | succ depth =>
                  rw [closeBlock_closing rfl] at closed
                  obtain ⟨tail, found, rfl⟩ := map_prepending_eq_some_iff.mp closed
                  exact (later (by simp) found).closing

/-- The scanner takes a text as the body of a block exactly if the text is balanced
and a closing brace stands behind it. -/
theorem closeBlock_eq_some_iff {text body after : List Char} :
    closeBlock .code 0 text = some (body, after) ↔
      Balanced body ∧ text = body ++ '}' :: after := by
  constructor
  · intro closed
    refine ⟨?_, closeBlock_eq_append closed⟩
    cases closes_of_closeBlock closed with
    | balanced balanced => exact balanced
  · rintro ⟨balanced, rfl⟩
    rw [balanced.closeBlock_append 0 (by simp), closeBlock_end rfl]
    simp

/-- The text starts with the body of a block whose opening brace has just been read. -/
def StartsWithBody (text body : List Char) : Prop :=
  Balanced body ∧ body ++ ['}'] <+: text

theorem startsWithBody_iff {text body : List Char} :
    StartsWithBody text body ↔ ∃ after, closeBlock .code 0 text = some (body, after) := by
  simp only [closeBlock_eq_some_iff, exists_and_left]
  apply and_congr_right
  intro _
  simp only [List.IsPrefix, List.append_assoc, List.singleton_append, eq_comm]

/-- A text starts with at most one body of a block. -/
theorem StartsWithBody.unique {text first second : List Char}
    (isFirst : StartsWithBody text first) (isSecond : StartsWithBody text second) :
    first = second := by
  obtain ⟨after, found⟩ := startsWithBody_iff.mp isFirst
  obtain ⟨behind, again⟩ := startsWithBody_iff.mp isSecond
  rw [found] at again
  exact congrArg Prod.fst (Option.some.inj again)

theorem blockFrom_utf8Len (before text : List Char) :
    blockFrom (String.utf8Len before) (before ++ text) = (splitBlock text).1 := by
  induction before with
  | nil =>
      cases text with
      | nil => rfl
      | cons c text => simp [blockFrom]
  | cons c before induction =>
      have positive : 0 < c.utf8Size := c.utf8Size_pos
      rw [List.cons_append, blockFrom, String.utf8Len_cons, if_neg (by omega), if_neg (by omega),
        Nat.add_sub_cancel, induction]

/-- From every boundary between characters, the block is the only body with which the
rest of the text starts, or else the whole rest. -/
theorem blockFrom_startsWithBody (before text : List Char) :
    (∀ first second, StartsWithBody text first → StartsWithBody text second →
      first = second) ∧
    (∀ body, StartsWithBody text body →
      blockFrom (String.utf8Len before) (before ++ text) = body) ∧
    ((¬∃ body, StartsWithBody text body) →
      blockFrom (String.utf8Len before) (before ++ text) = text) := by
  refine ⟨fun _ _ => StartsWithBody.unique, ?_, ?_⟩
  · rintro body ⟨balanced, after, rfl⟩
    rw [blockFrom_utf8Len, List.append_assoc, List.singleton_append, balanced.splitBlock_append]
  · intro unclosed
    rw [blockFrom_utf8Len]
    cases closed : closeBlock .code 0 text with
    | none => simp [splitBlock, closed]
    | some found => exact absurd ⟨found.1, startsWithBody_iff.mpr ⟨found.2, closed⟩⟩ unclosed

end TableAtlas.Source
