import Mathlib.Data.List.Chain
import TableAtlas.Source.NamePrefix
import TableAtlas.Source.Property

/-!
# Collapsed blanks

The blanks of a relation expression are collapsed: none stands at an end of the
text or next to another one.  Stripping the prefix from the names in double quotes
leaves them so, because a quote stays in front of each name and behind it.
-/

namespace TableAtlas

namespace Text

/-- Whether at most one of two neighbouring characters is blank. -/
def BlanksApart (c d : Char) : Prop :=
  isBlank c = false ∨ isBlank d = false

/-- Whether no blank stands at an end of a text or next to another blank. -/
structure IsCollapsed (text : List Char) : Prop where
  front : ∀ c ∈ text.head?, isBlank c = false
  back : ∀ c ∈ text.getLast?, isBlank c = false
  apart : text.IsChain BlanksApart

theorem isBlank_head?_dropBlanks (text : List Char) :
    ∀ c ∈ (dropBlanks text).head?, isBlank c = false := by
  induction text with
  | nil => simp
  | cons first rest induction =>
      rw [dropBlanks_cons]
      split
      · exact induction
      · rename_i notBlank
        simpa using notBlank

theorem exists_dropFinalBlanks_append (text : List Char) :
    ∃ final, dropFinalBlanks text ++ final = text := by
  obtain ⟨dropped, whole⟩ := dropBlanks_suffix text.reverse
  refine ⟨dropped.reverse, ?_⟩
  rw [dropFinalBlanks, ← List.reverse_append, whole, List.reverse_reverse]

theorem isBlank_getLast?_dropFinalBlanks (text : List Char) :
    ∀ c ∈ (dropFinalBlanks text).getLast?, isBlank c = false := by
  rw [dropFinalBlanks, List.getLast?_reverse]
  exact isBlank_head?_dropBlanks text.reverse

/-- A text whose blanks stand apart is collapsed when it is trimmed. -/
theorem isCollapsed_trim {text : List Char} (apart : text.IsChain BlanksApart) :
    IsCollapsed (trim text) where
  front := by
    intro c first
    obtain ⟨final, whole⟩ := exists_dropFinalBlanks_append (dropBlanks text)
    apply isBlank_head?_dropBlanks text
    rw [← whole, List.head?_append]
    exact Option.or_eq_some_iff.mpr (.inl first)
  back := isBlank_getLast?_dropFinalBlanks (dropBlanks text)
  apart := by
    obtain ⟨final, whole⟩ := exists_dropFinalBlanks_append (dropBlanks text)
    have behindFront := apart.suffix (dropBlanks_suffix text)
    rw [← whole] at behindFront
    exact behindFront.left_of_append

private theorem joinBlanks_apart (afterBlank : Bool) (text : List Char) :
    (joinBlanks afterBlank text).IsChain BlanksApart ∧
      (afterBlank = true → ∀ c ∈ (joinBlanks afterBlank text).head?, isBlank c = false) := by
  fun_induction joinBlanks afterBlank text with
  | case1 afterBlank => simp
  | case2 c rest blank induction => exact induction
  | case3 afterBlank c rest blank notAfterBlank induction =>
      refine ⟨induction.1.cons fun next first => .inr (induction.2 rfl next first), ?_⟩
      intro isAfterBlank
      exact absurd isAfterBlank notAfterBlank
  | case4 afterBlank c rest notBlank induction =>
      have isNotBlank : isBlank c = false := by simpa using notBlank
      refine ⟨induction.1.cons fun next _ => .inl isNotBlank, fun _ => ?_⟩
      simpa using isNotBlank

theorem isCollapsed_collapseBlanks (text : List Char) : IsCollapsed (collapseBlanks text) :=
  isCollapsed_trim (joinBlanks_apart false text).1

theorem isCollapsed_nil : IsCollapsed [] := by
  constructor <;> simp

/-! ## Words -/

/-- The words of a text: its longest parts without blanks. -/
def words (text : List Char) : List (List Char) :=
  (text.splitOnP isBlank).filter fun word => !word.isEmpty

/-- The words of a text with a single space between them. -/
def spacedWords (text : List Char) : List Char :=
  [' '].intercalate (words text)

section Words

variable {c d : Char} (rest : List Char)

theorem spacedWords_eq_nil_iff {text : List Char} : spacedWords text = [] ↔ words text = [] := by
  cases parts : words text with
  | nil => simp [spacedWords, parts]
  | cons word others =>
      have member : word ∈ words text := by simp [parts]
      have nonempty : word ≠ [] := by simpa using (List.mem_filter.mp member).2
      cases others <;> simp [spacedWords, parts, nonempty]

theorem spacedWords_cons_of_blank (blank : isBlank c = true) :
    spacedWords (c :: rest) = spacedWords rest := by
  simp [spacedWords, words, List.splitOnP_cons_eq_if_modifyHead, blank]

theorem spacedWords_singleton (notBlank : isBlank c = false) : spacedWords [c] = [c] := by
  simp [spacedWords, words, List.splitOnP_cons_eq_if_modifyHead, notBlank]

/-- A word ends at a blank, and a space stands behind it if another word follows. -/
theorem spacedWords_cons_of_ended (notBlank : isBlank c = false) (ended : isBlank d = true) :
    spacedWords (c :: d :: rest) =
      if spacedWords rest = [] then [c] else c :: ' ' :: spacedWords rest := by
  have split : words (c :: d :: rest) = [c] :: words rest := by
    simp [words, List.splitOnP_cons_eq_if_modifyHead, notBlank, ended]
  simp only [spacedWords_eq_nil_iff]
  rw [spacedWords, split, spacedWords]
  cases words rest <;> simp

theorem spacedWords_cons_of_continued (notBlank : isBlank c = false)
    (continued : isBlank d = false) :
    spacedWords (c :: d :: rest) = c :: spacedWords (d :: rest) := by
  obtain ⟨word, others, split⟩ := List.exists_cons_of_ne_nil (List.splitOnP_ne_nil isBlank rest)
  have first : words (d :: rest) = (d :: word) :: others.filter fun word => !word.isEmpty := by
    simp [words, List.splitOnP_cons_eq_if_modifyHead, continued, split]
  have longer : words (c :: d :: rest) =
      (c :: d :: word) :: others.filter fun word => !word.isEmpty := by
    simp [words, List.splitOnP_cons_eq_if_modifyHead, notBlank, continued, split]
  rw [spacedWords, spacedWords, first, longer]
  cases others.filter fun word => !word.isEmpty <;> simp

theorem dropFinalBlanks_cons (c : Char) (text : List Char) :
    dropFinalBlanks (c :: text) =
      if dropFinalBlanks text = [] ∧ isBlank c = true then [] else c :: dropFinalBlanks text := by
  have last : dropBlanks (text.reverse ++ [c]) =
      if (dropBlanks text.reverse).isEmpty then dropBlanks [c]
      else dropBlanks text.reverse ++ [c] := List.dropWhile_append
  rw [dropFinalBlanks, List.reverse_cons, last, dropFinalBlanks]
  cases dropBlanks text.reverse with
  | nil => by_cases blank : isBlank c = true <;> simp [dropBlanks_cons, blank]
  | cons first others => simp

theorem joinBlanks_cons_of_not_blank (afterBlank : Bool) (notBlank : isBlank c = false) :
    joinBlanks afterBlank (c :: rest) = c :: joinBlanks false rest := by
  simp [joinBlanks, notBlank]

theorem joinBlanks_cons_of_blank (blank : isBlank c = true) :
    joinBlanks true (c :: rest) = joinBlanks true rest ∧
      joinBlanks false (c :: rest) = ' ' :: joinBlanks true rest := by
  simp [joinBlanks, blank]

/-- Behind a blank the joined text consists of the words, up to a final space. -/
theorem dropFinalBlanks_joinBlanks (text : List Char) :
    dropFinalBlanks (joinBlanks true text) = spacedWords text := by
  induction text with
  | nil => rfl
  | cons c rest induction =>
      by_cases blank : isBlank c = true
      · rw [(joinBlanks_cons_of_blank rest blank).1, induction, spacedWords_cons_of_blank rest blank]
      · rw [Bool.not_eq_true] at blank
        rw [joinBlanks_cons_of_not_blank rest true blank, dropFinalBlanks_cons, blank,
          if_neg (by simp)]
        cases rest with
        | nil => rw [spacedWords_singleton blank]; rfl
        | cons d rest =>
            by_cases ended : isBlank d = true
            · obtain ⟨skipped, joined⟩ := joinBlanks_cons_of_blank rest ended
              rw [skipped, spacedWords_cons_of_blank rest ended] at induction
              have space : isBlank ' ' = true := by decide
              rw [joined, dropFinalBlanks_cons, induction, spacedWords_cons_of_ended rest blank ended]
              by_cases noWords : spacedWords rest = [] <;> simp [noWords, space]
            · rw [Bool.not_eq_true] at ended
              rw [joinBlanks_cons_of_not_blank rest true ended] at induction
              rw [joinBlanks_cons_of_not_blank rest false ended, induction,
                spacedWords_cons_of_continued rest blank ended]

/-- Collapsing the blanks of a text leaves its words with a single space between them. -/
theorem collapseBlanks_eq_spacedWords (text : List Char) :
    collapseBlanks text = spacedWords text := by
  have behindFront : dropBlanks (joinBlanks false text) = joinBlanks true text := by
    have notBlank := (joinBlanks_apart true text).2 rfl
    have sameBehindFront : dropBlanks (joinBlanks false text) =
        dropBlanks (joinBlanks true text) := by
      cases text with
      | nil => rfl
      | cons c rest =>
          by_cases blank : isBlank c = true
          · obtain ⟨skipped, joined⟩ := joinBlanks_cons_of_blank rest blank
            rw [skipped, joined]
            rfl
          · rw [Bool.not_eq_true] at blank
            rw [joinBlanks_cons_of_not_blank rest false blank,
              joinBlanks_cons_of_not_blank rest true blank]
    rw [sameBehindFront]
    cases joined : joinBlanks true text with
    | nil => rfl
    | cons first others =>
        rw [dropBlanks_cons, notBlank first (by simp [joined]), if_neg Bool.false_ne_true]
  rw [collapseBlanks, trim, behindFront, dropFinalBlanks_joinBlanks]

end Words

end Text

namespace Source

open TableAtlas.Text

variable {common : NamePrefix} {text stripped : List Char}

/-- Only the parts of a text between double quotes lose a prefix. -/
inductive StripsNames (common : NamePrefix) : List Char → List Char → Prop
  | nil : StripsNames common [] []
  | char (c : Char) {text stripped : List Char} (rest : StripsNames common text stripped) :
      StripsNames common (c :: text) (c :: stripped)
  | name (name : List Char) {text stripped : List Char} (rest : StripsNames common text stripped) :
      StripsNames common ('"' :: (name ++ '"' :: text))
        ('"' :: (common.strip name ++ '"' :: stripped))

theorem strip_suffix (common : NamePrefix) (name : List Char) : common.strip name <:+ name := by
  unfold NamePrefix.strip
  split
  · exact List.drop_suffix ..
  · exact List.suffix_rfl

namespace StripsNames

theorem refl (common : NamePrefix) (text : List Char) : StripsNames common text text := by
  induction text with
  | nil => exact .nil
  | cons c text induction => exact .char c induction

theorem head?_eq (strips : StripsNames common text stripped) : stripped.head? = text.head? := by
  cases strips with
  | nil => rfl
  | char => rfl
  | name => rfl

theorem getLast?_eq (strips : StripsNames common text stripped) :
    stripped.getLast? = text.getLast? := by
  induction strips with
  | nil => rfl
  | char c rest induction => rw [List.getLast?_cons, List.getLast?_cons, induction]
  | name name rest induction =>
      simp only [List.getLast?_cons, List.getLast?_append, induction, Option.some_or]

theorem apart (strips : StripsNames common text stripped) (apart : text.IsChain BlanksApart) :
    stripped.IsChain BlanksApart := by
  have isNotBlank : isBlank '"' = false := by decide
  induction strips with
  | nil => exact apart
  | char c rest induction =>
      obtain ⟨fromFirst, later⟩ := List.isChain_cons.mp apart
      exact (induction later).cons fun next first => fromFirst next (rest.head?_eq ▸ first)
  | name name rest induction =>
      obtain ⟨-, inside⟩ := List.isChain_cons.mp apart
      obtain ⟨nameApart, restApart, -⟩ := List.isChain_append.mp inside
      have strippedName := nameApart.suffix (strip_suffix common name)
      have strippedRest := (induction (List.isChain_cons.mp restApart).2).cons
        fun next _ => (.inl isNotBlank : BlanksApart '"' next)
      refine .cons (List.isChain_append.mpr ⟨strippedName, strippedRest, ?_⟩)
        fun next _ => .inl isNotBlank
      intro last _ quote isQuote
      obtain rfl : '"' = quote := by simpa using isQuote
      exact .inr isNotBlank

theorem isCollapsed (strips : StripsNames common text stripped) (collapsed : IsCollapsed text) :
    IsCollapsed stripped where
  front := strips.head?_eq ▸ collapsed.front
  back := strips.getLast?_eq ▸ collapsed.back
  apart := strips.apart collapsed.apart

end StripsNames

/-- The part of an expression that has been read but not yet returned. -/
private def heldBack : Option (List Char) → List Char
  | none => []
  | some collected => '"' :: collected.reverse

private theorem stripsNames_stripAfter (common : NamePrefix) (opened : Option (List Char))
    (text : List Char) :
    StripsNames common (heldBack opened ++ text) (common.stripAfter opened text) := by
  fun_induction common.stripAfter opened text with
  | case1 => exact .nil
  | case2 collected => simpa [heldBack] using StripsNames.refl common ('"' :: collected.reverse)
  | case3 rest induction => exact induction
  | case4 c rest notQuote induction => exact .char c induction
  | case5 rest induction => exact .char '"' induction
  | case6 c rest notQuote induction => simpa [heldBack] using induction
  | case7 rest last earlier induction =>
      simpa [heldBack] using StripsNames.name (last :: earlier).reverse induction
  | case8 c rest last earlier notQuote induction => simpa [heldBack] using induction

theorem stripsNames_stripQuoted (common : NamePrefix) (expression : List Char) :
    StripsNames common expression (common.stripQuoted expression) :=
  stripsNames_stripAfter common none expression

theorem isCollapsed_relationExpression (block : List Char) :
    IsCollapsed (relationExpression block) := by
  unfold relationExpression
  cases firstMatch (fun text => do
      let assigned ← readAssignment relationProperty text
      readExpression none assigned) false block with
  | none => exact isCollapsed_nil
  | some found => exact isCollapsed_collapseBlanks found.2

end Source

end TableAtlas
