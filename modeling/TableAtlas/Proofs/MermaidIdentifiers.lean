import TableAtlas.Proofs.MermaidLines
import TableAtlas.Proofs.SchemaGraph

/-!
# Identifiers of entities

The identifier of a name keeps its ASCII letters and digits.  Of what stands between
two of them it keeps only how many underscores are written for it, and it keeps
nothing of what stands in front of the first and behind the last.  So a name without
letters and digits has no identifier, and different names have the same identifier
exactly if they have the same letters and digits in the same order with gaps of the
same widths between them.
-/

namespace TableAtlas.Mermaid

open TableAtlas.Text

/-- A letter or digit of a name and the width of the gap in front of it. -/
structure SpacedLetter where
  gap : Nat
  letter : Char
  isLetter : letter.isAlphanum = true
deriving DecidableEq, Repr

namespace SpacedLetter

def write (spaced : SpacedLetter) : List Char :=
  List.replicate spaced.gap '_' ++ [spaced.letter]

theorem letter_ne (spaced : SpacedLetter) : spaced.letter ≠ '_' := by
  intro same
  have isLetter := spaced.isLetter
  rw [same] at isLetter
  exact absurd isLetter (by decide)

end SpacedLetter

/-- The width of a gap: each underscore counts, and so does each stretch of other
characters, however long. -/
def gapWidth (gap : List Char) : Nat :=
  gap.count '_' + (gap.splitOn '_').countP (· ≠ [])

/-- The letters and digits of a text that goes on a gap. -/
def lettersBehind (gap : List Char) : List Char → List SpacedLetter
  | [] => []
  | c :: rest =>
      if isLetter : c.isAlphanum = true then ⟨gapWidth gap, c, isLetter⟩ :: lettersBehind [] rest
      else lettersBehind (gap ++ [c]) rest

/-- The letters and digits of a name.  Characters that identifiers drop are not part of
its gaps, and the first letter has no gap in front of it. -/
def spacedLetters (name : String) : List SpacedLetter :=
  match lettersBehind [] (name.toList.filter fun c => !isDropped c) with
  | [] => []
  | first :: others => { first with gap := 0 } :: others

/-! ## Gaps -/

theorem isIdentifierChar_of_isAlphanum {c : Char} (isLetter : c.isAlphanum = true) :
    isIdentifierChar c = true := by
  simp [isIdentifierChar, isLetter]

theorem joinForeign_append {afterForeign : Bool} {front rest : List Char} {c : Char}
    (isLetter : c.isAlphanum = true) :
    joinForeign afterForeign (front ++ c :: rest) =
      joinForeign afterForeign front ++ c :: joinForeign false rest := by
  induction front generalizing afterForeign with
  | nil => simp [joinForeign, isIdentifierChar_of_isAlphanum isLetter]
  | cons d front induction =>
      simp only [List.cons_append, joinForeign, induction]
      split
      · rfl
      · split <;> rfl

/-- The first stretch of a gap behind a character that an underscore was written for
adds nothing to its width. -/
theorem joinForeign_gap (afterForeign : Bool) {gap : List Char}
    (noLetter : ∀ c ∈ gap, c.isAlphanum = false) :
    joinForeign afterForeign gap =
      List.replicate (gap.count '_' +
        List.countP (· ≠ [])
          (if afterForeign then (gap.splitOn '_').tail else gap.splitOn '_')) '_' := by
  induction gap generalizing afterForeign with
  | nil => cases afterForeign <;> rfl
  | cons c gap induction =>
      have later := fun after =>
        induction after fun d member => noLetter d (List.mem_cons_of_mem c member)
      by_cases isUnderscore : c = '_'
      · subst c
        have parts : ('_' :: gap).splitOn '_' = [] :: gap.splitOn '_' := by
          simp [List.splitOn_cons_eq_if_modifyHead]
        have width : ('_' :: gap).count '_' = gap.count '_' + 1 := List.count_cons_self
        rw [joinForeign, if_pos (by decide), later false, parts, width, Nat.add_right_comm,
          List.replicate_succ]
        cases afterForeign <;> simp
      · have foreign : isIdentifierChar c = false := by
          simp [isIdentifierChar, noLetter c List.mem_cons_self, isUnderscore]
        have parts : (c :: gap).splitOn '_' = (gap.splitOn '_').modifyHead (c :: ·) := by
          simp [List.splitOn_cons_eq_if_modifyHead, isUnderscore]
        have width : (c :: gap).count '_' = gap.count '_' := List.count_cons_of_ne isUnderscore
        rw [joinForeign, if_neg (by simp [foreign]), later true, parts, width]
        cases split : gap.splitOn '_' with
        | nil => exact absurd split (List.splitOn_ne_nil _ _)
        | cons first parts =>
            cases afterForeign with
            | true => simp
            | false => simp [← Nat.add_assoc, List.replicate_succ]

theorem joinForeign_lettersBehind (gap text : List Char)
    (noLetter : ∀ c ∈ gap, c.isAlphanum = false) :
    ∃ width, joinForeign false (gap ++ text) =
      (lettersBehind gap text).flatMap SpacedLetter.write ++ List.replicate width '_' := by
  induction text generalizing gap with
  | nil =>
      refine ⟨gapWidth gap, ?_⟩
      rw [List.append_nil, joinForeign_gap false noLetter]
      rfl
  | cons c text induction =>
      rw [lettersBehind]
      split
      · rename_i isLetter
        obtain ⟨width, joined⟩ := induction [] (by simp)
        refine ⟨width, ?_⟩
        rw [joinForeign_append isLetter, joinForeign_gap false noLetter]
        rw [List.nil_append] at joined
        simp [joined, SpacedLetter.write, gapWidth]
      · rename_i other
        rw [List.append_cons]
        apply induction
        simpa [or_imp, forall_and] using And.intro noLetter other

/-! ## Identifiers -/

theorem dropUnderscores_append {c : Char} (other : c ≠ '_') (width : Nat) (rest : List Char) :
    dropUnderscores (List.replicate width '_' ++ c :: rest) = c :: rest := by
  induction width with
  | zero => simp [dropUnderscores, other]
  | succ width induction => simpa [dropUnderscores, List.replicate_succ] using induction

theorem exists_flatMap_write_eq_concat (letters : List SpacedLetter) (nonempty : letters ≠ []) :
    ∃ front, ∃ last : SpacedLetter,
      letters.flatMap SpacedLetter.write = front ++ [last.letter] := by
  obtain ⟨before, last, rfl⟩ := (List.eq_nil_or_concat letters).resolve_left nonempty
  refine ⟨before.flatMap SpacedLetter.write ++ List.replicate last.gap '_', last, ?_⟩
  simp [SpacedLetter.write]

theorem dropUnderscores_around {c d : Char} {text tail front : List Char}
    (begins : text = c :: tail) (ends : text = front ++ [d]) (firstOther : c ≠ '_')
    (lastOther : d ≠ '_') (before after : Nat) :
    (dropUnderscores (dropUnderscores
      (List.replicate before '_' ++ (text ++ List.replicate after '_'))).reverse).reverse =
        text := by
  have left : dropUnderscores (List.replicate before '_' ++ (text ++ List.replicate after '_')) =
      text ++ List.replicate after '_' := by
    rw [begins, List.cons_append, dropUnderscores_append firstOther]
  have right : dropUnderscores (List.replicate after '_' ++ text.reverse) = text.reverse := by
    rw [ends, List.reverse_concat, dropUnderscores_append lastOther]
  rw [left, List.reverse_append, List.reverse_replicate, right, List.reverse_reverse]

theorem toList_identifier (name : String) :
    (identifier name).toList = (spacedLetters name).flatMap SpacedLetter.write := by
  obtain ⟨width, joined⟩ := joinForeign_lettersBehind []
    (name.toList.filter fun c => !isDropped c) (by simp)
  rw [List.nil_append] at joined
  rw [identifier, String.toList_ofList, joined, spacedLetters]
  cases lettersBehind [] (name.toList.filter fun c => !isDropped c) with
  | nil => simp [dropUnderscores]
  | cons first others =>
      have begins : ({ first with gap := 0 } :: others).flatMap SpacedLetter.write =
          first.letter :: others.flatMap SpacedLetter.write := by
        simp [SpacedLetter.write]
      obtain ⟨front, last, ends⟩ := exists_flatMap_write_eq_concat
        ({ first with gap := 0 } :: others) (by simp)
      have around : (first :: others).flatMap SpacedLetter.write =
          List.replicate first.gap '_' ++
            ({ first with gap := 0 } :: others).flatMap SpacedLetter.write := by
        simp [SpacedLetter.write]
      rw [around, List.append_assoc]
      exact dropUnderscores_around begins ends first.letter_ne last.letter_ne first.gap width

theorem replicate_append_inj {first second : Nat} {c d : Char} {rest other : List Char}
    (firstOther : c ≠ '_') (secondOther : d ≠ '_')
    (same : List.replicate first '_' ++ c :: rest = List.replicate second '_' ++ d :: other) :
    first = second ∧ c = d ∧ rest = other := by
  induction first generalizing second with
  | zero =>
      cases second with
      | zero => simpa using same
      | succ second =>
          simp only [List.replicate_zero, List.nil_append, List.replicate_succ, List.cons_append,
            List.cons.injEq] at same
          exact absurd same.1 firstOther
  | succ first induction =>
      cases second with
      | zero =>
          simp only [List.replicate_zero, List.nil_append, List.replicate_succ, List.cons_append,
            List.cons.injEq] at same
          exact absurd same.1.symm secondOther
      | succ second =>
          simp only [List.replicate_succ, List.cons_append, List.cons.injEq, true_and] at same
          obtain ⟨rfl, rfl, rfl⟩ := induction same
          exact ⟨rfl, rfl, rfl⟩

theorem flatMap_write_inj {first second : List SpacedLetter}
    (same : first.flatMap SpacedLetter.write = second.flatMap SpacedLetter.write) :
    first = second := by
  induction first generalizing second with
  | nil =>
      cases second with
      | nil => rfl
      | cons => simp [SpacedLetter.write] at same
  | cons letter first induction =>
      cases second with
      | nil => simp [SpacedLetter.write] at same
      | cons other second =>
          simp only [List.flatMap_cons, SpacedLetter.write, List.append_assoc,
            List.singleton_append] at same
          obtain ⟨sameGap, sameLetter, later⟩ :=
            replicate_append_inj letter.letter_ne other.letter_ne same
          rw [induction later]
          cases letter
          cases other
          simp_all

theorem identifier_eq_iff {first second : String} :
    identifier first = identifier second ↔ spacedLetters first = spacedLetters second := by
  rw [← String.toList_inj, toList_identifier, toList_identifier]
  constructor
  · exact flatMap_write_inj
  · intro same
    rw [same]

theorem lettersBehind_eq_nil_iff {gap text : List Char} :
    lettersBehind gap text = [] ↔ ∀ c ∈ text, c.isAlphanum = false := by
  induction text generalizing gap with
  | nil => simp [lettersBehind]
  | cons c text induction =>
      rw [lettersBehind]
      split
      · rename_i isLetter
        simp [isLetter]
      · rename_i other
        simp [induction, other]

theorem spacedLetters_eq_nil_iff {name : String} :
    spacedLetters name = [] ↔ ∀ c ∈ name.toList, c.isAlphanum = false := by
  have none : spacedLetters name = [] ↔
      lettersBehind [] (name.toList.filter fun c => !isDropped c) = [] := by
    rw [spacedLetters]
    split <;> simp_all
  rw [none, lettersBehind_eq_nil_iff]
  constructor
  · intro noLetter c member
    by_cases dropped : isDropped c = true
    · simp only [isDropped, Bool.or_eq_true, beq_iff_eq] at dropped
      rcases dropped with (rfl | rfl) | rfl <;> rfl
    · exact noLetter c (List.mem_filter.mpr ⟨member, by simp [dropped]⟩)
  · intro noLetter c member
    exact noLetter c (List.mem_filter.mp member).1

theorem identifier_eq_empty_iff {name : String} :
    identifier name = "" ↔ ∀ c ∈ name.toList, c.isAlphanum = false := by
  rw [← spacedLetters_eq_nil_iff, ← String.toList_eq_nil_iff, toList_identifier]
  constructor
  · intro empty
    have none : (spacedLetters name).flatMap SpacedLetter.write =
        ([] : List SpacedLetter).flatMap SpacedLetter.write := empty
    exact flatMap_write_inj none
  · intro none
    rw [none]
    rfl

/-! ## Entities of a diagram -/

/-- The block of an entity opens with its identifier on a line of its own, which is
empty exactly if the name has no letter or digit.  Two entities, whose names differ in
more than case, share it exactly if their names have the same letters and digits with
gaps of the same widths. -/
theorem identifiers_ofSchema (schema : Schema) :
    let diagram := Diagram.ofSchema schema
    (∀ entity ∈ diagram.entities,
      (∃ before after, render diagram =
        before ++ ("\n    " ++ identifier entity.name ++ " \x7b\n") ++ after) ∧
      (identifier entity.name = "" ↔ ∀ c ∈ entity.name.toList, c.isAlphanum = false)) ∧
    diagram.entities.Pairwise fun first second =>
      lowercase first.name ≠ lowercase second.name ∧
        (identifier first.name = identifier second.name ↔
          spacedLetters first.name = spacedLetters second.name) := by
  intro diagram
  refine ⟨?_, ?_⟩
  · intro entity member
    exact ⟨exists_render_eq_opening member, identifier_eq_empty_iff⟩
  · have different := List.pairwise_map.mp (Diagram.nodup_entityNames_ofSchema schema)
    exact different.imp fun namesDiffer => ⟨namesDiffer, identifier_eq_iff⟩

/-- Names that differ in punctuation, and a name without ASCII letters. -/
def punctuatedSources : Sources :=
  (TextFiles.ofList [("a.al",
    "table 1 \"A B\" \x7b \x7d table 2 A_B \x7b \x7d table 3 \"Ä\" \x7b \x7d")]).sources

theorem identifiers_collide :
    let diagram := Diagram.ofSchema (.ofSources .none punctuatedSources)
    diagram.entities.map (·.name) = ["A B", "A_B", "Ä"] ∧
      ¬(∀ entity ∈ diagram.entities, identifier entity.name ≠ "") ∧
      ¬(diagram.entities.map fun entity => identifier entity.name).Nodup ∧
      render diagram =
        "erDiagram\n    A_B \x7b\n    \x7d\n    A_B \x7b\n    \x7d\n     \x7b\n    \x7d" := by
  decide +kernel

end TableAtlas.Mermaid
