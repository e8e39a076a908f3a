import Mathlib.Algebra.GroupWithZero.Nat
import TableAtlas.Diagram.Mermaid
import TableAtlas.Schema.Assembly

/-!
# Lines of Mermaid diagrams

Identifiers, type labels and key marks neither end a line nor open a string.  The
caption of a field is written with single quotes in place of double ones, but with
its line ends.  So a diagram is written as one line for its head, one for each
opening and closing of a block, one for each field and one for each relation,
unless a caption that is shown as a comment has a line end.
-/

namespace TableAtlas.Mermaid

open TableAtlas.Text

/-! ## Parts of a line -/

/-- A text that neither ends a line nor opens or closes a string. -/
structure IsInline (text : String) : Prop where
  sameLine : '\n' ∉ text.toList
  unquoted : '"' ∉ text.toList

theorem IsInline.append {first second : String} (firstInline : IsInline first)
    (secondInline : IsInline second) : IsInline (first ++ second) := by
  constructor
  · simp [firstInline.sameLine, secondInline.sameLine]
  · simp [firstInline.unquoted, secondInline.unquoted]

theorem isIdentifierChar_of_mem_joinForeign {afterForeign : Bool} {text : List Char} {c : Char}
    (member : c ∈ joinForeign afterForeign text) : isIdentifierChar c = true := by
  induction text generalizing afterForeign with
  | nil => simp [joinForeign] at member
  | cons d text induction =>
      simp only [joinForeign] at member
      split at member
      · rename_i isIdentifier
        rcases List.mem_cons.mp member with rfl | later
        · exact isIdentifier
        · exact induction later
      · split at member
        · exact induction member
        · rcases List.mem_cons.mp member with rfl | later
          · rfl
          · exact induction later

theorem isIdentifierChar_of_mem_identifier {name : String} {c : Char}
    (member : c ∈ (identifier name).toList) : isIdentifierChar c = true := by
  simp only [identifier, String.toList_ofList, List.mem_reverse, dropUnderscores] at member
  have behind := List.mem_reverse.mp ((List.dropWhile_sublist _).subset member)
  exact isIdentifierChar_of_mem_joinForeign ((List.dropWhile_sublist _).subset behind)

theorem isInline_identifier (name : String) : IsInline (identifier name) := by
  constructor
  · intro member
    exact absurd (isIdentifierChar_of_mem_identifier member) (by decide)
  · intro member
    exact absurd (isIdentifierChar_of_mem_identifier member) (by decide)

theorem lookup_typeLabels_mem {type label : String} (found : typeLabels.lookup type = some label) :
    label ∈ typeLabels.map Prod.snd := by
  obtain ⟨before, behind, parts, -⟩ := List.lookup_eq_some_iff.mp found
  rw [parts]
  simp

theorem typeLabel_mem (declared : String) :
    typeLabel declared ∈ "string" :: "enum" :: typeLabels.map Prod.snd := by
  simp only [typeLabel]
  split
  · exact List.mem_cons_self
  · split
    · exact List.mem_cons_of_mem _ List.mem_cons_self
    · cases found : typeLabels.lookup _ with
      | none => exact List.mem_cons_self
      | some label =>
          apply List.mem_cons_of_mem
          apply List.mem_cons_of_mem
          exact lookup_typeLabels_mem found

theorem isInline_typeLabel (declared : String) : IsInline (typeLabel declared) := by
  have checked : ∀ label ∈ "string" :: "enum" :: typeLabels.map Prod.snd,
      '\n' ∉ label.toList ∧ '"' ∉ label.toList := by
    decide
  obtain ⟨sameLine, unquoted⟩ := checked _ (typeLabel_mem declared)
  exact ⟨sameLine, unquoted⟩

theorem isInline_keyMarks (field : DiagramField) : IsInline (keyMarks field) := by
  unfold keyMarks
  split <;> exact ⟨by decide, by decide⟩

theorem exists_fieldLine_eq_append_comment (field : DiagramField) :
    ∃ front, IsInline front ∧ fieldLine field = front ++ comment field := by
  have indent : IsInline "        " := ⟨by decide, by decide⟩
  have space : IsInline " " := ⟨by decide, by decide⟩
  exact ⟨_, (((indent.append (isInline_typeLabel field.type)).append space).append
    (isInline_identifier field.name)).append (isInline_keyMarks field), rfl⟩

theorem isInline_opening (name : String) : IsInline (opening name) := by
  have indent : IsInline "    " := ⟨by decide, by decide⟩
  have brace : IsInline " \x7b" := ⟨by decide, by decide⟩
  exact (indent.append (isInline_identifier name)).append brace

theorem newline_not_mem_relationLine (relation : Relation) :
    '\n' ∉ (relationLine relation).toList := by
  simp [relationLine, (isInline_identifier _).sameLine]

/-! ## Comments -/

/-- Whether the caption of a field is shown as a comment. -/
def ShowsCaption (field : DiagramField) : Prop :=
  field.caption ≠ "" ∧ field.caption ≠ field.name

/-- The caption as a comment shows it, which has no double quote. -/
def quotedCaption (caption : String) : List Char :=
  caption.toList.map fun c => if c = '"' then '\'' else c

theorem not_mem_quotedCaption (caption : String) : '"' ∉ quotedCaption caption := by
  simp only [quotedCaption, List.mem_map, not_exists, not_and]
  intro c _
  split
  · decide
  · assumption

theorem newline_mem_quotedCaption_iff (caption : String) :
    '\n' ∈ quotedCaption caption ↔ '\n' ∈ caption.toList := by
  simp only [quotedCaption, List.mem_map]
  constructor
  · rintro ⟨c, member, equal⟩
    split at equal
    · exact absurd equal (by decide)
    · exact equal ▸ member
  · intro member
    exact ⟨'\n', member, rfl⟩

theorem comment_of_not_showsCaption {field : DiagramField} (hidden : ¬ShowsCaption field) :
    comment field = "" := by
  rw [comment, if_pos (Decidable.or_iff_not_not_and_not.mpr hidden)]

theorem toList_comment_of_showsCaption {field : DiagramField} (shown : ShowsCaption field) :
    (comment field).toList = ' ' :: '"' :: (quotedCaption field.caption ++ ['"']) := by
  rw [comment, if_neg (not_or.mpr shown)]
  simp [quotedCaption]

/-- A line of a diagram opens no string that it does not close at its end. -/
def ClosesQuotes (line : List Char) : Prop :=
  '"' ∉ line ∨ line.count '"' = 2 ∧ line.getLast? = some '"'

theorem closesQuotes_fieldLine (field : DiagramField) :
    ClosesQuotes (fieldLine field).toList := by
  obtain ⟨front, isInline, line⟩ := exists_fieldLine_eq_append_comment field
  rw [line, String.toList_append]
  by_cases shown : ShowsCaption field
  · right
    have absent := List.count_eq_zero.mpr isInline.unquoted
    have absentThere := List.count_eq_zero.mpr (not_mem_quotedCaption field.caption)
    rw [toList_comment_of_showsCaption shown]
    constructor
    · simp [absent, absentThere]
    · rw [← List.cons_append, ← List.cons_append, ← List.append_assoc, List.getLast?_concat]
  · left
    simp [comment_of_not_showsCaption shown, isInline.unquoted]

theorem newline_mem_fieldLine_iff (field : DiagramField) :
    '\n' ∈ (fieldLine field).toList ↔
      '\n' ∈ field.caption.toList ∧ field.caption ≠ field.name := by
  obtain ⟨front, isInline, line⟩ := exists_fieldLine_eq_append_comment field
  rw [line, String.toList_append, List.mem_append]
  by_cases shown : ShowsCaption field
  · simp [toList_comment_of_showsCaption shown, isInline.sameLine, newline_mem_quotedCaption_iff,
      shown.2]
  · have hidden : '\n' ∈ field.caption.toList → field.caption = field.name := by
      intro member
      have nonempty : field.caption ≠ "" := by
        intro empty
        simp [empty] at member
      exact Decidable.not_not.mp fun different => shown ⟨nonempty, different⟩
    simpa [comment_of_not_showsCaption shown, isInline.sameLine] using hidden

/-! ## Lines of a diagram -/

theorem not_mem_of_mem_splitOn {separator : Char} {text part : List Char}
    (member : part ∈ text.splitOn separator) : separator ∉ part := by
  induction text generalizing part with
  | nil => simp_all
  | cons c text induction =>
      rw [List.splitOn_cons_eq_if_modifyHead] at member
      split at member
      · rcases List.mem_cons.mp member with rfl | later
        · exact List.not_mem_nil
        · exact induction later
      · rename_i other
        cases split : text.splitOn separator with
        | nil => exact absurd split (List.splitOn_ne_nil _ _)
        | cons first parts =>
            rw [split] at induction member
            rw [List.modifyHead_cons] at member
            rcases List.mem_cons.mp member with rfl | later
            · have different : c ≠ separator := by simpa using other
              simp [Ne.symm different, induction List.mem_cons_self]
            · exact induction (List.mem_cons_of_mem _ later)

theorem splitOn_intercalate_iff {separator : Char} {parts : List (List Char)}
    (nonempty : parts ≠ []) :
    ([separator].intercalate parts).splitOn separator = parts ↔
      ∀ part ∈ parts, separator ∉ part := by
  constructor
  · intro split part member
    rw [← split] at member
    exact not_mem_of_mem_splitOn member
  · intro separated
    exact List.splitOn_intercalate separator separated nonempty

theorem toList_render (diagram : Diagram) :
    (render diagram).toList = ['\n'].intercalate ((lines diagram).map String.toList) := by
  rw [render, String.toList_intercalate]
  rfl

theorem newline_not_mem_lines_iff (diagram : Diagram) :
    (∀ line ∈ lines diagram, '\n' ∉ line.toList) ↔
      ∀ entity ∈ diagram.entities, ∀ field ∈ entity.fields, '\n' ∉ (fieldLine field).toList := by
  constructor
  · intro separated entity entityMember field member
    apply separated
    have block : fieldLine field ∈ entityLines entity := by
      simp [entityLines, List.mem_map_of_mem member]
    have inBlocks := List.mem_flatMap.mpr ⟨entity, entityMember, block⟩
    simp [lines, inBlocks]
  · intro separated line member
    simp only [lines, entityLines, List.mem_append, List.mem_cons, List.mem_flatMap, List.mem_map,
      List.not_mem_nil, or_false] at member
    rcases member with (rfl | ⟨entity, entityMember, (rfl | ⟨field, fieldMember, rfl⟩) | rfl⟩) |
      ⟨relation, -, rfl⟩
    · decide
    · exact (isInline_opening entity.name).sameLine
    · exact separated entity entityMember field fieldMember
    · decide
    · exact newline_not_mem_relationLine relation

/-- The opening of an entity stands on a line of its own. -/
theorem exists_render_eq_opening {diagram : Diagram} {entity : DiagramEntity}
    (member : entity ∈ diagram.entities) :
    ∃ before after, render diagram =
      before ++ ("\n    " ++ identifier entity.name ++ " \x7b\n") ++ after := by
  obtain ⟨front, back, entities⟩ := List.append_of_mem member
  let before := "erDiagram" :: front.flatMap entityLines
  let behind := entity.fields.map fieldLine ++ ["    \x7d"] ++ back.flatMap entityLines ++
    diagram.relations.map relationLine
  have split : lines diagram = before ++ opening entity.name :: behind := by
    simp [lines, entities, entityLines, before, behind]
  have more : behind ≠ [] := by simp [behind]
  have lineStart : "\n    " = "\n" ++ "    " := rfl
  have lineEnd : " \x7b\n" = " \x7b" ++ "\n" := rfl
  refine ⟨"\n".intercalate before, "\n".intercalate behind, ?_⟩
  rw [render, split, String.intercalate_append_of_ne_nil (by simp [before]) (by simp),
    String.intercalate_cons_of_ne_nil more, opening, lineStart, lineEnd]
  simp only [String.append_assoc]

theorem splitOn_render_iff (diagram : Diagram) :
    (render diagram).toList.splitOn '\n' = (lines diagram).map String.toList ↔
      ∀ entity ∈ diagram.entities, ∀ field ∈ entity.fields,
        '\n' ∈ field.caption.toList → field.caption = field.name := by
  have nonempty : (lines diagram).map String.toList ≠ [] := by simp [lines]
  rw [toList_render, splitOn_intercalate_iff nonempty, List.forall_mem_map,
    newline_not_mem_lines_iff]
  simp only [newline_mem_fieldLine_iff, not_and, Decidable.not_not]

theorem length_lines (diagram : Diagram) :
    (lines diagram).length =
      1 + (diagram.entities.map fun entity => 2 + entity.fields.length).sum +
        diagram.relations.length := by
  have block : ∀ entity, (entityLines entity).length = 2 + entity.fields.length := by
    intro entity
    simp [entityLines]
    omega
  simp [lines, List.length_flatMap, block]
  omega

/-- The text of a diagram has one line for its head, one for each opening, field and
closing of its entities and one for each relation, exactly if no caption that is shown
has a line end.  The line of a field opens no string that it does not close at its end. -/
theorem lines_render (diagram : Diagram) :
    let expected :=
      "erDiagram" ::
        diagram.entities.flatMap (fun entity =>
          opening entity.name :: entity.fields.map fieldLine ++ ["    \x7d"]) ++
        diagram.relations.map relationLine
    ((render diagram).toList.splitOn '\n' = expected.map String.toList ↔
      ∀ entity ∈ diagram.entities, ∀ field ∈ entity.fields,
        '\n' ∈ field.caption.toList → field.caption = field.name) ∧
    expected.length =
      1 + (diagram.entities.map fun entity => 2 + entity.fields.length).sum +
        diagram.relations.length ∧
    ∀ entity ∈ diagram.entities, ∀ field ∈ entity.fields,
      ClosesQuotes (fieldLine field).toList := by
  intro expected
  refine ⟨splitOn_render_iff diagram, length_lines diagram, ?_⟩
  intro _ _ field _
  exact closesQuotes_fieldLine field

/-- A table with a field whose caption goes on like the text of a diagram. -/
def injectingSources : Sources :=
  (TextFiles.ofList [("a.al",
    "table 1 A \x7b fields \x7b field(1; X; Integer) \x7b " ++
    "Caption = 'a\n    \x7d\n    B \x7b\n        int Y'; \x7d \x7d \x7d")]).sources

/-- The text shows an entity that the diagram does not have, on lines of its own. -/
theorem splitOn_render_ne_lines :
    let diagram := Diagram.ofSchema (.ofSources .none injectingSources)
    diagram.entities.map (fun entity => (entity.name, entity.fields.length)) = [("A", 1)] ∧
      ((render diagram).toList.splitOn '\n').map String.ofList =
        ["erDiagram", "    A \x7b", "        int X \"a", "    \x7d", "    B \x7b",
          "        int Y\"", "    \x7d"] ∧
      (render diagram).toList.splitOn '\n' ≠ (lines diagram).map String.toList := by
  decide +kernel

end TableAtlas.Mermaid
