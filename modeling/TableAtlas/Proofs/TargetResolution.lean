import TableAtlas.Proofs.PropertyReading

/-!
# Targets of written relation expressions

The names of a relation expression lose the prefix once when the expression is
read from its field and once more when its target is resolved.  The second time
matters exactly for names that start with the prefix twice.
-/

namespace TableAtlas.Source

open TableAtlas.Text

namespace NamePrefix

variable {common : NamePrefix} {name : List Char}

theorem strip_prefixed (isPrefix : common.letters <+: name) :
    common.letters ++ common.strip name = name := by
  obtain ⟨rest, rfl⟩ := isPrefix
  rw [strip_append]

theorem strip_unprefixed (notPrefix : ¬common.letters <+: name) :
    common.strip name = name := by
  have unequal : common.letters.isPrefixOf name = false := by
    rw [← Bool.not_eq_true, List.isPrefixOf_iff_prefix]
    exact notPrefix
  simp [strip, unequal]

/-- A name keeps its text exactly if the prefix is empty or not in front of it. -/
theorem strip_eq_self_iff :
    common.strip name = name ↔ common.letters = [] ∨ ¬common.letters <+: name := by
  constructor
  · intro kept
    by_cases isPrefix : common.letters <+: name
    · left
      have whole := strip_prefixed isPrefix
      rw [kept] at whole
      simpa using whole
    · exact .inr isPrefix
  · rintro (empty | notPrefix)
    · simp [strip, empty]
    · exact strip_unprefixed notPrefix

/-- Stripping twice is stripping once, unless the prefix stands twice in front. -/
theorem strip_strip_eq_iff :
    common.strip (common.strip name) = common.strip name ↔
      common.letters = [] ∨ ¬common.letters ++ common.letters <+: name := by
  rw [strip_eq_self_iff]
  by_cases isPrefix : common.letters <+: name
  · have whole := strip_prefixed isPrefix
    have twice : common.letters ++ common.letters <+: name ↔
        common.letters <+: common.strip name := by
      conv => lhs; rw [← whole]
      exact List.prefix_append_right_inj common.letters
    rw [twice]
  · have kept := strip_unprefixed isPrefix
    have notTwice : ¬common.letters ++ common.letters <+: name := by
      intro twice
      exact isPrefix ((List.prefix_append common.letters common.letters).trans twice)
    simp [kept, isPrefix, notTwice]

theorem not_mem_strip {c : Char} (absent : c ∉ name) : c ∉ common.strip name := by
  intro member
  by_cases isPrefix : common.letters <+: name
  · rw [← strip_prefixed isPrefix] at absent
    exact absent (List.mem_append_right common.letters member)
  · rw [strip_unprefixed isPrefix] at member
    exact absent member

theorem strip_nil : common.strip [] = [] := by
  rw [strip_eq_self_iff]
  by_cases empty : common.letters = []
  · exact .inl empty
  · right
    simpa using empty

private theorem stripAfter_inside (front rest : List Char) (absent : '"' ∉ name)
    (nonempty : front ++ name ≠ []) :
    common.stripAfter (some front.reverse) (name ++ '"' :: rest) =
      '"' :: common.strip (front ++ name) ++ '"' :: common.stripAfter .none rest := by
  induction name generalizing front with
  | nil =>
      cases reversed : front.reverse with
      | nil => simp [List.reverse_eq_nil_iff.mp reversed] at nonempty
      | cons last earlier =>
          have restored : front = (last :: earlier).reverse := by
            rw [← reversed, List.reverse_reverse]
          simp [stripAfter, restored]
  | cons c name induction =>
      simp only [List.mem_cons, not_or] at absent
      have different : c ≠ '"' := Ne.symm absent.1
      have step : common.stripAfter (some front.reverse) (c :: (name ++ '"' :: rest)) =
          common.stripAfter (some (front ++ [c]).reverse) (name ++ '"' :: rest) := by
        cases reversed : front.reverse with
        | nil => simp [stripAfter, different, List.reverse_eq_nil_iff.mp reversed]
        | cons last earlier => simp [stripAfter, different, reversed]
      rw [List.cons_append, step, induction _ absent.2 (by simp)]
      simp

theorem stripAfter_quotedName (rest : List Char) (absent : '"' ∉ name) (nonempty : name ≠ []) :
    common.stripAfter .none (quotedName name ++ rest) =
      quotedName (common.strip name) ++ common.stripAfter .none rest := by
  have inside : common.stripAfter (some []) (name ++ '"' :: rest) =
      '"' :: common.strip name ++ '"' :: common.stripAfter .none rest :=
    stripAfter_inside [] rest absent (by simpa using nonempty)
  rw [quotedName_append, quotedName_append]
  simpa [stripAfter] using inside

theorem stripQuoted_relationText {entity : List Char} {field : Option (List Char)}
    (entityUnquoted : '"' ∉ entity) (fieldUnquoted : ∀ name ∈ field, '"' ∉ name)
    (entityNonempty : entity ≠ []) (fieldNonempty : ∀ name ∈ field, name ≠ []) :
    common.stripQuoted (relationText entity field) =
      relationText (common.strip entity) (field.map common.strip) := by
  cases field with
  | none =>
      simpa [stripQuoted, relationText, stripAfter] using
        stripAfter_quotedName [] entityUnquoted entityNonempty
  | some name =>
      have last : common.stripAfter .none (quotedName name) =
          quotedName (common.strip name) := by
        simpa [stripAfter] using
          stripAfter_quotedName [] (fieldUnquoted name rfl) (fieldNonempty name rfl)
      have dot : common.stripAfter .none ('.' :: quotedName name) =
          '.' :: common.stripAfter .none (quotedName name) := rfl
      rw [stripQuoted, relationText,
        stripAfter_quotedName _ entityUnquoted entityNonempty, dot, last]
      rfl

end NamePrefix

namespace RelationTarget

private theorem cutCondition_inside {name : List Char} (rest : List Char) (absent : '"' ∉ name)
    (afterKeywordChar : Bool) :
    cutCondition true afterKeywordChar (name ++ '"' :: rest) =
      name ++ '"' :: cutCondition false false rest := by
  induction name generalizing afterKeywordChar with
  | nil => rfl
  | cons c name induction =>
      simp only [List.mem_cons, not_or] at absent
      have different : (c == '"') = false := by
        simpa using Ne.symm absent.1
      simp [cutCondition, different, induction absent.2]

theorem cutCondition_quotedName {name : List Char} (rest : List Char)
    (absent : '"' ∉ name) :
    cutCondition false false (quotedName name ++ rest) =
      quotedName name ++ cutCondition false false rest := by
  have opening : cutCondition false false ('"' :: (name ++ '"' :: rest)) =
      '"' :: cutCondition true false (name ++ '"' :: rest) := rfl
  rw [quotedName_append, quotedName_append, opening, cutCondition_inside rest absent]

private theorem cutCondition_relationText {entity : List Char} {field : Option (List Char)}
    (entityUnquoted : '"' ∉ entity) (fieldUnquoted : ∀ name ∈ field, '"' ∉ name) :
    cutCondition false false (relationText entity field) = relationText entity field := by
  cases field with
  | none =>
      simpa [relationText, cutCondition] using cutCondition_quotedName [] entityUnquoted
  | some name =>
      have dot : cutCondition false false ('.' :: quotedName name) =
          '.' :: cutCondition false false (quotedName name) := rfl
      have last : cutCondition false false (quotedName name) = quotedName name := by
        simpa [cutCondition] using cutCondition_quotedName [] (fieldUnquoted name rfl)
      rw [relationText, cutCondition_quotedName _ entityUnquoted, dot, last]

theorem readName_quotedName {name : List Char} (rest : List Char) (absent : '"' ∉ name)
    (nonempty : name ≠ []) : readName (quotedName name ++ rest) = some (name, rest) := by
  rw [quotedName_append]
  simp [readName, readQuotedName_append rest absent nonempty]

private theorem readName_empty (rest : List Char) : readName (quotedName [] ++ rest) = none := by
  rfl

private theorem readField_quotedName (common : NamePrefix) {name : List Char}
    (absent : '"' ∉ name) :
    ((readField ('.' :: quotedName name)).map common.strip).getD [] = common.strip name := by
  by_cases empty : name = []
  · subst empty
    rw [NamePrefix.strip_nil]
    rfl
  · have dot : dropBlanks ('.' :: quotedName name) = '.' :: quotedName name :=
      dropBlanks_of_not_blank _ rfl
    have quote : dropBlanks (quotedName name) = quotedName name :=
      dropBlanks_of_not_blank _ rfl
    have named := readName_quotedName [] absent empty
    rw [List.append_nil] at named
    simp [readField, dot, quote, readChar, named]

/-- A written relation expression refers to its names, each stripped of the prefix. -/
theorem ofExpression_relationText (common : NamePrefix) {entity : List Char}
    {field : Option (List Char)} (entityUnquoted : '"' ∉ entity)
    (fieldUnquoted : ∀ name ∈ field, '"' ∉ name) (nonempty : entity ≠ []) :
    ofExpression common (relationText entity field) =
      ⟨common.strip entity, (field.map common.strip).getD []⟩ := by
  have cut := cutCondition_relationText entityUnquoted fieldUnquoted
  cases field with
  | none =>
      have named := readName_quotedName [] entityUnquoted nonempty
      rw [List.append_nil] at named
      rw [ofExpression, cut, trim_relationText, relationText, named]
      rfl
  | some name =>
      have named := readName_quotedName ('.' :: quotedName name) entityUnquoted nonempty
      rw [ofExpression, cut, trim_relationText, relationText, named]
      simp only [readField_quotedName common (fieldUnquoted name rfl), Option.map_some,
        Option.getD_some]

theorem ofExpression_relationText_nil (common : NamePrefix) {field : Option (List Char)}
    (fieldUnquoted : ∀ name ∈ field, '"' ∉ name) :
    ofExpression common (relationText [] field) = ⟨[], []⟩ := by
  have cut : cutCondition false false (relationText [] field) = relationText [] field :=
    cutCondition_relationText (by simp) fieldUnquoted
  rw [ofExpression, cut, trim_relationText]
  cases field with
  | none => rfl
  | some name => rw [relationText, readName_empty]

end RelationTarget

end TableAtlas.Source
