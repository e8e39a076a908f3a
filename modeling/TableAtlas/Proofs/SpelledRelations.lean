import TableAtlas.Proofs.CollapsedBlanks
import TableAtlas.Proofs.SpelledProperties

/-!
# Spelled relation expressions

A relation expression ends at its first semicolon outside quotes.  A quote of either
kind takes everything up to the next one of its kind, so a semicolon or a quote of the
other kind may stand inside.  Of the expression the words are kept, with single spaces
between them.

An expression that is never ended is not borrowed from the text behind it: the field has
no relation unless a further one is declared.
-/

namespace TableAtlas.Source

open TableAtlas.Text

/-! ## Expressions -/

/-- Whether a character opens and closes a quoted part of an expression. -/
def IsQuote (c : Char) : Prop :=
  c = '\'' ∨ c = '"'

instance (c : Char) : Decidable (IsQuote c) :=
  inferInstanceAs (Decidable (_ ∨ _))

/-- Quoted parts that are closed and characters other than quotes and semicolons, in any
order. -/
inductive IsExpression : List Char → Prop
  | nil : IsExpression []
  | plain {c : Char} {rest : List Char} (notEnd : c ≠ ';') (notQuote : ¬IsQuote c)
      (later : IsExpression rest) : IsExpression (c :: rest)
  | quoted {quote : Char} {inside rest : List Char} (isQuote : IsQuote quote)
      (closed : quote ∉ inside) (later : IsExpression rest) :
      IsExpression (quote :: (inside ++ quote :: rest))

/-- Whether an expression ends a part that a quote has opened, if any, and goes on behind it. -/
def Completes (expression : List Char) : Option Char → Prop
  | none => IsExpression expression
  | some quote => ∃ inside rest, quote ∉ inside ∧ expression = inside ++ quote :: rest ∧
      IsExpression rest

section Completes

variable {c quote : Char} {expression : List Char}

theorem not_completes_nil : ¬Completes [] (some quote) := by
  rintro ⟨inside, rest, -, empty, -⟩
  simp at empty

theorem completes_cons_some_iff :
    Completes (c :: expression) (some quote) ↔
      Completes expression (if c = quote then none else some quote) := by
  by_cases closing : c = quote
  · subst closing
    rw [if_pos rfl]
    constructor
    · rintro ⟨inside, rest, closed, whole, later⟩
      cases inside with
      | nil => exact (List.cons.inj whole).2 ▸ later
      | cons first inside => exact absurd (by simp [(List.cons.inj whole).1]) closed
    · intro later
      exact ⟨[], expression, by simp, rfl, later⟩
  · rw [if_neg closing]
    constructor
    · rintro ⟨inside, rest, closed, whole, later⟩
      cases inside with
      | nil => exact absurd (List.cons.inj whole).1 closing
      | cons first inside =>
          exact ⟨inside, rest, fun member => closed (List.mem_cons_of_mem first member),
            (List.cons.inj whole).2, later⟩
    · rintro ⟨inside, rest, closed, rfl, later⟩
      exact ⟨c :: inside, rest, by simp [closed, Ne.symm closing], rfl, later⟩

theorem completes_cons_none_iff :
    Completes (c :: expression) none ↔
      c ≠ ';' ∧ Completes expression (if IsQuote c then some c else none) := by
  constructor
  · intro whole
    cases whole with
    | plain notEnd notQuote later => exact ⟨notEnd, by rwa [if_neg notQuote]⟩
    | @quoted _ inside rest isQuote closed later =>
        have notEnd : c ≠ ';' := by
          rintro rfl
          exact absurd isQuote (by decide)
        exact ⟨notEnd, by rw [if_pos isQuote]; exact ⟨inside, rest, closed, rfl, later⟩⟩
  · rintro ⟨notEnd, later⟩
    by_cases isQuote : IsQuote c
    · rw [if_pos isQuote] at later
      obtain ⟨inside, rest, closed, rfl, behind⟩ := later
      exact .quoted isQuote closed behind
    · rw [if_neg isQuote] at later
      exact .plain notEnd isQuote later

end Completes

theorem readExpression_cons {c : Char} (rest : List Char) (notEnd : c ≠ ';') :
    readExpression none (c :: rest) =
      (readExpression (if IsQuote c then some c else none) rest).map (c :: ·) :=
  if_neg notEnd

/-- What is read is the expression in front of the first semicolon outside quotes. -/
theorem readExpression_eq_some_iff {opened : Option Char} {text expression : List Char} :
    readExpression opened text = some expression ↔
      Completes expression opened ∧ ∃ after, text = expression ++ ';' :: after := by
  induction text generalizing opened expression with
  | nil => simp [readExpression]
  | cons c rest induction =>
      have step : ∀ inside : Option Char,
          (∀ later, Completes (c :: later) opened ↔ Completes later inside) →
          (Completes [] opened → c ≠ ';') →
          ((readExpression inside rest).map (c :: ·) = some expression ↔
            Completes expression opened ∧ ∃ after, c :: rest = expression ++ ';' :: after) := by
        intro inside goesOn notEnd
        simp only [Option.map_eq_some_iff, induction]
        constructor
        · rintro ⟨later, ⟨completes, after, rfl⟩, rfl⟩
          exact ⟨(goesOn later).mpr completes, after, rfl⟩
        · rintro ⟨completes, after, whole⟩
          cases expression with
          | nil => exact absurd (List.cons.inj whole).1 (notEnd completes)
          | cons d later =>
              obtain ⟨rfl, rfl⟩ := List.cons.inj whole
              exact ⟨later, ⟨(goesOn later).mp completes, after, rfl⟩, rfl⟩
      cases opened with
      | some quote =>
          exact step _ (fun _ => completes_cons_some_iff) fun nothing =>
            absurd nothing not_completes_nil
      | none =>
          by_cases ended : c = ';'
          · subst ended
            constructor
            · intro read
              obtain rfl : [] = expression := Option.some.inj read
              exact ⟨.nil, rest, rfl⟩
            · rintro ⟨completes, after, whole⟩
              cases expression with
              | nil => rfl
              | cons d later =>
                  have notEnd := (completes_cons_none_iff.mp completes).1
                  exact absurd (List.cons.inj whole).1.symm notEnd
          · rw [readExpression_cons rest ended]
            exact step _ (fun _ => completes_cons_none_iff.trans (and_iff_right ended))
              fun _ => ended

theorem isExpression_iff {expression : List Char} :
    IsExpression expression ↔ readExpression none (expression ++ [';']) = some expression := by
  rw [readExpression_eq_some_iff]
  exact (and_iff_left ⟨[], rfl⟩).symm

instance (expression : List Char) : Decidable (IsExpression expression) :=
  decidable_of_iff _ isExpression_iff.symm

/-- Whether some semicolon of a text stands outside quotes. -/
def HasEnd (text : List Char) : Prop :=
  ∃ expression after, IsExpression expression ∧ text = expression ++ ';' :: after

theorem hasEnd_iff {text : List Char} : HasEnd text ↔ (readExpression none text).isSome = true := by
  simp only [Option.isSome_iff_exists, readExpression_eq_some_iff, ← exists_and_left]
  rfl

instance (text : List Char) : Decidable (HasEnd text) :=
  decidable_of_iff _ hasEnd_iff.symm

/-! ## Blanks in front -/

namespace Blanks

variable (gap : Blanks)

theorem text_induction {motive : List Char → Prop} (nil : motive [])
    (cons : ∀ c rest, isBlank c = true → motive rest → motive (c :: rest)) : motive gap.text := by
  obtain ⟨text, areBlank⟩ := gap
  induction text with
  | nil => exact nil
  | cons c rest induction =>
      obtain ⟨blank, laterAreBlank⟩ := List.forall_mem_cons.mp areBlank
      exact cons c rest blank (induction laterAreBlank)

theorem readExpression_append (text : List Char) :
    readExpression .none (gap.text ++ text) =
      (readExpression .none text).map (gap.text ++ ·) := by
  refine gap.text_induction (motive := fun front =>
    readExpression .none (front ++ text) = (readExpression .none text).map (front ++ ·)) ?_ ?_
  · simp
  · intro c rest blank induction
    have checked : (c != ';' && !decide (IsQuote c)) = true :=
      forall_isBlank (fun c => c != ';' && !decide (IsQuote c)) (by decide +kernel) blank
    obtain ⟨notEnd, notQuote⟩ : c ≠ ';' ∧ ¬IsQuote c := by simpa using checked
    rw [List.cons_append, readExpression_cons _ notEnd, if_neg notQuote, induction,
      Option.map_map]
    rfl

theorem spacedWords_append (text : List Char) :
    spacedWords (gap.text ++ text) = spacedWords text := by
  refine gap.text_induction (motive := fun front =>
    spacedWords (front ++ text) = spacedWords text) rfl ?_
  intro c rest blank induction
  rw [List.cons_append, spacedWords_cons_of_blank _ blank, induction]

end Blanks

/-! ## Relations of a block -/

/-- The name of the property that holds a relation expression. -/
def relationName : PropertyName :=
  ⟨relationProperty, by decide, List.all_eq_true.mp (by decide)⟩

/-- Where the first property of its name assigns a relation expression, the words of the
expression up to its first semicolon outside quotes are read, whatever follows.  If no
semicolon stands outside quotes and the property is not named again, there is no relation. -/
theorem relationExpression_spelledAssignment {before spelled : List Char}
    (absent : mentions relationProperty before = false) (apart : endsInWord false before = false)
    (sameName : spelled.map Char.toLower = relationProperty.map Char.toLower)
    (beforeEquals afterEquals : Blanks) :
    let block (value : List Char) :=
      before ++ PropertyName.spelledAssignment spelled beforeEquals afterEquals value
    (∀ expression after, IsExpression expression →
        relationExpression (block (expression ++ ';' :: after)) = spacedWords expression) ∧
      ∀ value, ¬HasEnd value → mentions relationProperty value = false →
        relationExpression (block value) = [] := by
  intro block
  simp only [relationExpression, readAssignment_eq, Option.bind_eq_bind]
  constructor
  · intro expression after isExpression
    have read : readExpression none (expression ++ ';' :: after) = some expression :=
      readExpression_eq_some_iff.mpr ⟨isExpression, after, rfl⟩
    have readBehindBlanks : readExpression none (afterEquals.text ++ (expression ++ ';' :: after)) =
        some (afterEquals.text ++ expression) := by
      rw [afterEquals.readExpression_append, read, Option.map_some]
    have matched := relationName.firstMatch_spelledAssignment (readExpression none)
      absent apart sameName beforeEquals afterEquals readBehindBlanks
    rw [relationName] at matched
    rw [matched, Option.map_some, Option.getD_some, collapseBlanks_eq_spacedWords,
      afterEquals.spacedWords_append]
  · intro value unended absentBehind
    have unread : readExpression none (afterEquals.text ++ value) = none := by
      rw [hasEnd_iff, Option.not_isSome_iff_eq_none] at unended
      rw [afterEquals.readExpression_append, unended, Option.map_none]
    have unmatched := relationName.firstMatch_spelledAssignment_eq_none (readExpression none)
      absent apart sameName beforeEquals afterEquals unread absentBehind
    rw [relationName] at unmatched
    rw [unmatched]
    rfl

/-- Each kind of quote stands inside the other, with semicolons, and then a quote stays open. -/
theorem relationExpression_spelledConditions :
    let before := "Caption = 'Table;';\n".toList
    let spelled := "tableRELATION".toList
    let block (value : List Char) :=
      before ++ PropertyName.spelledAssignment spelled .none .space value
    let expression := "\"It'em;\"\n  WHERE  (Code = CONST('a;\"b') )".toList
    let after := " Caption = 'x';".toList
    let unended := "Item WHERE (Code = CONST('a)); Caption = \"x;".toList
    mentions relationProperty before = false ∧ endsInWord false before = false ∧
      spelled.map Char.toLower = relationProperty.map Char.toLower ∧ IsExpression expression ∧
      ¬HasEnd unended ∧ mentions relationProperty unended = false ∧
      relationExpression (block (expression ++ ';' :: after)) =
        "\"It'em;\" WHERE (Code = CONST('a;\"b') )".toList ∧
      relationExpression (block unended) = [] := by
  intro before spelled block expression after unended
  have absent : mentions relationProperty before = false := by decide +kernel
  have apart : endsInWord false before = false := by decide +kernel
  have sameName : spelled.map Char.toLower = relationProperty.map Char.toLower := by
    decide +kernel
  have isExpression : IsExpression expression := by decide +kernel
  have isUnended : ¬HasEnd unended := by decide +kernel
  have absentBehind : mentions relationProperty unended = false := by decide +kernel
  obtain ⟨ended, nothing⟩ :=
    relationExpression_spelledAssignment absent apart sameName .none .space
  have words : spacedWords expression =
      "\"It'em;\" WHERE (Code = CONST('a;\"b') )".toList := by decide +kernel
  exact ⟨absent, apart, sameName, isExpression, isUnended, absentBehind,
    (ended expression after isExpression).trans words, nothing unended isUnended absentBehind⟩

end TableAtlas.Source
