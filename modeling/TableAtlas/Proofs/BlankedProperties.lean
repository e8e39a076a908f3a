import Mathlib.Data.List.Induction
import TableAtlas.Proofs.BlankedSearch
import TableAtlas.Proofs.LocalHeads

/-!
# Properties of a blanked block

A property is read from its name to the end of its value.  A plain value and a
relation expression end at a semicolon and do not depend on the text behind it.
A value in single quotes ends at a quote that is not doubled, or at a doubled one
if no other quote follows, so spaces in the text behind it change nothing.
-/

namespace TableAtlas.Source

open TableAtlas.Text

/-! ## Values with what follows them -/

/-- Reads a value behind its opening quote, and returns the text behind it too. -/
def readQuotedText : List Char → Option (List Char × List Char)
  | [] => none
  | '\'' :: '\'' :: rest =>
      match readQuotedText rest with
      | some (value, after) => some ('\'' :: value, after)
      | none => some ([], '\'' :: rest)
  | c :: rest =>
      if c = '\'' then some ([], rest) else (readQuotedText rest).map (prepending [c])

/-- Reads a value up to the next semicolon, and returns the text behind it too. -/
def readPlainText (text : List Char) : Option (List Char × List Char) := do
  let (value, rest) ← splitAtChar ';' text
  if value.isEmpty then none else some (trim value, rest)

/-- Reads an expression up to its semicolon, and returns the text behind it too. -/
def readExpressionText (opened : Option Char) : List Char → Option (List Char × List Char)
  | [] => none
  | c :: rest =>
      match opened with
      | some quote =>
          (readExpressionText (if c = quote then none else some quote) rest).map (prepending [c])
      | none =>
          if c = ';' then some ([], rest)
          else
            (readExpressionText (if c = '\'' ∨ c = '"' then some c else none) rest).map
              (prepending [c])

theorem readQuotedValue_eq (text : List Char) :
    readQuotedValue text = (readQuotedText text).map (·.1) := by
  fun_induction readQuotedText text with
  | case1 => rfl
  | case2 rest value after found induction => simp [readQuotedValue, induction, found]
  | case3 rest notFound induction => simp [readQuotedValue, induction, notFound]
  | case4 rest notDoubled => simp [readQuotedValue]
  | case5 c rest notDoubled different induction =>
      rw [readQuotedValue, if_neg different, induction, Option.map_map, Option.map_map]
      · rfl
      · exact notDoubled

theorem readPlainValue_eq (text : List Char) :
    readPlainValue text = (readPlainText text).map (·.1) := by
  simp only [readPlainValue, readPlainText, Option.bind_eq_bind, Option.map_bind,
    Function.comp_def]
  congr 1
  funext split
  split <;> rfl

theorem readExpression_eq (opened : Option Char) (text : List Char) :
    readExpression opened text = (readExpressionText opened text).map (·.1) := by
  induction text generalizing opened with
  | nil => rfl
  | cons c rest induction =>
      cases opened with
      | some quote =>
          rw [readExpression, readExpressionText, induction, Option.map_map, Option.map_map]
          rfl
      | none =>
          simp only [readExpression, readExpressionText]
          split
          · rfl
          · rw [induction, Option.map_map, Option.map_map]
            rfl

/-! ## Quoted values -/

section QuotedValues

variable {text rest value : List Char}

theorem readQuotedText_of_ne {c : Char} (different : c ≠ '\'') (rest : List Char) :
    readQuotedText (c :: rest) = (readQuotedText rest).map (prepending [c]) := by
  rw [readQuotedText, if_neg different]
  intro tail isQuote
  exact absurd isQuote different

theorem readQuotedText_eq_none_iff : readQuotedText text = none ↔ '\'' ∉ text := by
  fun_induction readQuotedText text with
  | case1 => simp
  | case2 => simp
  | case3 => simp
  | case4 => simp
  | case5 c rest notDoubled different induction => simp [induction, Ne.symm different]

/-- Whether a quote in front of a text is doubled, with another quote behind both. -/
def IsDoubled (rest : List Char) : Prop :=
  rest.head? = some '\'' ∧ '\'' ∈ rest.tail

instance (rest : List Char) : Decidable (IsDoubled rest) :=
  inferInstanceAs (Decidable (_ ∧ _))

theorem readQuotedText_quote (rest : List Char) :
    readQuotedText ('\'' :: rest) =
      if IsDoubled rest then (readQuotedText rest.tail).map (prepending ['\''])
      else some ([], rest) := by
  cases rest with
  | nil => rfl
  | cons c rest =>
      by_cases doubled : c = '\''
      · subst doubled
        cases read : readQuotedText rest with
        | none =>
            have absent := readQuotedText_eq_none_iff.mp read
            simp [readQuotedText, read, absent, IsDoubled]
        | some found =>
            have present : '\'' ∈ rest := by
              by_contra absent
              rw [readQuotedText_eq_none_iff.mpr absent] at read
              exact absurd read (by simp)
            simp [readQuotedText, read, present, prepending, IsDoubled]
      · simp [readQuotedText, doubled, IsDoubled]

theorem exists_inside_readQuotedText (taken : readQuotedText text = some (value, rest)) :
    ∃ inside, text = inside ++ '\'' :: rest := by
  fun_induction readQuotedText text generalizing value with
  | case1 => exact absurd taken (by simp)
  | case2 left tail after found induction =>
      simp only [Option.some.injEq, Prod.mk.injEq] at taken
      obtain ⟨-, rfl⟩ := taken
      obtain ⟨inside, rfl⟩ := induction found
      exact ⟨'\'' :: '\'' :: inside, rfl⟩
  | case3 left notFound =>
      simp only [Option.some.injEq, Prod.mk.injEq] at taken
      obtain ⟨-, rfl⟩ := taken
      exact ⟨[], rfl⟩
  | case4 left notDoubled =>
      simp only [Option.some.injEq, Prod.mk.injEq] at taken
      obtain ⟨-, rfl⟩ := taken
      exact ⟨[], rfl⟩
  | case5 c left notDoubled different induction =>
      obtain ⟨tail, found, -⟩ := map_prepending_eq_some_iff.mp taken
      obtain ⟨inside, rfl⟩ := induction found
      exact ⟨c :: inside, rfl⟩

private theorem length_readQuotedText_lt (taken : readQuotedText text = some (value, rest)) :
    rest.length < text.length := by
  obtain ⟨inside, rfl⟩ := exists_inside_readQuotedText taken
  simp only [List.length_append, List.length_cons]
  omega

/-- Only spaces are new in a blanked text. -/
private theorem mem_of_mem_blanked {text blanked : List Char} (areBlanked : Blanked text blanked)
    {c : Char} (notSpace : c ≠ ' ') (member : c ∈ blanked) : c ∈ text := by
  induction areBlanked with
  | nil => exact member
  | @cons first second text blanked kept _ induction =>
      rcases List.mem_cons.mp member with rfl | later
      · exact (kept.resolve_right notSpace) ▸ List.mem_cons_self ..
      · exact List.mem_cons_of_mem first (induction later)

private theorem isDoubled_of_blanked {text blanked : List Char} (areBlanked : Blanked text blanked)
    (doubled : IsDoubled blanked) : IsDoubled text := by
  cases areBlanked with
  | nil => exact doubled
  | @cons first second text blanked kept later =>
      obtain ⟨starts, follows⟩ := doubled
      obtain rfl : second = '\'' := by simpa using starts
      exact ⟨by rw [List.head?_cons, ← kept.resolve_right (by decide)],
        mem_of_mem_blanked later (by decide) follows⟩

private theorem ends_of_readQuotedText_cons {c : Char}
    (taken : readQuotedText (c :: rest) = some (value, rest)) :
    c = '\'' ∧ value = [] ∧ ¬ IsDoubled rest := by
  by_cases isQuote : c = '\''
  · subst isQuote
    rw [readQuotedText_quote] at taken
    split at taken
    · obtain ⟨tail, found, -⟩ := map_prepending_eq_some_iff.mp taken
      have shorter := length_readQuotedText_lt found
      rw [List.length_tail] at shorter
      omega
    · rename_i single
      simp only [Option.some.injEq, Prod.mk.injEq] at taken
      exact ⟨rfl, taken.1.symm, single⟩
  · rw [readQuotedText_of_ne isQuote] at taken
    obtain ⟨tail, found, -⟩ := map_prepending_eq_some_iff.mp taken
    exact absurd (length_readQuotedText_lt found) (Nat.lt_irrefl _)

/-- A quoted value does not depend on comments behind it. -/
theorem readQuotedText_blanked {blanked stretch : List Char} (areBlanked : Blanked rest blanked)
    (taken : readQuotedText (stretch ++ rest) = some (value, rest)) :
    readQuotedText (stretch ++ blanked) = some (value, blanked) := by
  induction stretch using List.twoStepInduction generalizing value with
  | nil => exact absurd (length_readQuotedText_lt taken) (Nat.lt_irrefl _)
  | singleton c =>
      obtain ⟨rfl, rfl, single⟩ := ends_of_readQuotedText_cons taken
      have singleThere : ¬ IsDoubled blanked := fun doubled =>
        single (isDoubled_of_blanked areBlanked doubled)
      rw [List.singleton_append, readQuotedText_quote, if_neg singleThere]
  | cons_cons c d stretch induction inductionCons =>
      rw [List.cons_append] at taken ⊢
      by_cases isQuote : c = '\''
      · subst isQuote
        rw [readQuotedText_quote] at taken ⊢
        split at taken
        · rename_i doubled
          obtain ⟨tail, found, rfl⟩ := map_prepending_eq_some_iff.mp taken
          have foundThere := induction found
          have doubledThere : IsDoubled (d :: stretch ++ blanked) := by
            obtain ⟨inside, whole⟩ := exists_inside_readQuotedText foundThere
            refine ⟨doubled.1, ?_⟩
            rw [List.cons_append, List.tail_cons, whole]
            simp
          rw [if_pos doubledThere, List.cons_append, List.tail_cons, foundThere]
          rfl
        · simp only [Option.some.injEq, Prod.mk.injEq] at taken
          have length := congrArg List.length taken.2
          simp only [List.length_append, List.length_cons] at length
          omega
      · rw [readQuotedText_of_ne isQuote] at taken ⊢
        obtain ⟨tail, found, rfl⟩ := map_prepending_eq_some_iff.mp taken
        rw [inductionCons d found]
        rfl

theorem readQuotedText_carriesOver : CarriesOver readQuotedText where
  stretch taken := by
    obtain ⟨inside, rfl⟩ := exists_inside_readQuotedText taken
    exact ⟨inside ++ ['\''], by simp, by simp⟩
  forward areBlanked taken := readQuotedText_blanked areBlanked taken
  backward := by
    intro stretch rest blanked found _ taken
    obtain ⟨inside, whole⟩ := exists_inside_readQuotedText taken
    have ends : stretch ++ blanked = (inside ++ ['\'']) ++ blanked := by
      simpa using whole
    obtain rfl := List.append_cancel_right ends
    cases read : readQuotedText (inside ++ ['\''] ++ rest) with
    | some value => exact ⟨value, rfl⟩
    | none =>
        have absent := readQuotedText_eq_none_iff.mp read
        simp at absent

end QuotedValues

/-! ## Values up to a semicolon -/

theorem readPlainText_isLocal : IsLocal readPlainText := by
  intro text rest value taken
  simp only [readPlainText, Option.bind_eq_bind, Option.bind_eq_some_iff, Prod.exists] at taken
  obtain ⟨before, after, split, result⟩ := taken
  obtain ⟨rfl, absent⟩ := splitAtChar_eq_some_iff.mp split
  refine ⟨before ++ [';'], by simp, ?_, fun other => ?_⟩
  · split at result
    · exact absurd result (by simp)
    · simp only [Option.some.injEq, Prod.mk.injEq] at result
      simp [result.2]
  · have splitAgain : splitAtChar ';' (before ++ [';'] ++ other) = some (before, other) :=
      splitAtChar_eq_some_iff.mpr ⟨by simp, absent⟩
    simp only [readPlainText, splitAgain, Option.bind_eq_bind, Option.bind_some]
    split at result
    · exact absurd result (by simp)
    · rename_i nonempty
      simp only [Option.some.injEq, Prod.mk.injEq] at result
      rw [if_neg nonempty, result.1]

theorem readExpressionText_isLocal (opened : Option Char) : IsLocal (readExpressionText opened) := by
  intro text rest value taken
  induction text generalizing opened value with
  | nil => exact absurd taken (by simp [readExpressionText])
  | cons c text induction =>
      have goOn : ∀ {inner : Option Char},
          (readExpressionText inner text).map (prepending [c]) = some (value, rest) →
          ∃ stretch, text = stretch ++ rest ∧ ∀ other,
            (readExpressionText inner (stretch ++ other)).map (prepending [c]) =
              some (value, other) := by
        intro inner read
        obtain ⟨tail, found, rfl⟩ := map_prepending_eq_some_iff.mp read
        obtain ⟨stretch, -, whole, again⟩ := induction inner found
        exact ⟨stretch, whole, fun other => by rw [again other]; rfl⟩
      cases opened with
      | some quote =>
          obtain ⟨stretch, rfl, again⟩ := goOn taken
          exact ⟨c :: stretch, by simp, rfl, again⟩
      | none =>
          simp only [readExpressionText] at taken
          split at taken
          · rename_i ends
            simp only [Option.some.injEq, Prod.mk.injEq] at taken
            obtain ⟨rfl, rfl⟩ := taken
            exact ⟨[c], by simp, rfl, fun other => by simp [readExpressionText, ends]⟩
          · rename_i goesOn
            obtain ⟨stretch, rfl, again⟩ := goOn taken
            refine ⟨c :: stretch, by simp, rfl, fun other => ?_⟩
            rw [List.cons_append, readExpressionText, if_neg goesOn, again other]

/-! ## Assignments -/

/-- Reads the name of a property, the equals sign and a value. -/
def readAssigned {α : Type} (readValue : List Char → Option (α × List Char)) (name text : List Char) :
    Option (α × List Char) :=
  (readAssignment name text).bind readValue

/-- Reads a value with the quote that opens it. -/
def readQuoted (text : List Char) : Option (List Char × List Char) :=
  (readChar '\'' (dropBlanks text)).bind readQuotedText

/-- What the first assignment of a readable value assigns. -/
def assigned? {α : Type} (readValue : List Char → Option (α × List Char)) (name block : List Char) :
    Option α :=
  (firstMatch (readAssigned readValue name) false block).map fun (_, value, _) => value

theorem quotedProperty?_eq (name block : List Char) :
    quotedProperty? name block = assigned? readQuoted name block := by
  have values : (fun text => do
      let assigned ← readAssignment name text
      readQuotedValue (← readChar '\'' (dropBlanks assigned))) =
        fun text => (readAssigned readQuoted name text).map (·.1) := by
    funext text
    simp only [readAssigned, readQuoted, Option.bind_eq_bind, Option.map_bind, Function.comp_def,
      readQuotedValue_eq]
  rw [quotedProperty?, values, firstMatch_map, Option.map_map]
  rfl

theorem plainProperty?_eq (name block : List Char) :
    plainProperty? name block = assigned? readPlainText name block := by
  have values : (fun text => do
      let assigned ← readAssignment name text
      readPlainValue assigned) = fun text => (readAssigned readPlainText name text).map (·.1) := by
    funext text
    simp only [readAssigned, Option.bind_eq_bind, Option.map_bind, Function.comp_def,
      readPlainValue_eq]
  rw [plainProperty?, values, firstMatch_map, Option.map_map]
  rfl

theorem relationExpression_eq (block : List Char) :
    relationExpression block =
      ((assigned? (readExpressionText none) relationProperty block).map collapseBlanks).getD [] := by
  have values : (fun text => do
      let assigned ← readAssignment relationProperty text
      readExpression none assigned) =
        fun text => (readAssigned (readExpressionText none) relationProperty text).map (·.1) := by
    funext text
    simp only [readAssigned, Option.bind_eq_bind, Option.map_bind, Function.comp_def,
      readExpression_eq]
  rw [relationExpression, values, firstMatch_map, assigned?, Option.map_map, Option.map_map]
  rfl

section Assignments

variable {α : Type} {readValue : List Char → Option (α × List Char)} {name : List Char}

theorem readQuoted_carriesOver : CarriesOver readQuoted :=
  readQuotedText_carriesOver.behind fun opened => (readChar_stretch opened).of_dropBlanks

theorem CarriesOver.assigned (carries : CarriesOver readValue) (nonempty : name ≠ []) :
    CarriesOver (readAssigned readValue name) :=
  carries.behind fun assigned => readMarked_stretch nonempty assigned

/-- The same is assigned in a blanked text if its search finds the same. -/
theorem CarriesOver.assigned?_eq (carries : CarriesOver readValue) (nonempty : name ≠ [])
    {block blanked : List Char} (areBlanked : Blanked block blanked)
    (apart : FindsApart (readAssigned readValue name) block blanked) :
    assigned? readValue name blanked = assigned? readValue name block := by
  have carriesName := carries.assigned nonempty
  unfold assigned?
  cases matched : firstMatch (readAssigned readValue name) false block with
  | none => rw [apart.firstMatch_eq_none carriesName areBlanked matched]
  | some found =>
      obtain ⟨skipped, value, rest⟩ := found
      obtain ⟨front, -, there⟩ := apart.firstMatch_eq_some carriesName areBlanked matched
      rw [there]
      rfl

end Assignments

end TableAtlas.Source
