import TableAtlas.Proofs.SpacedDeclarations

/-!
# Lists of names

A key lists the names of its fields between double quotes, with any blanks around them
and commas between them.  Neither a comma nor a closing parenthesis counts between
double quotes, so each name is read back whole, whatever it contains.
-/

namespace TableAtlas.Source

open TableAtlas.Text

/-! ## Elements -/

theorem splitAtCommas_ne_nil (inQuotes : Bool) (text : List Char) :
    splitAtCommas inQuotes text ≠ [] := by
  cases text with
  | nil => simp [splitAtCommas]
  | cons c rest =>
      simp only [splitAtCommas]
      split
      · simp
      · split <;> simp

theorem splitAtCommas_cons {inQuotes : Bool} {c : Char} (rest : List Char)
    (within : ¬(c = ',' ∧ inQuotes = false)) :
    splitAtCommas inQuotes (c :: rest) =
      (splitAtCommas (inQuotes != (c == '"')) rest).modifyHead (c :: ·) := by
  rw [splitAtCommas, if_neg within]
  cases later : splitAtCommas (inQuotes != (c == '"')) rest with
  | nil => exact absurd later (splitAtCommas_ne_nil _ _)
  | cons first others => rfl

/-- A text that goes to one element of a list whole. -/
def Unsplit (text : List Char) : Prop :=
  ∀ rest, splitAtCommas false (text ++ rest) =
    (splitAtCommas false rest).modifyHead (text ++ ·)

namespace Unsplit

theorem append {first second : List Char} (firstUnsplit : Unsplit first)
    (secondUnsplit : Unsplit second) : Unsplit (first ++ second) := by
  intro rest
  rw [List.append_assoc, firstUnsplit, secondUnsplit, List.modifyHead_modifyHead]
  simp [Function.comp_def]

theorem of_plain {text : List Char} (plain : ∀ c ∈ text, c ≠ ',' ∧ c ≠ '"') : Unsplit text := by
  intro rest
  induction text with
  | nil => exact (congrFun List.modifyHead_id (splitAtCommas false rest)).symm
  | cons c text induction =>
      obtain ⟨notComma, notQuote⟩ := plain c (by simp)
      have unquoted : (c == '"') = false := by simpa using notQuote
      have later := induction fun other member => plain other (by simp [member])
      rw [List.cons_append, splitAtCommas_cons _ (by simp [notComma]), unquoted, Bool.false_bne,
        later, List.modifyHead_modifyHead]
      rfl

theorem quotedName {name : List Char} (absent : '"' ∉ name) : Unsplit (quotedName name) := by
  intro rest
  have inside : splitAtCommas true (name ++ '"' :: rest) =
      (splitAtCommas false rest).modifyHead (name ++ '"' :: ·) := by
    induction name with
    | nil => exact splitAtCommas_cons rest (by simp)
    | cons c name induction =>
        simp only [List.mem_cons, not_or] at absent
        have unquoted : (c == '"') = false := by simpa using Ne.symm absent.1
        rw [List.cons_append, splitAtCommas_cons _ (by simp), unquoted, Bool.bne_false,
          induction absent.2, List.modifyHead_modifyHead]
        rfl
  rw [quotedName_append, splitAtCommas_cons _ (by simp)]
  simp only [beq_self_eq_true, Bool.false_bne, inside, List.modifyHead_modifyHead]
  simp [Source.quotedName, Function.comp_def]

end Unsplit

theorem splitAtCommas_intercalate {elements : List (List Char)} (nonempty : elements ≠ [])
    (unsplit : ∀ element ∈ elements, Unsplit element) :
    splitAtCommas false ([','].intercalate elements) = elements := by
  induction elements with
  | nil => exact absurd rfl nonempty
  | cons first others induction =>
      have whole := unsplit first (by simp)
      cases others with
      | nil =>
          have alone := whole []
          rw [List.append_nil] at alone
          simpa [splitAtCommas] using alone
      | cons second others =>
          have later := induction (by simp) fun element member => unsplit element (by simp [member])
          have comma : ∀ rest, splitAtCommas false (',' :: rest) =
              [] :: splitAtCommas false rest := fun rest => rfl
          rw [List.intercalate_cons_cons, List.append_assoc, whole, List.singleton_append, comma,
            later, List.modifyHead_cons, List.append_nil]

/-! ## Names in a list -/

theorem isArgument_quotedName_append {name rest : List Char} (absent : '"' ∉ name)
    (argument : isArgument false rest = true) :
    isArgument false (quotedName name ++ rest) = true := by
  have inside : isArgument true (name ++ '"' :: rest) = true := by
    induction name with
    | nil => simpa [isArgument] using argument
    | cons c name induction =>
        simp only [List.mem_cons, not_or] at absent
        have different : (c == '"') = false := by simpa using Ne.symm absent.1
        simp [isArgument, different, induction absent.2]
  rw [quotedName_append]
  simpa [isArgument] using inside

namespace Blanks

variable (gap : Blanks)

theorem not_delimiter_of_mem : ∀ c ∈ gap.text, c ≠ ',' ∧ c ≠ ')' ∧ c ≠ '"' := by
  intro c member
  have checked : (c != ',' && c != ')' && c != '"') = true :=
    forall_isBlank (fun c => c != ',' && c != ')' && c != '"') (by decide +kernel)
      (gap.areBlank c member)
  simpa [and_assoc] using checked

theorem isArgument_append {rest : List Char} (argument : isArgument false rest = true) :
    isArgument false (gap.text ++ rest) = true := by
  have notDelimiter := gap.not_delimiter_of_mem
  generalize gap.text = blanks at notDelimiter
  induction blanks with
  | nil => exact argument
  | cons c blanks induction =>
      obtain ⟨-, notClosing, notQuote⟩ := notDelimiter c (by simp)
      have unquoted : (c == '"') = false := by simpa using notQuote
      have later := induction fun other member => notDelimiter other (by simp [member])
      simp [isArgument, notClosing, unquoted, later]

end Blanks

/-- A name in a list, with any blanks around it. -/
structure SpacedName where
  before : Blanks
  name : List Char
  after : Blanks
  unquoted : '"' ∉ name
  notBlank : trim name ≠ []

namespace SpacedName

/-- A name as an element of a list. -/
def text (listed : SpacedName) : List Char :=
  listed.before.text ++ (quotedName listed.name ++ listed.after.text)

/-- A list of names with a comma between each two. -/
def listText (names : List SpacedName) : List Char :=
  [','].intercalate (names.map text)

variable (listed : SpacedName) {names : List SpacedName} {rest : List Char}

theorem unsplit_text : Unsplit listed.text := by
  have blanks : ∀ gap : Blanks, Unsplit gap.text := fun gap => .of_plain fun c member =>
    ⟨(gap.not_delimiter_of_mem c member).1, (gap.not_delimiter_of_mem c member).2.2⟩
  exact (blanks listed.before).append ((Unsplit.quotedName listed.unquoted).append
    (blanks listed.after))

/-- A name is read without the blanks and quotes around it and the blanks inside them. -/
theorem unquote_text : unquote listed.text = trim listed.name := by
  have trimmed : trim listed.text = '"' :: (listed.name ++ ['"']) := by
    have surrounded : trim (listed.before.text ++
        ('"' :: (listed.name ++ ['"']) ++ listed.after.text)) = '"' :: (listed.name ++ ['"']) :=
      listed.before.trim_surrounded listed.after listed.name rfl rfl
    simpa [text, quotedName] using surrounded
  simp [unquote, trimmed]

theorem balanced_append (balanced : Balanced rest) : Balanced (listed.text ++ rest) := by
  have named := (listed.after.balanced_append balanced).quotedName_append listed.unquoted
  simpa [text] using listed.before.balanced_append named

theorem isArgument_append (argument : isArgument false rest = true) :
    isArgument false (listed.text ++ rest) = true := by
  have behind := listed.after.isArgument_append argument
  have named := isArgument_quotedName_append listed.unquoted behind
  simpa [text] using listed.before.isArgument_append named

/-- What holds of a list of names follows from what holds behind its commas and names. -/
private theorem listText_induction {motive : List Char → Prop} (names : List SpacedName)
    (nil : motive []) (comma : ∀ rest, motive rest → motive (',' :: rest))
    (named : ∀ (listed : SpacedName) rest, motive rest → motive (listed.text ++ rest)) :
    motive (listText names) := by
  induction names with
  | nil => exact nil
  | cons first others induction =>
      cases others with
      | nil => simpa [listText] using named first [] nil
      | cons second others => simpa [listText] using named first _ (comma _ induction)

theorem balanced_listText (names : List SpacedName) : Balanced (listText names) :=
  listText_induction names .nil (fun _ => .plain rfl) fun listed _ => listed.balanced_append

theorem isArgument_listText (names : List SpacedName) : isArgument false (listText names) = true :=
  listText_induction (motive := fun list => isArgument false list = true) names rfl
    (fun _ argument => argument) fun listed _ => listed.isArgument_append

theorem listText_ne_nil (nonempty : names ≠ []) : listText names ≠ [] := by
  cases names with
  | nil => exact absurd rfl nonempty
  | cons first others => cases others <;> simp [listText, text, quotedName]

/-- The names of a list are read back in their order. -/
theorem listedNames_listText (nonempty : names ≠ []) :
    listedNames (listText names) = names.map fun listed => trim listed.name := by
  have elements : splitAtCommas false (listText names) = names.map text := by
    apply splitAtCommas_intercalate (by simpa using nonempty)
    intro element member
    obtain ⟨listed, -, rfl⟩ := List.mem_map.mp member
    exact listed.unsplit_text
  have read : (names.map text).map unquote = names.map fun listed => trim listed.name := by
    rw [List.map_map]
    exact List.map_congr_left fun listed _ => listed.unquote_text
  rw [listedNames, elements, read, List.filter_eq_self]
  intro name member
  obtain ⟨listed, -, rfl⟩ := List.mem_map.mp member
  simp [listed.notBlank]

end SpacedName

end TableAtlas.Source
