import TableAtlas.Report.Output

/-!
# Unambiguous documents

Different values are written as different documents, whatever their strings contain.
A bare quote ends a string, since each character is written so that it can be read
back and none is written as a bare quote.  A number ends at the first character that
is no digit.  Every other value shows by its first character what it is, and by the
character behind an item or member whether another follows.

A schema shows in each member of its JSON document one of its parts, so the document
determines the schema.
-/

namespace TableAtlas

namespace Json

/-! ## Strings -/

def hexValue (digit : Char) : Nat :=
  if digit.isDigit then digit.toNat - '0'.toNat else digit.toNat - 'a'.toNat + 10

theorem hexValue_hexDigit (value : Nat) (small : value < 16) :
    hexValue (hexDigit value) = value := by
  have checked : ∀ value : Fin 16, hexValue (hexDigit value) = value := by decide
  exact checked ⟨value, small⟩

/-- The character that is written behind a backslash at the start of a text, and the
text behind it. -/
def readEscape : List Char → Option (Char × List Char)
  | 'u' :: '0' :: '0' :: high :: low :: rest =>
      some (Char.ofNat (16 * hexValue high + hexValue low), rest)
  | 'n' :: rest => some ('\n', rest)
  | 'r' :: rest => some ('\r', rest)
  | 't' :: rest => some ('\t', rest)
  | 'b' :: rest => some ('\x08', rest)
  | 'f' :: rest => some ('\x0c', rest)
  | c :: rest => some (c, rest)
  | [] => none

/-- The first character of a string that goes on, and the text behind it. -/
def readStringChar : List Char → Option (Char × List Char)
  | [] => none
  | c :: rest =>
      if c = '"' then none
      else if c = '\\' then readEscape rest
      else some (c, rest)

theorem readStringChar_escapeChar (c : Char) (rest : List Char) :
    readStringChar (escapeChar c ++ rest) = some (c, rest) := by
  fun_cases escapeChar c with
  | case8 _ _ _ _ _ _ _ isControl =>
      have code : 16 * (c.toNat / 16) + c.toNat % 16 = c.toNat := Nat.div_add_mod ..
      have high := hexValue_hexDigit (c.toNat / 16) (by omega)
      have low := hexValue_hexDigit (c.toNat % 16) (by omega)
      have read : readStringChar ('\\' :: 'u' :: '0' :: '0' :: hexDigit (c.toNat / 16) ::
            hexDigit (c.toNat % 16) :: rest) =
          some (Char.ofNat (16 * hexValue (hexDigit (c.toNat / 16)) +
            hexValue (hexDigit (c.toNat % 16))), rest) := rfl
      rw [high, low, code, Char.ofNat_toNat] at read
      exact read
  | case9 notQuote notBackslash => simp [readStringChar, notQuote, notBackslash]
  | _ => subst_vars; rfl

theorem escaped_append_inj {first second rest other : List Char}
    (same : first.flatMap escapeChar ++ '"' :: rest = second.flatMap escapeChar ++ '"' :: other) :
    first = second ∧ rest = other := by
  induction first generalizing second with
  | nil =>
      cases second with
      | nil => simpa using same
      | cons d second =>
          have read := congrArg readStringChar same
          rw [List.flatMap_cons, List.append_assoc, readStringChar_escapeChar] at read
          simp [readStringChar] at read
  | cons c first induction =>
      have read := congrArg readStringChar same
      rw [List.flatMap_cons, List.append_assoc, readStringChar_escapeChar] at read
      cases second with
      | nil => simp [readStringChar] at read
      | cons d second =>
          rw [List.flatMap_cons, List.append_assoc, readStringChar_escapeChar] at read
          simp only [Option.some.injEq, Prod.mk.injEq] at read
          obtain ⟨rfl, later⟩ := read
          obtain ⟨rfl, rfl⟩ := induction later
          exact ⟨rfl, rfl⟩

theorem quote_append_inj {first second : String} {rest other : List Char}
    (same : quote first ++ rest = quote second ++ other) : first = second ∧ rest = other := by
  simp only [quote, List.cons_append, List.append_assoc, List.nil_append, List.cons.injEq,
    true_and] at same
  obtain ⟨sameText, sameRest⟩ := escaped_append_inj same
  exact ⟨String.toList_injective sameText, sameRest⟩

/-! ## Numbers -/

/-- No digit stands at the start of a text, so a number in front of it ends there. -/
def EndsNumber (text : List Char) : Prop :=
  ∀ c ∈ text.head?, c.isDigit = false

theorem endsNumber_cons {c : Char} (noDigit : c.isDigit = false) (text : List Char) :
    EndsNumber (c :: text) := by
  simpa [EndsNumber] using noDigit

theorem isDigit_of_mem_toDigits {number : Nat} {c : Char}
    (member : c ∈ Nat.toDigits 10 number) : c.isDigit = true :=
  Nat.isDigit_of_mem_toDigits (by decide) (by decide) member

theorem takeWhile_toDigits (number : Nat) {rest : List Char} (ends : EndsNumber rest) :
    (Nat.toDigits 10 number ++ rest).takeWhile Char.isDigit = Nat.toDigits 10 number := by
  have none : rest.takeWhile Char.isDigit = [] := by
    cases rest with
    | nil => rfl
    | cons c rest => simp [ends c rfl]
  rw [List.takeWhile_append_of_pos fun _ => isDigit_of_mem_toDigits, none, List.append_nil]

theorem toDigits_append_inj {first second : Nat} {rest other : List Char}
    (ends : EndsNumber rest) (endsOther : EndsNumber other)
    (same : Nat.toDigits 10 first ++ rest = Nat.toDigits 10 second ++ other) :
    first = second ∧ rest = other := by
  have digits : Nat.toDigits 10 first = Nat.toDigits 10 second := by
    rw [← takeWhile_toDigits first ends, same, takeWhile_toDigits second endsOther]
  rw [digits] at same
  refine ⟨?_, List.append_cancel_left same⟩
  rw [← Nat.ofDigitChars_ten_toDigits (n := first), digits, Nat.ofDigitChars_ten_toDigits]

/-! ## Values -/

/-- What a value is. -/
inductive Kind where
  | null
  | bool
  | number
  | string
  | array
  | object

def kind : Json → Kind
  | null => .null
  | bool _ => .bool
  | number _ => .number
  | string _ => .string
  | array _ => .array
  | object _ => .object

/-- What a value is whose document begins with a given character. -/
def kindOfFirst (c : Char) : Kind :=
  if c.isDigit then .number
  else if c = 'n' then .null
  else if c = '"' then .string
  else if c = '[' then .array
  else if c = '{' then .object
  else .bool

theorem kindOfFirst_write (depth : Nat) (value : Json) (rest : List Char) :
    (write depth value ++ rest).head?.map kindOfFirst = some value.kind := by
  cases value with
  | null => rfl
  | bool value => cases value <;> rfl
  | number value =>
      cases written : Nat.toDigits 10 value with
      | nil => exact absurd written Nat.toDigits_ne_nil
      | cons c rest =>
          have isDigit : c.isDigit = true := isDigit_of_mem_toDigits (by rw [written]; simp)
          simp [write, written, kindOfFirst, isDigit, kind]
  | string value => rfl
  | array items => cases items <;> rfl
  | object members => cases members <;> rfl

theorem kind_eq_of_write_append_eq {depth : Nat} {first second : Json} {rest other : List Char}
    (same : write depth first ++ rest = write depth second ++ other) :
    first.kind = second.kind := by
  have read := kindOfFirst_write depth first rest
  rw [same, kindOfFirst_write] at read
  exact (Option.some.inj read).symm

theorem endsNumber_writeItems {depth inner : Nat} {items : List Json} {text : List Char} :
    EndsNumber (writeItems depth items ++ (newLine inner ++ text)) := by
  cases items with
  | nil => exact endsNumber_cons rfl _
  | cons => exact endsNumber_cons rfl _

theorem endsNumber_writeMembers {depth inner : Nat} {members : List (String × Json)}
    {text : List Char} :
    EndsNumber (writeMembers depth members ++ (newLine inner ++ text)) := by
  cases members with
  | nil => exact endsNumber_cons rfl _
  | cons => exact endsNumber_cons rfl _

mutual

/-- A value in front of a text can be read in one way only. -/
theorem write_append_inj {depth : Nat} {first second : Json} {rest other : List Char}
    (ends : EndsNumber rest) (endsOther : EndsNumber other)
    (same : write depth first ++ rest = write depth second ++ other) :
    first = second ∧ rest = other := by
  have sameKind := kind_eq_of_write_append_eq same
  cases first with
  | null =>
      cases second <;> simp only [kind, reduceCtorEq] at sameKind
      simpa [write] using same
  | bool value =>
      cases second <;> simp only [kind, reduceCtorEq] at sameKind
      rename_i again
      cases value <;> cases again <;> simp [write] at same ⊢ <;> exact same
  | number value =>
      cases second <;> simp only [kind, reduceCtorEq] at sameKind
      obtain ⟨rfl, rfl⟩ := toDigits_append_inj ends endsOther same
      exact ⟨rfl, rfl⟩
  | string value =>
      cases second <;> simp only [kind, reduceCtorEq] at sameKind
      obtain ⟨rfl, rfl⟩ := quote_append_inj same
      exact ⟨rfl, rfl⟩
  | array items =>
      cases second <;> simp only [kind, reduceCtorEq] at sameKind
      rename_i others
      cases items with
      | nil =>
          cases others with
          | nil => simpa [write] using same
          | cons => simp [write, newLine] at same
      | cons item items =>
          cases others with
          | nil => simp [write, newLine] at same
          | cons again others =>
              have listed :
                  writeItems (depth + 1) (item :: items) ++ (newLine depth ++ ']' :: rest) =
                    writeItems (depth + 1) (again :: others) ++ (newLine depth ++ ']' :: other) := by
                simpa [write, writeItems] using same
              obtain ⟨equal, closed⟩ := writeItems_append_inj listed
              simpa [equal] using closed
  | object members =>
      cases second <;> simp only [kind, reduceCtorEq] at sameKind
      rename_i others
      cases members with
      | nil =>
          cases others with
          | nil => simpa [write] using same
          | cons => simp [write, newLine] at same
      | cons member members =>
          cases others with
          | nil => simp [write, newLine] at same
          | cons again others =>
              have listed :
                  writeMembers (depth + 1) (member :: members) ++ (newLine depth ++ '}' :: rest) =
                    writeMembers (depth + 1) (again :: others) ++
                      (newLine depth ++ '}' :: other) := by
                simpa [write, writeMembers] using same
              obtain ⟨equal, closed⟩ := writeMembers_append_inj listed
              simpa [equal] using closed

theorem writeItems_append_inj {depth inner : Nat} {first second : List Json}
    {rest other : List Char}
    (same : writeItems depth first ++ (newLine inner ++ rest) =
      writeItems depth second ++ (newLine inner ++ other)) :
    first = second ∧ rest = other := by
  cases first with
  | nil =>
      cases second with
      | nil => simpa [writeItems] using same
      | cons => simp [writeItems, newLine] at same
  | cons item items =>
      cases second with
      | nil => simp [writeItems, newLine] at same
      | cons again others =>
          simp only [writeItems, List.cons_append, List.append_assoc, List.cons.injEq, true_and,
            List.append_cancel_left_eq] at same
          obtain ⟨rfl, behind⟩ := write_append_inj endsNumber_writeItems
            endsNumber_writeItems same
          obtain ⟨rfl, rfl⟩ := writeItems_append_inj behind
          exact ⟨rfl, rfl⟩

theorem writeMembers_append_inj {depth inner : Nat} {first second : List (String × Json)}
    {rest other : List Char}
    (same : writeMembers depth first ++ (newLine inner ++ rest) =
      writeMembers depth second ++ (newLine inner ++ other)) :
    first = second ∧ rest = other := by
  cases first with
  | nil =>
      cases second with
      | nil => simpa [writeMembers] using same
      | cons => simp [writeMembers, newLine] at same
  | cons member members =>
      cases second with
      | nil => simp [writeMembers, newLine] at same
      | cons again others =>
          obtain ⟨name, value⟩ := member
          obtain ⟨otherName, otherValue⟩ := again
          simp only [writeMembers, List.cons_append, List.append_assoc, List.cons.injEq, true_and,
            List.append_cancel_left_eq] at same
          obtain ⟨rfl, valued⟩ := quote_append_inj same
          simp only [List.cons.injEq, true_and] at valued
          obtain ⟨rfl, behind⟩ := write_append_inj endsNumber_writeMembers
            endsNumber_writeMembers valued
          obtain ⟨rfl, rfl⟩ := writeMembers_append_inj behind
          exact ⟨rfl, rfl⟩

end

theorem text_eq_iff {first second : Json} : first.text = second.text ↔ first = second := by
  constructor
  · intro same
    have written : write 0 first ++ [] = write 0 second ++ [] := by
      simpa using String.ofList_injective same
    have ends : EndsNumber [] := by simp [EndsNumber]
    exact (write_append_inj ends ends written).1
  · rintro rfl
    rfl

theorem strings_eq_iff {first second : List String} :
    strings first = strings second ↔ first = second := by
  simp only [strings, array.injEq]
  exact List.map_inj_right fun _ _ => string.inj

theorem array_map_eq_iff {α : Type} {toJson : α → Json} {first second : List α}
    (determines : ∀ {item other : α}, toJson item = toJson other ↔ item = other) :
    array (first.map toJson) = array (second.map toJson) ↔ first = second := by
  simp only [array.injEq]
  exact List.map_inj_right fun _ _ => determines.mp

end Json

/-! ## Schemas -/

theorem FieldClass.name_eq_iff {first second : FieldClass} :
    first.name = second.name ↔ first = second := by
  cases first <;> cases second <;> simp [name]

theorem ObjectKind.keyword_eq_iff {first second : ObjectKind} :
    first.keyword = second.keyword ↔ first = second := by
  cases first <;> cases second <;> simp [keyword]

theorem Field.toJson_eq_iff {first second : Field} :
    first.toJson = second.toJson ↔ first = second := by
  cases first
  cases second
  simp [toJson, FieldClass.name_eq_iff]

theorem Key.toJson_eq_iff {first second : Key} :
    first.toJson = second.toJson ↔ first = second := by
  cases first
  cases second
  simp [toJson, Json.strings_eq_iff]

theorem TableObject.toJson_eq_iff {first second : TableObject} :
    first.toJson = second.toJson ↔ first = second := by
  cases first
  cases second
  simp [toJson, ObjectKind.keyword_eq_iff, Json.array_map_eq_iff Field.toJson_eq_iff,
    Json.array_map_eq_iff Key.toJson_eq_iff]

theorem Relation.toJson_eq_iff {first second : Relation} :
    first.toJson = second.toJson ↔ first = second := by
  cases first
  cases second
  simp [toJson]

/-- A member that is left out is told from one that is not by the name of the next. -/
theorem ProjectInfo.toJson_eq_iff {first second : ProjectInfo} :
    first.toJson = second.toJson ↔ first = second := by
  obtain ⟨name, publisher, version⟩ := first
  obtain ⟨otherName, otherPublisher, otherVersion⟩ := second
  cases publisher <;> cases version <;> cases otherPublisher <;> cases otherVersion <;>
    simp [toJson, optionalMember]

namespace Schema

theorem toJson_eq_iff {first second : Schema} :
    first.toJson = second.toJson ↔ first = second := by
  cases first
  cases second
  simp [toJson, ProjectInfo.toJson_eq_iff, Json.strings_eq_iff,
    Json.array_map_eq_iff TableObject.toJson_eq_iff, Json.array_map_eq_iff Relation.toJson_eq_iff]

/-- The JSON document of a schema determines the schema. -/
theorem render_json_eq_iff {first second : Schema} :
    first.render .json = second.render .json ↔ first = second := by
  have documents : first.render .json = second.render .json ↔
      first.toJson.text = second.toJson.text := Iff.rfl
  rw [documents, Json.text_eq_iff, toJson_eq_iff]

end Schema

end TableAtlas
