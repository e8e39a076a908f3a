import TableAtlas.Source.Block
import TableAtlas.Text.Reader
import TableAtlas.Text.Search

/-!
# Sections and declarations

The body of a table has a section for its fields and one for its keys.  A
section consists of its keyword and a block that holds declarations.  This
module reads the parts that field and key declarations share: a name up to its
semicolon, and the arguments up to the closing parenthesis.
-/

namespace TableAtlas.Source

open TableAtlas.Text

/-- Reads a section keyword and the opening brace of its block. -/
def readSectionHead (keyword text : List Char) : Option (List Char) := do
  let (_, afterKeyword) ← readKeyword keyword text
  readChar '{' (dropBlanks afterKeyword)

/-- The first section with a keyword: the text before it and the text inside
its opening brace. -/
def findSection (keyword body : List Char) : Option (List Char × List Char) :=
  firstMatch (readSectionHead keyword) false body

/-- The block of the first section with a keyword; empty if there is none. -/
def sectionBody (keyword body : List Char) : List Char :=
  match findSection keyword body with
  | none => []
  | some (_, inside) => (splitBlock inside).1

/-- Whether a character ends a bare name. -/
def endsBareName (c : Char) : Bool :=
  c == ';' || c == '"'

/-- Reads a declared name and the semicolon behind it.  The name is quoted, or
bare and then reaches up to the semicolon.  A bare name may consist of blanks. -/
def readDeclaredName (text : List Char) : Option (List Char × List Char) :=
  match readQuotedName (dropBlanks text) with
  | some (name, afterName) => do
      let rest ← readChar ';' (dropBlanks afterName)
      return (trim name, rest)
  | none => do
      let rest ← readChar ';' (text.dropWhile fun c => !endsBareName c)
      let name := text.takeWhile fun c => !endsBareName c
      if name.isEmpty then none else some (trim name, rest)

theorem readDeclaredName_suffix {text name rest : List Char}
    (read : readDeclaredName text = some (name, rest)) : rest <:+ text := by
  unfold readDeclaredName at read
  split at read
  · rename_i found afterName quoted
    simp only [Option.bind_eq_bind, Option.bind_eq_some_iff, Option.pure_def, Option.some.injEq,
      Prod.mk.injEq, readChar_eq_some_iff] at read
    obtain ⟨remaining, separator, -, rfl⟩ := read
    have afterSuffix : afterName <:+ dropBlanks text := by
      refine ⟨'"' :: (found ++ ['"']), ?_⟩
      simp [(readQuotedName_eq_some_iff.mp quoted).1]
    exact (List.suffix_cons ';' remaining).trans
      ((separator ▸ dropBlanks_suffix afterName).trans
        (afterSuffix.trans (dropBlanks_suffix text)))
  · simp only [Option.bind_eq_bind, Option.bind_eq_some_iff, readChar_eq_some_iff] at read
    obtain ⟨remaining, separator, result⟩ := read
    split at result
    · exact absurd result (by simp)
    · simp only [Option.some.injEq, Prod.mk.injEq] at result
      obtain ⟨-, rfl⟩ := result
      exact (List.suffix_cons ';' remaining).trans
        (separator ▸ List.dropWhile_suffix fun c => !endsBareName c)

/-- Splits a text at the first closing parenthesis outside double quotes. -/
def splitAtParenthesis (inQuotes : Bool) : List Char → Option (List Char × List Char)
  | [] => none
  | c :: rest =>
      if c = ')' ∧ inQuotes = false then some ([], rest)
      else
        (splitAtParenthesis (inQuotes != (c == '"')) rest).map fun (before, after) =>
          (c :: before, after)

theorem splitAtParenthesis_eq_append {inQuotes : Bool} {text before after : List Char}
    (split : splitAtParenthesis inQuotes text = some (before, after)) :
    text = before ++ ')' :: after := by
  induction text generalizing inQuotes before with
  | nil => simp [splitAtParenthesis] at split
  | cons c rest hypothesis =>
      simp only [splitAtParenthesis] at split
      split at split
      · rename_i closing
        simp only [Option.some.injEq, Prod.mk.injEq] at split
        obtain ⟨rfl, rfl⟩ := split
        rw [closing.1, List.nil_append]
      · simp only [Option.map_eq_some_iff, Prod.exists, Prod.mk.injEq] at split
        obtain ⟨tail, _, inner, rfl, rfl⟩ := split
        rw [hypothesis inner, List.cons_append]

/-- Reads at least one character up to the closing parenthesis of a declaration. -/
def readArguments (text : List Char) : Option (List Char × List Char) := do
  let (arguments, rest) ← splitAtParenthesis false text
  if arguments.isEmpty then none else some (arguments, rest)

theorem readArguments_suffix {text arguments rest : List Char}
    (read : readArguments text = some (arguments, rest)) : rest <:+ text := by
  simp only [readArguments, Option.bind_eq_bind, Option.bind_eq_some_iff, Prod.exists] at read
  obtain ⟨before, after, split, result⟩ := read
  split at result
  · exact absurd result (by simp)
  · simp only [Option.some.injEq, Prod.mk.injEq] at result
    obtain ⟨rfl, rfl⟩ := result
    exact ⟨before ++ [')'], by simp [splitAtParenthesis_eq_append split]⟩

/-- The number of values of 64 bits. -/
def idLimit : Nat :=
  Nat.pow 2 64

/-- The value of a number written in ASCII digits, where it fits into 64 bits. -/
def parseId (digits : List Char) : Option Nat :=
  if digits.isEmpty ∨ !digits.all Char.isDigit then none
  else
    let value := digits.foldl (fun total c => total * 10 + (c.toNat - '0'.toNat)) 0
    if value < idLimit then some value else none

/-- The id that a declaration number stands for; zero if it has no value. -/
def idOfDigits (digits : List Char) : Nat :=
  (parseId digits).getD 0

end TableAtlas.Source
