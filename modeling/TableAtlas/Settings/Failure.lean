/-!
# Failures of reading a settings document

A settings document is read from JSON.  What is wrong with one that cannot be
read is reported with the line and the column at which it was noticed.  Columns
count bytes.
-/

namespace TableAtlas.Settings

/-- The constructs of JSON at which a document may end too early. -/
inductive Construct where
  | value
  | object
  | list
  | string
deriving DecidableEq, Repr

def Construct.label : Construct → String
  | value => "a value"
  | object => "an object"
  | list => "a list"
  | string => "a string"

/-- What is wrong with a document. -/
inductive Problem where
  | endOfInput (construct : Construct)
  | expectedValue
  | expectedLiteral
  | expectedColon
  | expectedListComma
  | expectedObjectComma
  | trailingComma
  | trailingCharacters
  | keyNotString
  | controlCharacter
  | invalidEscape
  | loneSurrogate
  | unfinishedSurrogate
  | invalidNumber
  | numberOutOfRange
  | duplicateMember (name : String)
  | wrongType (found expected : String)
deriving DecidableEq, Repr

def Problem.text : Problem → String
  | endOfInput construct => "EOF while parsing " ++ construct.label
  | expectedValue => "expected value"
  | expectedLiteral => "expected ident"
  | expectedColon => "expected \x60:\x60"
  | expectedListComma => "expected \x60,\x60 or \x60]\x60"
  | expectedObjectComma => "expected \x60,\x60 or \x60\x7d\x60"
  | trailingComma => "trailing comma"
  | trailingCharacters => "trailing characters"
  | keyNotString => "key must be a string"
  | controlCharacter => "control character (\\u0000-\\u001F) found while parsing a string"
  | invalidEscape => "invalid escape"
  | loneSurrogate => "lone leading surrogate in hex escape"
  | unfinishedSurrogate => "unexpected end of hex escape"
  | invalidNumber => "invalid number"
  | numberOutOfRange => "number out of range"
  | duplicateMember name => "duplicate field \x60" ++ name ++ "\x60"
  | wrongType found expected => "invalid type: " ++ found ++ ", expected " ++ expected

/-- A place in a document: a line, counted from one, and the number of bytes of
that line that have been passed. -/
structure Position where
  line : Nat
  column : Nat
deriving DecidableEq, Repr

namespace Position

def start : Position :=
  ⟨1, 0⟩

def past (position : Position) (c : Char) : Position :=
  if c = '\n' then ⟨position.line + 1, 0⟩
  else ⟨position.line, position.column + c.utf8Size⟩

def pastByte (position : Position) (c : Char) : Position :=
  if c = '\n' then ⟨position.line + 1, 0⟩ else ⟨position.line, position.column + 1⟩

/-- The place behind a number of bytes of a text. -/
def pastBytes (position : Position) : Nat → List Char → Position
  | 0, _ => position
  | _ + 1, [] => position
  | count + 1, c :: rest =>
      if count + 1 < c.utf8Size then ⟨position.line, position.column + (count + 1)⟩
      else (position.past c).pastBytes (count + 1 - c.utf8Size) rest
termination_by _ text => text.length

end Position

/-- A problem and the place at which it was noticed. -/
structure Failure where
  problem : Problem
  position : Position
deriving DecidableEq, Repr

def Failure.message (failure : Failure) : String :=
  failure.problem.text ++ " at line " ++ toString failure.position.line ++ " column " ++
    toString failure.position.column

theorem map_eq_ok_iff {α β : Type} {result : Except Failure α} {change : α → β} {value : β} :
    result.map change = .ok value ↔ ∃ found, result = .ok found ∧ change found = value := by
  cases result <;> simp [Except.map]

theorem bind_eq_ok_iff {α β : Type} {result : Except Failure α} {next : α → Except Failure β}
    {value : β} :
    (result >>= next) = .ok value ↔ ∃ found, result = .ok found ∧ next found = .ok value := by
  cases result <;> simp [bind, Except.bind]

/-- The part of a document that has not been read, and where it starts. -/
structure Cursor where
  rest : List Char
  position : Position
deriving Repr

namespace Cursor

def ofText (text : String) : Cursor :=
  ⟨text.toList, .start⟩

def size (cursor : Cursor) : Nat :=
  cursor.rest.length

/-- Fails at the place of the cursor. -/
def failHere {α : Type} (cursor : Cursor) (problem : Problem) : Except Failure α :=
  .error ⟨problem, cursor.position⟩

/-- Fails behind the first byte of the next character, or at the end of the document. -/
def failNext {α : Type} (cursor : Cursor) (problem : Problem) : Except Failure α :=
  match cursor.rest with
  | [] => .error ⟨problem, cursor.position⟩
  | c :: _ => .error ⟨problem, cursor.position.pastByte c⟩

/-- Whether a character is a blank of JSON. -/
def isSpace (c : Char) : Bool :=
  c == ' ' || c == '\n' || c == '\t' || c == '\r'

/-- Passes the characters from a place on for as long as they satisfy a condition. -/
def passWhile (accepts : Char → Bool) (position : Position) : List Char → Cursor
  | [] => ⟨[], position⟩
  | c :: rest =>
      if accepts c then passWhile accepts (position.past c) rest else ⟨c :: rest, position⟩

theorem size_passWhile_le (accepts : Char → Bool) (position : Position) (text : List Char) :
    (passWhile accepts position text).size ≤ text.length := by
  induction text generalizing position with
  | nil => exact Nat.le_refl _
  | cons c rest hypothesis =>
      simp only [passWhile]
      split
      · exact Nat.le_succ_of_le (hypothesis _)
      · exact Nat.le_refl _

def skipSpaces (cursor : Cursor) : Cursor :=
  passWhile isSpace cursor.position cursor.rest

theorem size_skipSpaces_le (cursor : Cursor) : cursor.skipSpaces.size ≤ cursor.size :=
  size_passWhile_le isSpace cursor.position cursor.rest

def skipOne (cursor : Cursor) : Cursor :=
  match cursor.rest with
  | [] => cursor
  | c :: rest => ⟨rest, cursor.position.past c⟩

theorem size_skipOne (cursor : Cursor) : cursor.skipOne.size = cursor.size - 1 := by
  cases cursor with
  | mk rest position => cases rest <;> rfl

def readLiteral : List Char → Cursor → Except Failure Cursor
  | [], cursor => .ok cursor
  | expected :: others, cursor =>
      match cursor.rest with
      | [] => cursor.failHere (.endOfInput .value)
      | c :: _ =>
          if c = expected then readLiteral others cursor.skipOne
          else cursor.failNext .expectedLiteral

theorem size_readLiteral_le {letters : List Char} {cursor behind : Cursor}
    (read : readLiteral letters cursor = .ok behind) : behind.size ≤ cursor.size := by
  induction letters generalizing cursor with
  | nil =>
      obtain rfl := Except.ok.inj read
      exact Nat.le_refl _
  | cons letter others hypothesis =>
      simp only [readLiteral] at read
      split at read
      · exact absurd read (by simp [failHere])
      · split at read
        · have bound := hypothesis read
          rw [size_skipOne] at bound
          omega
        · rename_i isRest _
          exact absurd read (by simp [failNext, isRest])

end Cursor

end TableAtlas.Settings
