import TableAtlas.Settings.Failure

/-!
# Skipping values

The value of a member that means nothing to the settings is skipped, but it has
to be well formed.  It is passed one character after the other: what may come
next depends on the place inside the value, and on the arrays and objects that
are still open.
-/

namespace TableAtlas.Settings

/-- A bracket that is still open. -/
inductive Bracket where
  | list
  | object
deriving DecidableEq, Repr

def Bracket.construct : Bracket → Construct
  | list => .list
  | object => .object

/-- A place inside a value that is skipped.  Strings are either keys or values. -/
inductive Place where
  | value
  | firstItem
  | firstKey
  | key
  | colon
  | behindValue
  | literal (letters : List Char)
  | string (isKey : Bool)
  | escape (isKey : Bool)
  | hex (isKey : Bool) (missing : Nat) (valid : Bool)
  | minus
  | zero
  | integer
  | point
  | fraction
  | exponentMark
  | exponentSign
  | exponent
deriving DecidableEq, Repr

/-- What a character means at a place. -/
inductive Step where
  /-- The character leads to another place. -/
  | next (place : Place) (opened : List Bracket)
  /-- The character is the last one of the value. -/
  | done
  /-- The value has ended before the character. -/
  | ended
  /-- The problem shows before the character. -/
  | failBefore (problem : Problem)
  /-- The problem shows behind a number of bytes of the character. -/
  | failBehind (problem : Problem) (bytes : Nat)
deriving DecidableEq, Repr

namespace Step

/-- The problem shows behind the first byte of the character. -/
def fail (problem : Problem) : Step :=
  failBehind problem 1

/-- The character completes a value inside the given brackets. -/
def complete : List Bracket → Step
  | [] => done
  | bracket :: outer => next .behindValue (bracket :: outer)

def behindValue (opened : List Bracket) (c : Char) : Step :=
  match opened with
  | [] => ended
  | .list :: outer =>
      if c = ',' then next .value (.list :: outer)
      else if c = ']' then complete outer
      else fail .expectedListComma
  | .object :: outer =>
      if c = ',' then next .key (.object :: outer)
      else if c = '}' then complete outer
      else fail .expectedObjectComma

def value (opened : List Bracket) (c : Char) : Step :=
  if c = 'n' then next (.literal ['u', 'l', 'l']) opened
  else if c = 't' then next (.literal ['r', 'u', 'e']) opened
  else if c = 'f' then next (.literal ['a', 'l', 's', 'e']) opened
  else if c = '-' then next .minus opened
  else if c = '0' then next .zero opened
  else if c.isDigit then next .integer opened
  else if c = '"' then next (.string false) opened
  else if c = '[' then next .firstItem (.list :: opened)
  else if c = '{' then next .firstKey (.object :: opened)
  else fail .expectedValue

def key (opened : List Bracket) (c : Char) : Step :=
  if c = '"' then next (.string true) opened else fail .keyNotString

def behindNumber (opened : List Bracket) (c : Char) : Step :=
  match opened with
  | [] => ended
  | bracket :: outer =>
      if Cursor.isSpace c then next .behindValue (bracket :: outer)
      else behindValue (bracket :: outer) c

def behindDigits (opened : List Bracket) (c : Char) : Step :=
  if c = 'e' ∨ c = 'E' then next .exponentMark opened else behindNumber opened c

def behindInteger (opened : List Bracket) (c : Char) : Step :=
  if c = '.' then next .point opened else behindDigits opened c

/-- The character has to be the first digit of a part of a number. -/
def digit (opened : List Bracket) (place : Place) (c : Char) : Step :=
  if c.isDigit then next place opened else fail .invalidNumber

end Step

/-- Whether a character is a hexadecimal digit. -/
def isHexDigit (c : Char) : Bool :=
  c.isDigit || ('a' ≤ c && c ≤ 'f') || ('A' ≤ c && c ≤ 'F')

namespace Place

def allowsSpace : Place → Bool
  | value | firstItem | firstKey | key | colon | behindValue => true
  | _ => false

/-- What a character means at a place inside the given brackets. -/
def step (place : Place) (opened : List Bracket) (c : Char) : Step :=
  if place.allowsSpace ∧ Cursor.isSpace c then .next place opened
  else
    match place with
    | value => .value opened c
    | firstItem => if c = ']' then .complete opened.tail else .value opened c
    | firstKey => if c = '}' then .complete opened.tail else .key opened c
    | key => .key opened c
    | colon => if c = ':' then .next .value opened else .fail .expectedColon
    | behindValue => .behindValue opened c
    | literal [] => .ended
    | literal (letter :: letters) =>
        if c = letter then
          if letters.isEmpty then .complete opened else .next (literal letters) opened
        else .fail .expectedLiteral
    | string isKey =>
        if c = '"' then if isKey then .next colon opened else .complete opened
        else if c = '\\' then .next (escape isKey) opened
        else if c.toNat < 32 then .failBefore .controlCharacter
        else .next (string isKey) opened
    | escape isKey =>
        if c = 'u' then .next (hex isKey 4 true) opened
        else if ['"', '\\', '/', 'b', 'f', 'n', 'r', 't'].contains c then
          .next (string isKey) opened
        else .fail .invalidEscape
    | hex isKey missing valid =>
        if c.utf8Size < missing then
          .next (hex isKey (missing - c.utf8Size) (valid && isHexDigit c)) opened
        else if valid && isHexDigit c then .next (string isKey) opened
        else .failBehind .invalidEscape missing
    | minus => if c = '0' then .next zero opened else .digit opened integer c
    | zero => if c.isDigit then .fail .invalidNumber else .behindInteger opened c
    | integer => if c.isDigit then .next integer opened else .behindInteger opened c
    | point => .digit opened fraction c
    | fraction => if c.isDigit then .next fraction opened else .behindDigits opened c
    | exponentMark =>
        if c = '+' ∨ c = '-' then .next exponentSign opened else .digit opened exponent c
    | exponentSign => .digit opened exponent c
    | exponent => if c.isDigit then .next exponent opened else .behindNumber opened c

/-- What the end of the document means at a place: nothing if the value is
complete, or a problem. -/
def problemAtEnd? (place : Place) (opened : List Bracket) : Option Problem :=
  match place with
  | value | literal _ => some (.endOfInput .value)
  | key | firstKey | colon => some (.endOfInput .object)
  | string _ | escape _ | hex _ _ _ => some (.endOfInput .string)
  | minus | point | exponentMark | exponentSign => some .invalidNumber
  | firstItem | behindValue | zero | integer | fraction | exponent =>
      opened.head?.map fun bracket => .endOfInput bracket.construct

end Place

/-- Passes a value from a place inside it on, and returns the cursor behind it. -/
def skipFrom (place : Place) (opened : List Bracket) (position : Position) :
    List Char → Except Failure Cursor
  | [] =>
      match place.problemAtEnd? opened with
      | some problem => .error ⟨problem, position⟩
      | none => .ok ⟨[], position⟩
  | c :: rest =>
      match place.step opened c with
      | .next place opened => skipFrom place opened (position.past c) rest
      | .done => .ok ⟨rest, position.past c⟩
      | .ended => .ok ⟨c :: rest, position⟩
      | .failBefore problem => .error ⟨problem, position⟩
      | .failBehind problem bytes => .error ⟨problem, position.pastBytes bytes [c]⟩

theorem size_skipFrom_le {place : Place} {opened : List Bracket} {position : Position}
    {text : List Char} {behind : Cursor}
    (skipped : skipFrom place opened position text = .ok behind) :
    behind.size ≤ text.length := by
  induction text generalizing place opened position with
  | nil =>
      simp only [skipFrom] at skipped
      split at skipped
      · exact absurd skipped (by simp)
      · obtain rfl := Except.ok.inj skipped
        exact Nat.le_refl _
  | cons c rest hypothesis =>
      simp only [skipFrom] at skipped
      split at skipped
      · exact Nat.le_succ_of_le (hypothesis skipped)
      · obtain rfl := Except.ok.inj skipped
        exact Nat.le_succ _
      · obtain rfl := Except.ok.inj skipped
        exact Nat.le_refl _
      · exact absurd skipped (by simp)
      · exact absurd skipped (by simp)

def skipValue (cursor : Cursor) : Except Failure Cursor :=
  skipFrom .value [] cursor.position cursor.rest

theorem size_skipValue_le {cursor behind : Cursor} (skipped : skipValue cursor = .ok behind) :
    behind.size ≤ cursor.size :=
  size_skipFrom_le skipped

end TableAtlas.Settings
