import TableAtlas.Settings.Failure

/-!
# Texts in settings documents

A string is read one character after the other.  A character beyond the basic
plane may be escaped as a pair of surrogates, of which neither may stand alone.
-/

namespace TableAtlas.Settings

def hexValue? (c : Char) : Option Nat :=
  if c.isDigit then some (c.toNat - '0'.toNat)
  else if 'a' ≤ c ∧ c ≤ 'f' then some (c.toNat - 'a'.toNat + 10)
  else if 'A' ≤ c ∧ c ≤ 'F' then some (c.toNat - 'A'.toNat + 10)
  else none

/-- A code unit with a digit appended; nothing once a digit was wrong. -/
def appendHex (unit : Option Nat) (c : Char) : Option Nat := do
  let higher ← unit
  let digit ← hexValue? c
  return higher * 16 + digit

/-- Whether a code unit is the first of a pair of surrogates. -/
def isLeadingSurrogate (unit : Nat) : Bool :=
  decide (0xD800 ≤ unit) && decide (unit ≤ 0xDBFF)

/-- Whether a code unit is the second of a pair of surrogates. -/
def isTrailingSurrogate (unit : Nat) : Bool :=
  decide (0xDC00 ≤ unit) && decide (unit ≤ 0xDFFF)

/-- The character that a pair of surrogates stands for. -/
def ofSurrogates (leading trailing : Nat) : Char :=
  Char.ofNat ((leading - 0xD800) * 0x400 + (trailing - 0xDC00) + 0x10000)

/-- The character that a letter behind a backslash stands for. -/
def unescape? (letter : Char) : Option Char :=
  match letter with
  | '"' => some '"'
  | '\\' => some '\\'
  | '/' => some '/'
  | 'b' => some '\x08'
  | 'f' => some '\x0c'
  | 'n' => some '\n'
  | 'r' => some '\r'
  | 't' => some '\t'
  | _ => none

/-- A place inside a string: between characters, behind a backslash, inside the
four bytes of a code unit, or between the two parts of a pair of surrogates. -/
inductive StringPlace where
  | plain
  | escape
  | unit (leading : Option Nat) (missing : Nat) (value : Option Nat)
  | pairEscape (leading : Nat)
  | pairUnit (leading : Nat)
deriving DecidableEq, Repr

/-- Reads a string from a place inside it up to its closing quote. -/
def readStringFrom (place : StringPlace) (position : Position) :
    List Char → Except Failure (List Char × Cursor)
  | [] => .error ⟨.endOfInput .string, position⟩
  | c :: rest =>
      let behind := position.past c
      let add (read : Char) : Except Failure (List Char × Cursor) :=
        (readStringFrom .plain behind rest).map fun (text, cursor) => (read :: text, cursor)
      match place with
      | .plain =>
          if c = '"' then .ok ([], ⟨rest, behind⟩)
          else if c = '\\' then readStringFrom .escape behind rest
          else if c.toNat < 32 then .error ⟨.controlCharacter, behind⟩
          else add c
      | .escape =>
          if c = 'u' then readStringFrom (.unit none 4 (some 0)) behind rest
          else
            match unescape? c with
            | some read => add read
            | none => .error ⟨.invalidEscape, position.pastByte c⟩
      | .unit leading missing value =>
          if c.utf8Size < missing then
            readStringFrom (.unit leading (missing - c.utf8Size) (appendHex value c)) behind rest
          else
            match appendHex value c, leading with
            | none, _ => .error ⟨.invalidEscape, position.pastBytes missing [c]⟩
            | some unit, none =>
                if isTrailingSurrogate unit then .error ⟨.loneSurrogate, behind⟩
                else if isLeadingSurrogate unit then
                  readStringFrom (.pairEscape unit) behind rest
                else add (Char.ofNat unit)
            | some unit, some leading =>
                if isTrailingSurrogate unit then add (ofSurrogates leading unit)
                else .error ⟨.loneSurrogate, behind⟩
      | .pairEscape leading =>
          if c = '\\' then readStringFrom (.pairUnit leading) behind rest
          else .error ⟨.unfinishedSurrogate, position.pastByte c⟩
      | .pairUnit leading =>
          if c = 'u' then readStringFrom (.unit (some leading) 4 (some 0)) behind rest
          else .error ⟨.unfinishedSurrogate, position.pastByte c⟩

theorem size_readStringFrom_le {place : StringPlace} {position : Position} {text : List Char}
    {read : List Char} {behind : Cursor}
    (found : readStringFrom place position text = .ok (read, behind)) :
    behind.size ≤ text.length := by
  induction text generalizing place position read with
  | nil => simp [readStringFrom] at found
  | cons c rest hypothesis =>
      have added : ∀ {letter : Char},
          ((readStringFrom .plain (position.past c) rest).map fun (text, cursor) =>
            (letter :: text, cursor)) = .ok (read, behind) →
          behind.size ≤ (c :: rest).length := by
        intro letter extended
        obtain ⟨⟨tail, cursor⟩, inner, equal⟩ := map_eq_ok_iff.mp extended
        simp only [Prod.mk.injEq] at equal
        obtain ⟨-, rfl⟩ := equal
        exact Nat.le_succ_of_le (hypothesis inner)
      have continued : ∀ {place : StringPlace},
          readStringFrom place (position.past c) rest = .ok (read, behind) →
          behind.size ≤ (c :: rest).length :=
        fun inner => Nat.le_succ_of_le (hypothesis inner)
      simp only [readStringFrom] at found
      repeat' split at found
      all_goals first
        | exact continued found
        | exact added found
        | (obtain ⟨-, rfl⟩ := Prod.mk.inj (Except.ok.inj found)
           exact Nat.le_succ _)
        | simp at found

def readString (cursor : Cursor) : Except Failure (List Char × Cursor) :=
  readStringFrom .plain cursor.skipOne.position cursor.skipOne.rest

theorem size_readString_le {cursor behind : Cursor} {text : List Char}
    (found : readString cursor = .ok (text, behind)) :
    behind.size ≤ cursor.size - 1 := by
  rw [← Cursor.size_skipOne]
  exact size_readStringFrom_le found

end TableAtlas.Settings
