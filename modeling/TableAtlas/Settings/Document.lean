import TableAtlas.Settings.Number
import TableAtlas.Settings.Skipping
import TableAtlas.Settings.Text
import TableAtlas.Text.Quotation

/-!
# Settings documents

A settings document is a JSON object whose members are all optional.  Known
members hold a text, which may be null, or a list of texts; other members are
skipped.  The known members may also be given as an array in their order.
-/

namespace TableAtlas.Settings

open TableAtlas.Text

/-- What a member of a settings document holds. -/
inductive MemberKind where
  | text
  | texts
deriving DecidableEq, Repr

inductive MemberValue where
  | text (value : Option String)
  | texts (values : List String)
deriving DecidableEq, Repr

/-- The known members of a kind of settings document, and how a message calls
the document as a whole. -/
structure Shape where
  title : String
  members : List (String × MemberKind)
deriving DecidableEq, Repr

namespace Cursor

/-- Fails because the value at the cursor is not of the expected type. -/
def wrongType {α : Type} (cursor : Cursor) (expected : String) : Except Failure α :=
  match cursor.rest with
  | [] => cursor.failHere (.endOfInput .value)
  | c :: _ =>
      let literal (letters : List Char) (found : String) : Except Failure α := do
        let behind ← readLiteral letters cursor.skipOne
        behind.failHere (.wrongType found expected)
      if c = 'n' then literal ['u', 'l', 'l'] "null"
      else if c = 't' then literal ['r', 'u', 'e'] "boolean \x60true\x60"
      else if c = 'f' then literal ['a', 'l', 's', 'e'] "boolean \x60false\x60"
      else if c = '-' ∨ c.isDigit then do
        let (found, behind) ← cursor.readNumber
        behind.failHere (.wrongType found expected)
      else if c = '"' then do
        let (text, behind) ← readString cursor
        behind.failHere (.wrongType ("string " ++ quotation text) expected)
      else if c = '[' then cursor.failHere (.wrongType "sequence" expected)
      else if c = '{' then cursor.failHere (.wrongType "map" expected)
      else cursor.failNext .expectedValue

theorem wrongType_ne_ok {α : Type} {cursor : Cursor} {expected : String} {value : α} :
    cursor.wrongType expected ≠ .ok value := by
  intro found
  simp only [wrongType, failHere, failNext, bind, Except.bind] at found
  repeat' split at found
  all_goals simp at found

def readText (cursor : Cursor) : Except Failure (String × Cursor) :=
  let start := cursor.skipSpaces
  match start.rest with
  | '"' :: _ => (readString start).map fun (text, behind) => (String.ofList text, behind)
  | _ => start.wrongType "a string"

theorem size_readText_lt {cursor behind : Cursor} {text : String}
    (found : cursor.readText = .ok (text, behind)) : behind.size < cursor.size := by
  have spaces := size_skipSpaces_le cursor
  simp only [readText] at found
  split at found
  · rename_i rest isQuote
    have nonempty : cursor.skipSpaces.size = rest.length + 1 := by simp [size, isQuote]
    obtain ⟨⟨letters, next⟩, read, equal⟩ := map_eq_ok_iff.mp found
    simp only [Prod.mk.injEq] at equal
    obtain ⟨-, rfl⟩ := equal
    have bound := size_readString_le read
    omega
  · exact absurd found wrongType_ne_ok

def readOptionalText (cursor : Cursor) : Except Failure (Option String × Cursor) :=
  let start := cursor.skipSpaces
  match start.rest with
  | 'n' :: _ => (readLiteral ['u', 'l', 'l'] start.skipOne).map fun behind => (none, behind)
  | _ => start.readText.map fun (text, behind) => (some text, behind)

theorem size_readOptionalText_le {cursor behind : Cursor} {text : Option String}
    (found : cursor.readOptionalText = .ok (text, behind)) : behind.size ≤ cursor.size := by
  have spaces := size_skipSpaces_le cursor
  simp only [readOptionalText] at found
  split at found
  · obtain ⟨next, read, equal⟩ := map_eq_ok_iff.mp found
    simp only [Prod.mk.injEq] at equal
    obtain ⟨-, rfl⟩ := equal
    have bound := size_readLiteral_le read
    rw [size_skipOne] at bound
    omega
  · obtain ⟨⟨letters, next⟩, read, equal⟩ := map_eq_ok_iff.mp found
    simp only [Prod.mk.injEq] at equal
    obtain ⟨-, rfl⟩ := equal
    have bound := size_readText_lt read
    omega

/-- Passes the separator before an item of an array.  The answer is the cursor
at the item, or nothing in front of the closing bracket. -/
def nextItem? (cursor : Cursor) (isFirst : Bool) : Except Failure (Option Cursor) :=
  let start := cursor.skipSpaces
  match start.rest with
  | [] => start.failHere (.endOfInput .list)
  | c :: _ =>
      if c = ']' then .ok none
      else if isFirst then .ok (some start)
      else if c = ',' then
        let item := start.skipOne.skipSpaces
        match item.rest with
        | [] => item.failHere (.endOfInput .value)
        | d :: _ => if d = ']' then item.failNext .trailingComma else .ok (some item)
      else start.failNext .expectedListComma

theorem size_nextItem?_le {cursor item : Cursor} {isFirst : Bool}
    (found : cursor.nextItem? isFirst = .ok (some item)) : item.size ≤ cursor.size := by
  have spaces := size_skipSpaces_le cursor
  have second := size_skipSpaces_le cursor.skipSpaces.skipOne
  rw [size_skipOne] at second
  simp only [nextItem?, failHere, failNext] at found
  repeat' split at found
  all_goals first
    | (obtain rfl := Option.some.inj (Except.ok.inj found)
       omega)
    | simp at found

def endList (cursor : Cursor) : Except Failure Cursor :=
  let start := cursor.skipSpaces
  match start.rest with
  | [] => start.failHere (.endOfInput .list)
  | c :: _ =>
      if c = ']' then .ok start.skipOne
      else if c = ',' then
        let item := start.skipOne.skipSpaces
        match item.rest with
        | ']' :: _ => item.failNext .trailingComma
        | _ => item.failNext .trailingCharacters
      else start.failNext .trailingCharacters

theorem size_endList_le {cursor behind : Cursor} (found : cursor.endList = .ok behind) :
    behind.size ≤ cursor.size := by
  have spaces := size_skipSpaces_le cursor
  have last := size_skipOne cursor.skipSpaces
  simp only [endList, failHere, failNext] at found
  repeat' split at found
  all_goals first
    | (obtain rfl := Except.ok.inj found
       omega)
    | simp at found

/-- Reads the items of an array of texts up to its closing bracket. -/
def readItems (cursor : Cursor) (isFirst : Bool) : Except Failure (List String × Cursor) :=
  match separated : cursor.nextItem? isFirst with
  | .error failure => .error failure
  | .ok none => .ok ([], cursor)
  | .ok (some item) =>
      match read : item.readText with
      | .error failure => .error failure
      | .ok (text, behind) =>
          have := size_nextItem?_le separated
          have := size_readText_lt read
          (behind.readItems false).map fun (texts, last) => (text :: texts, last)
termination_by cursor.size

theorem size_readItems_le {cursor behind : Cursor} {isFirst : Bool} {texts : List String}
    (found : cursor.readItems isFirst = .ok (texts, behind)) : behind.size ≤ cursor.size := by
  induction cursor, isFirst using readItems.induct generalizing texts with
  | case1 cursor isFirst failure separated =>
      rw [readItems] at found
      split at found <;> simp_all
  | case2 cursor isFirst separated =>
      rw [readItems] at found
      split at found
      · simp_all
      · obtain ⟨-, rfl⟩ := Prod.mk.inj (Except.ok.inj found)
        exact Nat.le_refl _
      · simp_all
  | case3 cursor isFirst item separated failure read =>
      rw [readItems] at found
      split at found
      · simp_all
      · simp_all
      · rename_i other isOther
        obtain rfl : item = other := by simp_all
        split at found <;> simp_all
  | case4 cursor isFirst item separated text next read itemBound textBound hypothesis =>
      rw [readItems] at found
      split at found
      · simp_all
      · simp_all
      · rename_i other isOther
        obtain rfl : item = other := by simp_all
        split at found
        · simp_all
        · rename_i otherText otherNext isRead
          obtain rfl : next = otherNext := by simp_all
          obtain ⟨⟨others, last⟩, inner, equal⟩ := map_eq_ok_iff.mp found
          simp only [Prod.mk.injEq] at equal
          obtain ⟨-, rfl⟩ := equal
          have bound := hypothesis inner
          omega

def readTexts (cursor : Cursor) : Except Failure (List String × Cursor) := do
  let start := cursor.skipSpaces
  match start.rest with
  | '[' :: _ =>
      let (texts, last) ← start.skipOne.readItems true
      let behind ← last.endList
      return (texts, behind)
  | _ => start.wrongType "a sequence"

theorem size_readTexts_le {cursor behind : Cursor} {texts : List String}
    (found : cursor.readTexts = .ok (texts, behind)) : behind.size ≤ cursor.size := by
  have spaces := size_skipSpaces_le cursor
  have opening := size_skipOne cursor.skipSpaces
  simp only [readTexts] at found
  split at found
  · obtain ⟨⟨items, last⟩, read, ended⟩ := bind_eq_ok_iff.mp found
    obtain ⟨next, closed, equal⟩ := bind_eq_ok_iff.mp ended
    simp only [pure, Except.pure, Except.ok.injEq, Prod.mk.injEq] at equal
    obtain ⟨-, rfl⟩ := equal
    have itemsBound := size_readItems_le read
    have closedBound : next.size ≤ last.size := size_endList_le closed
    omega
  · exact absurd found wrongType_ne_ok

def readMember (cursor : Cursor) : MemberKind → Except Failure (MemberValue × Cursor)
  | .text => cursor.readOptionalText.map fun (value, behind) => (.text value, behind)
  | .texts => cursor.readTexts.map fun (values, behind) => (.texts values, behind)

theorem size_readMember_le {cursor behind : Cursor} {kind : MemberKind} {value : MemberValue}
    (found : cursor.readMember kind = .ok (value, behind)) : behind.size ≤ cursor.size := by
  cases kind with
  | text =>
      obtain ⟨⟨text, next⟩, read, equal⟩ := map_eq_ok_iff.mp found
      simp only [Prod.mk.injEq] at equal
      obtain ⟨-, rfl⟩ := equal
      exact size_readOptionalText_le read
  | texts =>
      obtain ⟨⟨texts, next⟩, read, equal⟩ := map_eq_ok_iff.mp found
      simp only [Prod.mk.injEq] at equal
      obtain ⟨-, rfl⟩ := equal
      exact size_readTexts_le read

/-- Reads the members of a document that is given as an array, in the order of
the known members.  Members at the end may be missing. -/
def readInOrder (cursor : Cursor) (isFirst : Bool) :
    List (String × MemberKind) → Except Failure (List (String × MemberValue) × Cursor)
  | [] => .ok ([], cursor)
  | (name, kind) :: members => do
      match ← cursor.nextItem? isFirst with
      | none => return ([], cursor)
      | some item =>
          let (value, behind) ← item.readMember kind
          let (values, last) ← behind.readInOrder false members
          return ((name, value) :: values, last)

/-- Passes the separator before a member of an object.  The answer is the cursor
at the key, or nothing in front of the closing bracket. -/
def nextKey? (cursor : Cursor) (isFirst : Bool) : Except Failure (Option Cursor) :=
  let start := cursor.skipSpaces
  match start.rest with
  | [] => start.failHere (.endOfInput .object)
  | c :: _ =>
      if c = '}' then .ok none
      else if isFirst then
        if c = '"' then .ok (some start) else start.failNext .keyNotString
      else if c = ',' then
        let key := start.skipOne.skipSpaces
        match key.rest with
        | [] => key.failHere (.endOfInput .value)
        | d :: _ =>
            if d = '"' then .ok (some key)
            else if d = '}' then key.failNext .trailingComma
            else key.failNext .keyNotString
      else start.failNext .expectedObjectComma

theorem size_nextKey?_le {cursor key : Cursor} {isFirst : Bool}
    (found : cursor.nextKey? isFirst = .ok (some key)) :
    key.size ≤ cursor.size ∧ 0 < key.size := by
  have spaces := size_skipSpaces_le cursor
  have second := size_skipSpaces_le cursor.skipSpaces.skipOne
  rw [size_skipOne] at second
  simp only [nextKey?, failHere, failNext] at found
  repeat' split at found
  all_goals first
    | (rename_i isRest _ _ _
       obtain rfl := Option.some.inj (Except.ok.inj found)
       refine ⟨by omega, ?_⟩
       simp [size, isRest])
    | (rename_i isRest _
       obtain rfl := Option.some.inj (Except.ok.inj found)
       refine ⟨by omega, ?_⟩
       simp [size, isRest])
    | simp at found

def readColon (cursor : Cursor) : Except Failure Cursor :=
  let start := cursor.skipSpaces
  match start.rest with
  | [] => start.failHere (.endOfInput .object)
  | ':' :: _ => .ok start.skipOne
  | _ :: _ => start.failNext .expectedColon

theorem size_readColon_le {cursor behind : Cursor} (found : cursor.readColon = .ok behind) :
    behind.size ≤ cursor.size := by
  have spaces := size_skipSpaces_le cursor
  have colon := size_skipOne cursor.skipSpaces
  simp only [readColon, failHere, failNext] at found
  repeat' split at found
  all_goals first
    | (obtain rfl := Except.ok.inj found
       omega)
    | simp at found

/-- Fails because a member occurs twice.  The place is behind the second key and
the blanks after it, or behind the end of the object. -/
def failDuplicate {α : Type} (cursor : Cursor) (name : String) : Except Failure α :=
  let start := cursor.skipSpaces
  let behind :=
    match start.rest with
    | '}' :: _ => start.skipOne
    | _ => start
  behind.failHere (.duplicateMember name)

/-- Reads the value behind a key, which is skipped for an unknown member, and
adds it to the members that have been read. -/
def readValueOf (cursor : Cursor) (shape : Shape) (values : List (String × MemberValue))
    (name : String) : Except Failure (List (String × MemberValue) × Cursor) :=
  match shape.members.lookup name with
  | some kind =>
      if (values.lookup name).isSome then cursor.failDuplicate name
      else do
        let start ← cursor.readColon
        let (value, behind) ← start.readMember kind
        return ((name, value) :: values, behind)
  | none => do
      let start ← cursor.readColon
      let behind ← skipValue start
      return (values, behind)

theorem size_readValueOf_le {cursor behind : Cursor} {shape : Shape}
    {values longer : List (String × MemberValue)} {name : String}
    (found : cursor.readValueOf shape values name = .ok (longer, behind)) :
    behind.size ≤ cursor.size := by
  simp only [readValueOf] at found
  split at found
  · rename_i kind _
    split at found
    · simp [failDuplicate, failHere] at found
    · obtain ⟨start, colon, valued⟩ := bind_eq_ok_iff.mp found
      obtain ⟨⟨value, next⟩, read, equal⟩ := bind_eq_ok_iff.mp valued
      simp only [pure, Except.pure, Except.ok.injEq, Prod.mk.injEq] at equal
      obtain ⟨-, rfl⟩ := equal
      exact Nat.le_trans (size_readMember_le read) (size_readColon_le colon)
  · obtain ⟨start, colon, valued⟩ := bind_eq_ok_iff.mp found
    obtain ⟨next, skipped, equal⟩ := bind_eq_ok_iff.mp valued
    simp only [pure, Except.pure, Except.ok.injEq, Prod.mk.injEq] at equal
    obtain ⟨-, rfl⟩ := equal
    exact Nat.le_trans (size_skipValue_le skipped) (size_readColon_le colon)

/-- Reads the members of an object up to its closing bracket. -/
def readMembers (cursor : Cursor) (shape : Shape) (values : List (String × MemberValue))
    (isFirst : Bool) : Except Failure (List (String × MemberValue) × Cursor) :=
  match separated : cursor.nextKey? isFirst with
  | .error failure => .error failure
  | .ok none => .ok (values, cursor.skipSpaces.skipOne)
  | .ok (some key) =>
      match read : readString key with
      | .error failure => .error failure
      | .ok (name, behindKey) =>
          match added : behindKey.readValueOf shape values (String.ofList name) with
          | .error failure => .error failure
          | .ok (longer, behind) =>
              have := size_nextKey?_le separated
              have := size_readString_le read
              have := size_readValueOf_le added
              behind.readMembers shape longer false
termination_by cursor.size

end Cursor

/-- Reads the members of a document at its first character. -/
def Cursor.readDocument (cursor : Cursor) (shape : Shape) :
    Except Failure (List (String × MemberValue) × Cursor) :=
  match cursor.rest with
  | '[' :: _ => do
      let (values, last) ← cursor.skipOne.readInOrder true shape.members
      let behind ← last.endList
      return (values, behind)
  | '{' :: _ => cursor.skipOne.readMembers shape [] true
  | _ => cursor.wrongType shape.title

def readDocument (shape : Shape) (text : String) :
    Except Failure (List (String × MemberValue)) := do
  let (values, behind) ← (Cursor.ofText text).skipSpaces.readDocument shape
  let last := behind.skipSpaces
  if last.rest.isEmpty then return values else last.failNext .trailingCharacters

/-- The text that a member has, if it is given and not null. -/
def textOf (values : List (String × MemberValue)) (name : String) : Option String :=
  match values.lookup name with
  | some (.text value) => value
  | _ => none

/-- The list of texts that a member has, if it is given. -/
def textsOf (values : List (String × MemberValue)) (name : String) : Option (List String) :=
  match values.lookup name with
  | some (.texts values) => some values
  | _ => none

end TableAtlas.Settings
