/-!
# JSON documents

A JSON document is written with one member or item to a line, indented by two
spaces for each level.  Numbers are natural numbers: nothing else is written.
-/

namespace TableAtlas

/-- A JSON value.  The members of an object are in the order in which they are written. -/
inductive Json where
  | null
  | bool (value : Bool)
  | number (value : Nat)
  | string (value : String)
  | array (items : List Json)
  | object (members : List (String × Json))
deriving Repr

namespace Json

/-- A hexadecimal digit in lowercase. -/
def hexDigit (value : Nat) : Char :=
  if value < 10 then Char.ofNat ('0'.toNat + value) else Char.ofNat ('a'.toNat + value - 10)

def escapeChar (c : Char) : List Char :=
  if c = '"' then ['\\', '"']
  else if c = '\\' then ['\\', '\\']
  else if c = '\n' then ['\\', 'n']
  else if c = '\r' then ['\\', 'r']
  else if c = '\t' then ['\\', 't']
  else if c = '\x08' then ['\\', 'b']
  else if c = '\x0c' then ['\\', 'f']
  else if c.toNat < 32 then
    ['\\', 'u', '0', '0', hexDigit (c.toNat / 16), hexDigit (c.toNat % 16)]
  else [c]

def quote (text : String) : List Char :=
  '"' :: text.toList.flatMap escapeChar ++ ['"']

def newLine (depth : Nat) : List Char :=
  '\n' :: List.replicate (2 * depth) ' '

mutual

/-- A value as it is written at a level of indentation. -/
def write (depth : Nat) : Json → List Char
  | null => ['n', 'u', 'l', 'l']
  | bool true => ['t', 'r', 'u', 'e']
  | bool false => ['f', 'a', 'l', 's', 'e']
  | number value => Nat.toDigits 10 value
  | string value => quote value
  | array [] => ['[', ']']
  | array (item :: items) =>
      '[' :: newLine (depth + 1) ++ write (depth + 1) item ++ writeItems (depth + 1) items ++
        newLine depth ++ [']']
  | object [] => ['{', '}']
  | object ((name, value) :: members) =>
      '{' :: newLine (depth + 1) ++ quote name ++ ':' :: ' ' :: write (depth + 1) value ++
        writeMembers (depth + 1) members ++ newLine depth ++ ['}']

/-- The items of an array behind its first, each behind a comma. -/
def writeItems (depth : Nat) : List Json → List Char
  | [] => []
  | item :: items => ',' :: newLine depth ++ write depth item ++ writeItems depth items

/-- The members of an object behind its first, each behind a comma. -/
def writeMembers (depth : Nat) : List (String × Json) → List Char
  | [] => []
  | (name, value) :: members =>
      ',' :: newLine depth ++ quote name ++ ':' :: ' ' :: write depth value ++
        writeMembers depth members

end

def text (document : Json) : String :=
  String.ofList (write 0 document)

def strings (values : List String) : Json :=
  array (values.map string)

end Json

end TableAtlas
