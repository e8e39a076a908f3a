import TableAtlas.Decimal.Shortest
import TableAtlas.Encoding.Json
import TableAtlas.Text.DecimalDigit
import TableAtlas.Text.Spacing

/-!
# TOON documents

TOON writes a JSON value with indentation in place of braces.  The members of
an object are sorted by name.  An array of plain values stands on one line, and
an array of objects with the same members and plain values is a table with one
row per object; any other array lists its items behind dashes.
-/

namespace TableAtlas.Toon

open TableAtlas.Text

def insertMember (name : String) (value : Json) : List (String × Json) → List (String × Json)
  | [] => [(name, value)]
  | (other, present) :: rest =>
      if name < other then (name, value) :: (other, present) :: rest
      else (other, present) :: insertMember name value rest

mutual

/-- A value with the members of all its objects sorted by name. -/
def sorted : Json → Json
  | .array items => .array (sortedItems items)
  | .object members => .object (sortedMembers members)
  | .null => .null
  | .bool value => .bool value
  | .number value => .number value
  | .string value => .string value

def sortedItems : List Json → List Json
  | [] => []
  | item :: items => sorted item :: sortedItems items

def sortedMembers : List (String × Json) → List (String × Json)
  | [] => []
  | (name, value) :: members => insertMember name (sorted value) (sortedMembers members)

end

/-- The text behind an optional part of a number, which starts with a character
that `starts` accepts, may go on with one that `sign` accepts, and needs digits. -/
def dropNumberPart (starts sign : Char → Bool) (text : List Char) : List Char :=
  match text with
  | [] => []
  | c :: rest =>
      if starts c then
        let digits :=
          match rest with
          | [] => []
          | first :: others => if sign first then others else first :: others
        match digits with
        | [] => text
        | digit :: _ => if isDecimalDigit digit then digits.dropWhile isDecimalDigit else text
      else text

def looksNumeric (text : List Char) : Bool :=
  let unsigned :=
    match text with
    | '-' :: rest => rest
    | _ => text
  match unsigned with
  | [] => false
  | digit :: rest =>
      isDecimalDigit digit &&
        (dropNumberPart (· == 'e') (fun c => c == '+' || c == '-')
          (dropNumberPart (· == '.') (fun _ => false) (rest.dropWhile isDecimalDigit))).isEmpty

/-- Whether a character is part of the layout itself. -/
def isStructural (c : Char) : Bool :=
  [':', '"', '\\', '[', ']', '{', '}', ',', '\n', '\r', '\t'].contains c

/-- Whether a text has to be written in quotes, because it would not be read
back as the same text without them. -/
def needsQuotes (text : List Char) : Bool :=
  text.isEmpty || trim text != text ||
    ["true".toList, "false".toList, "null".toList].contains text ||
    looksNumeric text || text.any isStructural || ['-', ' '].isPrefixOf text

def escapeChar (c : Char) : List Char :=
  if c = '\\' then ['\\', '\\']
  else if c = '"' then ['\\', '"']
  else if c = '\n' then ['\\', 'n']
  else if c = '\r' then ['\\', 'r']
  else if c = '\t' then ['\\', 't']
  else [c]

/-- A text as it is written, in quotes if it needs them. -/
def writeText (text : String) : String :=
  if needsQuotes text.toList then
    "\"" ++ String.ofList (text.toList.flatMap escapeChar) ++ "\""
  else text

/-- A plain value as it is written; nothing for arrays and objects. -/
def plain? : Json → Option String
  | .null => some "null"
  | .bool true => some "true"
  | .bool false => some "false"
  | .number value => some (toString (Decimal.roundedNat value))
  | .string value => some (writeText value)
  | .array _ => none
  | .object _ => none

/-- The plain values in a list, if there are no others. -/
def plainItems? : List Json → Option (List String)
  | [] => some []
  | item :: items => do
      let first ← plain? item
      let others ← plainItems? items
      return first :: others

/-- The row that an object gives in a table with the given columns. -/
def row? (columns : List String) : Json → Option String
  | .object members =>
      if members.map (·.1) = columns then
        (plainItems? (members.map (·.2))).map (String.intercalate ",")
      else none
  | _ => none

/-- The rows that objects give in a table with the given columns. -/
def rows? (columns : List String) : List Json → Option (List String)
  | [] => some []
  | item :: items => do
      let first ← row? columns item
      let others ← rows? columns items
      return first :: others

/-- The columns and rows of a table for objects of the same members. -/
def table? (items : List Json) : Option (List String × List String) :=
  match items with
  | .object members :: _ =>
      (rows? (members.map (·.1)) items).map fun rows => (members.map (·.1), rows)
  | _ => none

def line (depth : Nat) (text : String) : String :=
  String.ofList (List.replicate (2 * depth) ' ') ++ text

def arrayHead (name : String) (items : List Json) : String :=
  name ++ "[" ++ toString items.length ++ "]"

mutual

/-- The lines of a member, of which the first is not indented and the others
belong to an object at the level `depth`. -/
def memberLines (depth : Nat) (name : String) : Json → String × List String
  | .array items =>
      match items with
      | [] => (arrayHead name [] ++ ":", [])
      | first :: others =>
          match plainItems? (first :: others) with
          | some values =>
              (arrayHead name (first :: others) ++ ": " ++ String.intercalate "," values, [])
          | none =>
              match table? (first :: others) with
              | some (columns, rows) =>
                  (arrayHead name (first :: others) ++ "\x7b" ++ String.intercalate "," columns ++
                    "\x7d:", rows.map (line (depth + 1)))
              | none =>
                  (arrayHead name (first :: others) ++ ":",
                    itemLines (depth + 1) first ++ itemsLines (depth + 1) others)
  | .object members => (name ++ ":", objectLines (depth + 1) members)
  | value => (name ++ ": " ++ (plain? value).getD "", [])

/-- The lines of the members of an object at a level of indentation. -/
def objectLines (depth : Nat) : List (String × Json) → List String
  | [] => []
  | (name, value) :: members =>
      let (first, others) := memberLines depth name value
      line depth first :: (others ++ objectLines depth members)

/-- The lines of an item of a list: the first member of an object stands behind
the dash, and the others are indented below it. -/
def itemLines (depth : Nat) : Json → List String
  | .object [] => [line depth "-"]
  | .object ((name, value) :: members) =>
      let (first, others) := memberLines (depth + 1) name value
      line depth ("- " ++ first) :: (others ++ objectLines (depth + 1) members)
  | .array items => [line depth ("- " ++ arrayHead "" items ++ ":")]
  | value => [line depth ("- " ++ (plain? value).getD "")]

def itemsLines (depth : Nat) : List Json → List String
  | [] => []
  | item :: items => itemLines depth item ++ itemsLines depth items

end

/-- The text of a document: the members of an object, the items of an array, or
a plain value. -/
def text (document : Json) : String :=
  match sorted document with
  | .object members => String.intercalate "\n" (objectLines 0 members)
  | .array items =>
      let (first, others) := memberLines 0 "" (.array items)
      String.intercalate "\n" (first :: others)
  | value => (plain? value).getD ""

end TableAtlas.Toon
