/-!
# Name prefixes

A project may put a common prefix in front of the names of its objects and
fields.  Names are shown without it, so that a name with the prefix and one
without it denote the same entity.
-/

namespace TableAtlas.Source

/-- The common prefix of a project's names; empty if the project has none. -/
structure NamePrefix where
  letters : List Char
deriving DecidableEq, Repr

namespace NamePrefix

def none : NamePrefix :=
  ⟨[]⟩

def ofOption (given : Option String) : NamePrefix :=
  ⟨(given.getD "").toList⟩

/-- A name without the prefix, which is removed at most once. -/
def strip (common : NamePrefix) (name : List Char) : List Char :=
  if common.letters.isPrefixOf name then name.drop common.letters.length else name

@[simp] theorem strip_none (name : List Char) : none.strip name = name := by
  simp [strip, none]

theorem strip_append (common : NamePrefix) (name : List Char) :
    common.strip (common.letters ++ name) = name := by
  simp [strip]

/-- Strips the prefix from each name in double quotes.  `opened` holds, read
backwards, the part of a quoted name that has been read so far, if any. -/
def stripAfter (common : NamePrefix) (opened : Option (List Char)) :
    List Char → List Char
  | [] =>
      match opened with
      | .none => []
      | some collected => '"' :: collected.reverse
  | c :: rest =>
      match opened with
      | .none =>
          if c = '"' then common.stripAfter (some []) rest
          else c :: common.stripAfter .none rest
      | some [] =>
          if c = '"' then '"' :: common.stripAfter (some []) rest
          else common.stripAfter (some [c]) rest
      | some (last :: earlier) =>
          if c = '"' then
            '"' :: common.strip (last :: earlier).reverse ++
              '"' :: common.stripAfter .none rest
          else common.stripAfter (some (c :: last :: earlier)) rest

/-- An expression with the prefix stripped from each name in double quotes.  A
quote that opens no name, because none is closed or it would be empty, is kept. -/
def stripQuoted (common : NamePrefix) (expression : List Char) : List Char :=
  common.stripAfter .none expression

end NamePrefix

end TableAtlas.Source
