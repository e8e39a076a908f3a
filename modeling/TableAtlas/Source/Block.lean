import TableAtlas.Text.Spacing

/-!
# Blocks

The body of a declaration stands between braces.  Braces inside a string or
behind `//` on a line do not count, and inner braces nest.  `closeBlock` finds
the brace that closes a block whose opening brace has already been read, and
`splitBlock` gives a block that is never closed the whole rest of the text.
-/

namespace TableAtlas.Source

open TableAtlas.Text

/-- What a character stands in: program text, possibly right after a slash, a
string opened by a given quote, or a comment up to the end of the line. -/
inductive Context where
  | code
  | slash
  | string (quote : Char)
  | comment
deriving DecidableEq, Repr

namespace Context

def countsBraces : Context → Bool
  | code => true
  | slash => true
  | string _ => false
  | comment => false

/-- The context behind a character of program text that does not continue a slash. -/
def afterCode (c : Char) : Context :=
  if c = '\'' ∨ c = '"' then string c
  else if c = '/' then slash
  else code

def next : Context → Char → Context
  | code, c => afterCode c
  | slash, c => if c = '/' then comment else afterCode c
  | string quote, c => if c = quote then code else string quote
  | comment, c => if c = '\n' then code else comment

end Context

/-- Splits a text at the brace that closes a block with `depth` inner blocks
still open: the body before the brace and the text behind it. -/
def closeBlock (context : Context) (depth : Nat) :
    List Char → Option (List Char × List Char)
  | [] => none
  | c :: rest =>
      let extend (inner : Nat) : Option (List Char × List Char) :=
        (closeBlock (context.next c) inner rest).map fun (body, after) => (c :: body, after)
      if context.countsBraces then
        if c = '{' then extend (depth + 1)
        else if c = '}' then
          match depth with
          | 0 => some ([], rest)
          | inner + 1 => extend inner
        else extend depth
      else extend depth

theorem closeBlock_eq_append {context : Context} {depth : Nat} {text body after : List Char}
    (closed : closeBlock context depth text = some (body, after)) :
    text = body ++ '}' :: after := by
  induction text generalizing context depth body with
  | nil => simp [closeBlock] at closed
  | cons c rest hypothesis =>
      have step : ∀ {inner : Nat},
          ((closeBlock (context.next c) inner rest).map fun (body, after) => (c :: body, after)) =
            some (body, after) → c :: rest = body ++ '}' :: after := by
        intro inner extended
        obtain ⟨⟨tail, remaining⟩, found, equal⟩ := Option.map_eq_some_iff.mp extended
        simp only [Prod.mk.injEq] at equal
        obtain ⟨rfl, rfl⟩ := equal
        rw [hypothesis found, List.cons_append]
      simp only [closeBlock] at closed
      split at closed
      · split at closed
        · exact step closed
        · split at closed
          · rename_i isBrace
            split at closed
            · simp only [Option.some.injEq, Prod.mk.injEq] at closed
              obtain ⟨rfl, rfl⟩ := closed
              rw [isBrace, List.nil_append]
            · exact step closed
          · exact step closed
      · exact step closed

/-- The body of a block whose opening brace has just been read, and the text
behind its closing brace.  A block that is not closed takes the whole text. -/
def splitBlock (text : List Char) : List Char × List Char :=
  (closeBlock .code 0 text).getD (text, [])

theorem splitBlock_suffix (text : List Char) : (splitBlock text).2 <:+ text := by
  unfold splitBlock
  cases closed : closeBlock .code 0 text with
  | none => exact List.nil_suffix
  | some found =>
      obtain ⟨body, after⟩ := found
      refine ⟨body ++ ['}'], ?_⟩
      simp [closeBlock_eq_append closed]

/-- The block that directly follows a declaration, blanks aside, and the text
behind it.  Without one the block is empty and nothing is skipped. -/
def trailingBlock (text : List Char) : List Char × List Char :=
  match dropBlanks text with
  | '{' :: inside => splitBlock inside
  | _ => ([], text)

theorem trailingBlock_suffix (text : List Char) : (trailingBlock text).2 <:+ text := by
  unfold trailingBlock
  split
  · rename_i inside opened
    have outside : '{' :: inside <:+ text := opened ▸ dropBlanks_suffix text
    exact (splitBlock_suffix inside).trans ((List.suffix_cons _ _).trans outside)
  · exact List.suffix_rfl

/-- The block that starts at a byte offset of a text.  It is empty when the
offset lies beyond the text or inside a character. -/
def blockFrom (offset : Nat) : List Char → List Char
  | [] => []
  | c :: rest =>
      if offset = 0 then (splitBlock (c :: rest)).1
      else if offset < c.utf8Size then []
      else blockFrom (offset - c.utf8Size) rest

end TableAtlas.Source
