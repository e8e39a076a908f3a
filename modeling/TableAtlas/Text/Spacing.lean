import TableAtlas.Text.Blank

/-!
# Spacing

Blanks at the ends of a name or value carry no meaning and are trimmed.  Inside
a relation expression each run of blanks, line breaks included, counts as one
space.
-/

namespace TableAtlas.Text

def dropBlanks (text : List Char) : List Char :=
  text.dropWhile isBlank

@[simp] theorem dropBlanks_nil : dropBlanks [] = [] := rfl

theorem dropBlanks_cons (c : Char) (rest : List Char) :
    dropBlanks (c :: rest) = if isBlank c then dropBlanks rest else c :: rest := by
  simp only [dropBlanks, List.dropWhile_cons]

theorem dropBlanks_suffix (text : List Char) : dropBlanks text <:+ text :=
  List.dropWhile_suffix isBlank

def dropFinalBlanks (text : List Char) : List Char :=
  (dropBlanks text.reverse).reverse

def trim (text : List Char) : List Char :=
  dropFinalBlanks (dropBlanks text)

/-- Replaces each run of blanks by one space, except that blanks right after a
blank leave nothing. -/
def joinBlanks (afterBlank : Bool) : List Char → List Char
  | [] => []
  | c :: rest =>
      if isBlank c then
        if afterBlank then joinBlanks true rest else ' ' :: joinBlanks true rest
      else
        c :: joinBlanks false rest

/-- A text with each run of blanks replaced by one space, and none at its ends. -/
def collapseBlanks (text : List Char) : List Char :=
  trim (joinBlanks false text)

end TableAtlas.Text
