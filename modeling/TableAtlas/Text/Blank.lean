import TableAtlas.Text.CodePoints

/-!
# Blanks

Blanks are the characters with the Unicode property `White_Space`.  They
separate the tokens of a declaration and are trimmed from names and values.
-/

namespace TableAtlas.Text

def blankRanges : List (Nat × Nat) :=
  [
    (0x9, 0xD), (0x20, 0x20), (0x85, 0x85), (0xA0, 0xA0), (0x1680, 0x1680), (0x2000, 0x200A),
    (0x2028, 0x2029), (0x202F, 0x202F), (0x205F, 0x205F), (0x3000, 0x3000)]

def isBlank (c : Char) : Bool :=
  inRanges blankRanges c.toNat

example : (" \n\t\r\u000B\u000C\u0085\u00A0\u3000".toList.all isBlank) = true := by decide

example : isBlank '\u200B' = false ∧ isBlank '\uFEFF' = false := by decide

end TableAtlas.Text
