/-!
# Parts of a text

Whether one text occurs inside another.
-/

namespace TableAtlas.Text

def occursIn (part : List Char) : List Char → Bool
  | [] => part.isEmpty
  | c :: rest => part.isPrefixOf (c :: rest) || occursIn part rest

theorem occursIn_iff {part text : List Char} : occursIn part text = true ↔ part <:+: text := by
  induction text with
  | nil => simp [occursIn]
  | cons c rest hypothesis =>
      simp [occursIn, hypothesis, List.infix_cons_iff]

end TableAtlas.Text
