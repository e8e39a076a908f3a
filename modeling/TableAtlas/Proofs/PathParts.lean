import Mathlib.Data.String.Basic
import TableAtlas.Project.Folder

/-!
# Parts of paths

A path is followed by its parts.  They are found by positions in its text, and are the
parts of the list of its characters between the separators.
-/

namespace TableAtlas

open String

section Positions

variable {text : String} {start here : String.Pos.Raw} {found : List String}

theorem splitOnAux_other (more : ¬Pos.Raw.atEnd text here = true)
    (other : Pos.Raw.get text here ≠ '/') :
    text.splitOnAux "/" start here 0 found =
      text.splitOnAux "/" start (Pos.Raw.next text here) 0 found := by
  have separator : Pos.Raw.get "/" 0 = '/' := by decide +kernel
  rw [splitOnAux.eq_def, if_neg more, separator, if_neg (by simpa using other)]
  rfl

theorem splitOnAux_separator (more : ¬Pos.Raw.atEnd text here = true)
    (isSeparator : Pos.Raw.get text here = '/') :
    text.splitOnAux "/" start here 0 found =
      text.splitOnAux "/" (Pos.Raw.next text here) (Pos.Raw.next text here) 0
        (Pos.Raw.extract text start here :: found) := by
  have separator : Pos.Raw.get "/" 0 = '/' := by decide +kernel
  have whole : Pos.Raw.atEnd "/" (Pos.Raw.next "/" 0) = true := by decide +kernel
  have endsInFront : (Pos.Raw.next text here).unoffsetBy (Pos.Raw.next "/" 0) = here := by
    have behind : Pos.Raw.next "/" 0 = ⟨1⟩ := by decide +kernel
    have size : '/'.utf8Size = 1 := by decide +kernel
    rw [behind, Pos.Raw.next, isSeparator]
    simp [Pos.Raw.unoffsetBy, size]
  rw [splitOnAux.eq_def, if_neg more, separator, if_pos (by simpa using isSeparator)]
  simp only [whole, if_true, endsInFront]

end Positions

/-- The search for separators is at the end of `part`, which begins behind `before`. -/
theorem splitOnAux_ofList (before part after : List Char) (found : List String) :
    splitOnAux (ofList (before ++ part ++ after)) "/" ⟨utf8Len before⟩
        ⟨utf8Len before + utf8Len part⟩ 0 found =
      found.reverse ++ (List.splitOnPPrepend (· == '/') after part.reverse).map ofList := by
  induction after generalizing before part found with
  | nil =>
      have atEnd := atEnd_of_valid (before ++ part) []
      have extracted := extract_of_valid before part []
      rw [utf8Len_append] at atEnd
      rw [splitOnAux.eq_def, if_pos (atEnd.mpr rfl), extracted]
      simp
  | cons c after induction =>
      have atEnd := atEnd_of_valid (before ++ part) (c :: after)
      have get := get_of_valid (before ++ part) (c :: after)
      have next := next_of_valid (before ++ part) c after
      have extracted := extract_of_valid before part (c :: after)
      rw [utf8Len_append] at atEnd get next
      have more := mt atEnd.mp (List.cons_ne_nil c after)
      rw [List.splitOnPPrepend_cons_eq_if]
      split
      · rename_i isSeparator
        have later := induction (before ++ part ++ [c]) [] (ofList part :: found)
        rw [splitOnAux_separator more (get.trans (by simpa using isSeparator)), next, extracted]
        simpa [Nat.add_assoc] using later
      · rename_i other
        have later := induction before (part ++ [c]) found
        rw [splitOnAux_other more (by rw [get]; simpa using other), next]
        simpa [Nat.add_assoc] using later

/-- The parts of a path are those of its characters between the separators. -/
theorem splitOn_separator (path : String) :
    path.splitOn "/" = (path.toList.splitOn '/').map ofList := by
  have parts := splitOnAux_ofList [] [] path.toList []
  simp only [List.nil_append, ofList_toList, List.reverse_nil] at parts
  rw [splitOn, if_neg (by decide +kernel)]
  exact parts

theorem splitOn_of_not_mem {name : String} (single : '/' ∉ name.toList) :
    name.splitOn "/" = [name] := by
  rw [splitOn_separator, List.splitOn_eq_singleton single, List.map_singleton, ofList_toList]

end TableAtlas
