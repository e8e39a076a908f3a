import TableAtlas.Proofs.BalancedText
import TableAtlas.Proofs.LocalHeads

/-!
# Independence of declarations

The head of a declaration is read alike whatever follows it, and a block with a
balanced body ends at the brace behind the body.  So a complete declaration
yields one object, and the text behind it is searched as if it stood alone.
-/

namespace TableAtlas

open TableAtlas.Text TableAtlas.Source

theorem Text.firstMatch_start {α : Type} {recognise : List Char → Option α} {text : List Char}
    {found : α} (matched : firstMatch recognise false text = some ([], found)) :
    startsWord text = true ∧ recognise text = some found := by
  obtain ⟨place, whole, recognised⟩ := firstMatch_eq_some matched
  refine ⟨?_, whole.symm ▸ recognised⟩
  cases isWord : startsWord text with
  | true => rfl
  | false =>
      have noBoundary : recognisedAt recognise false text = none := by
        simp [recognisedAt, atBoundary, isWord]
      cases text <;> simp [firstMatch, noBoundary] at matched

namespace Source.TableDeclaration

variable {header body : List Char} {head : TableDeclaration}

theorem read_append (isHead : readHead header = some (head, [])) (balanced : Balanced body)
    (rest : List Char) :
    read (header ++ (body ++ '}' :: rest)) = some (head.withBody body, rest) := by
  rw [read_eq, readHead_isLocal.append isHead, List.nil_append]
  simp only [Option.map_some, balanced.splitBlock_append]

/-- A complete declaration is listed, and the search starts anew behind it. -/
theorem all_append (isHead : firstMatch readHead false header = some ([], head, []))
    (balanced : Balanced body) (rest : List Char) :
    recogniser.all (header ++ (body ++ '}' :: rest)) =
      head.withBody body :: recogniser.all rest := by
  obtain ⟨isWord, recognised⟩ := firstMatch_start isHead
  have declared : recogniser.recognise (header ++ (body ++ '}' :: rest)) = _ :=
    read_append recognised balanced rest
  cases header with
  | nil => simp [startsWord] at isWord
  | cons c header => exact recogniser.all_of_some (firstMatch_of_recognised isWord declared)

end Source.TableDeclaration

namespace TableObject

variable {header body : String} {head : TableDeclaration}

/-- A complete declaration declares one object; the other objects of the text are
those of the text behind it. -/
theorem allIn_declaration (common : NamePrefix) (file rest : String)
    (isHead : firstMatch TableDeclaration.readHead false header.toList = some ([], head, []))
    (balanced : Balanced body.toList) :
    allIn common file (header ++ body ++ "\x7d" ++ rest) =
      (ofDeclaration common file (head.withBody body.toList)).linkFields common ::
        allIn common file rest := by
  have characters : (header ++ body ++ "\x7d" ++ rest).toList =
      header.toList ++ (body.toList ++ '}' :: rest.toList) := by
    simp
  rw [allIn, characters, TableDeclaration.all_append isHead balanced, List.map_cons, allIn]

theorem allIn_empty (common : NamePrefix) (file : String) : allIn common file "" = [] := by
  have unmatched : firstMatch TableDeclaration.recogniser.recognise false "".toList = none :=
    firstMatch_nil _
  rw [allIn, TableDeclaration.recogniser.all_of_none unmatched, List.map_nil]

/-- The declarations of a file are independent: a complete declaration, whatever
its body contains, declares one object, and the text behind it is read as a file
of its own. -/
theorem allIn_append (common : NamePrefix) (file rest : String)
    (isHead : firstMatch TableDeclaration.readHead false header.toList = some ([], head, []))
    (balanced : Balanced body.toList) :
    allIn common file (header ++ body ++ "\x7d" ++ rest) =
        allIn common file (header ++ body ++ "\x7d") ++ allIn common file rest ∧
      (allIn common file (header ++ body ++ "\x7d")).length = 1 := by
  have alone : allIn common file (header ++ body ++ "\x7d") =
      [(ofDeclaration common file (head.withBody body.toList)).linkFields common] := by
    have whole := allIn_declaration common file "" isHead balanced
    rwa [String.append_empty, allIn_empty] at whole
  rw [allIn_declaration common file rest isHead balanced, alone]
  exact ⟨rfl, rfl⟩

/-- A head whose name runs into the keyword behind it. -/
def salesHeader : String :=
  "table 7 Salesextends Base \x7b"

/-- A body with further heads, in the open and in a comment. -/
def salesBody : String :=
  "table 8 A \x7b '\x7d' // table 9 B \x7b\n \x7d"

theorem allIn_append_sales :
    allIn .none "sales.al" (salesHeader ++ salesBody ++ "\x7d" ++ "table 10 C \x7b field(1; X") =
        allIn .none "sales.al" (salesHeader ++ salesBody ++ "\x7d") ++
          allIn .none "sales.al" "table 10 C \x7b field(1; X" ∧
      (allIn .none "sales.al" (salesHeader ++ salesBody ++ "\x7d")).length = 1 := by
  have isHead : firstMatch TableDeclaration.readHead false salesHeader.toList =
      some ([], ⟨"table".toList, "7".toList, "Sales".toList, "Base".toList, []⟩, []) := by
    decide +kernel
  have inner : Balanced (" '\x7d' // table 9 B \x7b\n ").toList :=
    .plain (by decide) (@Balanced.string _ ['}'] _ (.inl rfl) (by decide)
      (.plain (by decide) (@Balanced.comment (" table 9 B \x7b").toList _ (by decide) .space)))
  have balanced : Balanced salesBody.toList :=
    @Balanced.plain_append "table 8 A ".toList _ (by decide) (.block inner .nil)
  exact allIn_append .none "sales.al" "table 10 C \x7b field(1; X" isHead balanced

end TableObject

end TableAtlas
