import TableAtlas.Proofs.SpacedDeclarations
import TableAtlas.Proofs.TargetResolution

/-!
# Kinds of declared objects

The head of an object names its kind by its keyword, and either keyword lets a
clause `extends` follow the name.  Keywords are recognised in any letter case,
for which a long s is the letter s, but an extension is told by its ASCII
letters.  So a table may extend something, and what is declared as an extension
may count as a table; otherwise only extensions extend.
-/

namespace TableAtlas

namespace Source

open TableAtlas.Text

/-! ## Heads as they are written -/

/-- A word spelled in any letter case. -/
def IsSpelling (word spelled : List Char) : Prop :=
  List.Forall₂ (fun letter c => sameLetter letter c = true) word spelled

/-- A name in the head of an object: in double quotes, or bare. -/
inductive WritesName : List Char → List Char → Prop where
  | quoted {name : List Char} : name ≠ [] → '"' ∉ name → WritesName name (quotedName name)
  | bare {first : Char} {others : List Char} :
      startsBareName first = true → (∀ c ∈ first :: others, isWordChar c = true) →
      WritesName (first :: others) (first :: others)

/-- What stands between the name of an object and its body: the opening brace, and
the name of an extended table before it if there is one. -/
inductive WritesBase : List Char → List Char → Prop where
  | none (gap : Blanks) : WritesBase [] (gap.text ++ ['{'])
  | extending {spelled base written : List Char} (gap behindKeyword behindName : Blanks) :
      IsSpelling extendsKeyword spelled → behindKeyword.text ≠ [] → WritesName base written →
      WritesBase base (gap.text ++ (spelled ++ (behindKeyword.text ++
        (written ++ (behindName.text ++ ['{'])))))

/-- The head of a declaration whose keyword is that of a kind, in any letter case. -/
inductive WritesHead (kind : ObjectKind) : TableDeclaration → List Char → Prop where
  | intro {keyword number name base body written behind : List Char}
      (behindKeyword behindNumber : Blanks) :
      IsSpelling kind.keyword.toList keyword → behindKeyword.text ≠ [] →
      number ≠ [] → (∀ c ∈ number, isDecimalDigit c = true) → behindNumber.text ≠ [] →
      WritesName name written → WritesBase base behind →
      WritesHead kind ⟨keyword, number, name, base, body⟩
        (keyword ++ (behindKeyword.text ++ (number ++ (behindNumber.text ++
          (written ++ behind)))))

/-! ## Reading heads -/

section Reading

variable {text rest : List Char}

theorem isSpelling_of_readKeyword {word spelled : List Char}
    (read : readKeyword word text = some (spelled, rest)) : IsSpelling word spelled := by
  induction word generalizing text spelled with
  | nil =>
      simp only [readKeyword, Option.some.injEq, Prod.mk.injEq] at read
      obtain ⟨rfl, -⟩ := read
      exact .nil
  | cons letter letters induction =>
      obtain ⟨c, left, -, same, tail, rfl, inner⟩ := sameLetter_of_readKeyword read
      exact .cons same (induction inner)

theorem splitBlock_prefix (text : List Char) : (splitBlock text).1 <+: text := by
  unfold splitBlock
  cases closed : closeBlock .code 0 text with
  | none => exact List.prefix_rfl
  | some found =>
      obtain ⟨body, after⟩ := found
      exact ⟨'}' :: after, (closeBlock_eq_append closed).symm⟩

theorem exists_blanks_append (text : List Char) :
    ∃ gap : Blanks, text = gap.text ++ dropBlanks text :=
  ⟨⟨text.takeWhile isBlank, List.all_eq_true.mp List.all_takeWhile⟩,
    (List.takeWhile_append_dropWhile).symm⟩

theorem exists_blanks_of_readBlanks (read : readBlanks text = some rest) :
    ∃ gap : Blanks, gap.text ≠ [] ∧ text = gap.text ++ rest := by
  obtain ⟨behind, blank, left, rfl, blankStarts⟩ := dropBlanks_of_readBlanks read
  obtain ⟨gap, whole⟩ := exists_blanks_append left
  have areBlank : ∀ c ∈ blank :: gap.text, isBlank c = true :=
    List.forall_mem_cons.mpr ⟨blankStarts, gap.areBlank⟩
  refine ⟨⟨blank :: gap.text, areBlank⟩, List.cons_ne_nil blank gap.text, ?_⟩
  rw [dropBlanks_cons, if_pos blankStarts] at behind
  rw [behind] at whole
  rw [whole, List.cons_append]

theorem areDigits_of_readDigits {digits : List Char}
    (read : readDigits text = some (digits, rest)) :
    digits ≠ [] ∧ ∀ c ∈ digits, isDecimalDigit c = true := by
  unfold readDigits at read
  split at read
  · exact absurd read (by simp)
  · rename_i first others taken
    simp only [Option.some.injEq, Prod.mk.injEq] at read
    obtain ⟨rfl, -⟩ := read
    refine ⟨List.cons_ne_nil first others, ?_⟩
    rw [← taken]
    exact List.all_eq_true.mp List.all_takeWhile

theorem exists_blanks_of_readOpening (read : readOpening text = some rest) :
    ∃ gap : Blanks, text = gap.text ++ '{' :: rest := by
  obtain ⟨gap, whole⟩ := exists_blanks_append text
  rw [readOpening, readChar_eq_some_iff] at read
  exact ⟨gap, read ▸ whole⟩

theorem writesName_of_readObjectName {α : Type} {goOn : List Char → Option α} {name : List Char}
    {found : α} (read : readObjectName goOn text = some (name, found)) :
    ∃ written place, WritesName name written ∧ text = written ++ place ∧
      goOn place = some found := by
  unfold readObjectName at read
  split at read
  · rename_i quoted place isQuoted
    simp only [Option.map_eq_some_iff, Prod.mk.injEq] at read
    obtain ⟨_, recognised, rfl, rfl⟩ := read
    obtain ⟨whole, unquoted, nonempty⟩ := readQuotedName_eq_some_iff.mp isQuoted
    exact ⟨quotedName quoted, place, .quoted nonempty unquoted, by simp [whole, quotedName],
      recognised⟩
  · split at read
    · exact absurd read (by simp)
    · rename_i c left _
      split at read
      · rename_i starts
        obtain ⟨nonempty, isWord⟩ := isWordChar_of_readLongest read
        obtain ⟨place, whole, recognised⟩ := readLongest_eq_some read
        refine ⟨name, place, ?_, whole, recognised⟩
        cases name with
        | nil => exact absurd rfl nonempty
        | cons first others =>
            obtain ⟨rfl, -⟩ := List.cons.inj whole
            exact .bare starts isWord
      · exact absurd read (by simp)

theorem writesBase_of_readBase {base : List Char} (read : readBase text = some (base, rest)) :
    ∃ behind, WritesBase base behind ∧ text = behind ++ rest := by
  unfold readBase at read
  split at read
  · rename_i inside opening
    simp only [Option.some.injEq, Prod.mk.injEq] at read
    obtain ⟨rfl, rfl⟩ := read
    obtain ⟨gap, whole⟩ := exists_blanks_of_readOpening opening
    exact ⟨_, .none gap, by simp [whole]⟩
  · simp only [Option.bind_eq_bind, Option.bind_eq_some_iff, Prod.exists] at read
    obtain ⟨spelled, left, keyword, named, blanks, isName⟩ := read
    obtain ⟨gap, whole⟩ := exists_blanks_append text
    obtain ⟨behindKeyword, separated, leftIs⟩ := exists_blanks_of_readBlanks blanks
    obtain ⟨written, place, writes, namedIs, opening⟩ := writesName_of_readObjectName isName
    obtain ⟨behindName, placeIs⟩ := exists_blanks_of_readOpening opening
    refine ⟨_, .extending gap behindKeyword behindName (isSpelling_of_readKeyword keyword)
      separated writes, ?_⟩
    rw [(readKeyword_eq_append keyword).1, leftIs, namedIs, placeIs] at whole
    simpa using whole

theorem isSpelling_of_readObjectKeyword {keyword : List Char}
    (read : TableDeclaration.readObjectKeyword text = some (keyword, rest)) :
    ∃ kind : ObjectKind, IsSpelling kind.keyword.toList keyword ∧
      ∃ gap : Blanks, gap.text ≠ [] ∧ text = keyword ++ (gap.text ++ rest) := by
  simp only [TableDeclaration.readObjectKeyword, Option.bind_eq_bind, Option.bind_eq_some_iff,
    Prod.exists] at read
  obtain ⟨table, afterTable, isTable, result⟩ := read
  have spellsTable := isSpelling_of_readKeyword isTable
  have whole := (readKeyword_eq_append isTable).1
  split at result
  · rename_i left blanks
    simp only [Option.pure_def, Option.some.injEq, Prod.mk.injEq] at result
    obtain ⟨rfl, rfl⟩ := result
    obtain ⟨gap, separated, afterIs⟩ := exists_blanks_of_readBlanks blanks
    exact ⟨.table, spellsTable, gap, separated, afterIs ▸ whole⟩
  · simp only [Option.bind_eq_some_iff, Prod.exists, Option.pure_def, Option.some.injEq,
      Prod.mk.injEq] at result
    obtain ⟨extension, afterExtension, isExtension, left, blanks, rfl, rfl⟩ := result
    obtain ⟨gap, separated, afterIs⟩ := exists_blanks_of_readBlanks blanks
    refine ⟨.tableExtension, ?_, gap, separated, ?_⟩
    · exact List.rel_append spellsTable (isSpelling_of_readKeyword isExtension)
    · rw [whole, (readKeyword_eq_append isExtension).1, afterIs, List.append_assoc]

namespace TableDeclaration

variable {declaration : TableDeclaration}

/-- What is read is the head of a declaration and its body. -/
theorem writesHead_of_read (found : read text = some (declaration, rest)) :
    ∃ kind head, WritesHead kind declaration head ∧
      head ++ declaration.body <+: text ∧ rest <:+ text := by
  simp only [read, Option.bind_eq_bind, Option.bind_eq_some_iff, Prod.exists] at found
  obtain ⟨keyword, afterKeyword, isKeyword, number, afterNumber, digits, separated, blanks,
    name, base, inside, named, result⟩ := found
  simp only [Option.pure_def, Option.some.injEq, Prod.mk.injEq] at result
  obtain ⟨rfl, rfl⟩ := result
  obtain ⟨kind, spells, behindKeyword, nonempty, whole⟩ := isSpelling_of_readObjectKeyword isKeyword
  obtain ⟨behindNumber, someBehind, afterIs⟩ := exists_blanks_of_readBlanks blanks
  obtain ⟨written, place, writesName, nameIs, based⟩ := writesName_of_readObjectName named
  obtain ⟨behind, writesBase, baseIs⟩ := writesBase_of_readBase based
  obtain ⟨numberNonempty, areDigits⟩ := areDigits_of_readDigits digits
  rw [readDigits_eq_append digits, afterIs, nameIs, baseIs] at whole
  refine ⟨kind, _, .intro behindKeyword behindNumber spells nonempty numberNonempty areDigits
    someBehind writesName writesBase, ?_, ?_⟩
  · obtain ⟨behindBody, isBody⟩ := splitBlock_prefix inside
    refine ⟨behindBody, ?_⟩
    simp only [whole, List.append_assoc, isBody]
  · have behindHead : inside <:+ text :=
      ⟨keyword ++ (behindKeyword.text ++ (number ++ (behindNumber.text ++ (written ++ behind)))),
        by simp only [whole, List.append_assoc]⟩
    exact (splitBlock_suffix inside).trans behindHead

end TableDeclaration

end Reading

/-! ## Letters of keywords -/

section Keywords

variable {word spelled : List Char}

/-- A letter of a keyword is spelled in ASCII, or it is an s and spelled as a long s. -/
theorem toLower_eq_of_sameLetter {letter c : Char}
    (ofKeyword : letter ∈ ObjectKind.tableExtension.keyword.toList)
    (same : sameLetter letter c = true) : c.toLower = letter ∨ letter = 's' ∧ c = 'ſ' := by
  have checked : (ObjectKind.tableExtension.keyword.toList.all fun letter =>
      foldCase letter == letter && letter.isAlpha && letter != 'k') = true := by decide
  have ofLetter := List.all_eq_true.mp checked letter ofKeyword
  simp only [Bool.and_eq_true, beq_iff_eq, bne_iff_ne] at ofLetter
  obtain ⟨⟨folded, isLetter⟩, notKelvin⟩ := ofLetter
  have isFolded : foldCase c = letter := by
    rw [← folded]
    exact (beq_iff_eq.mp same).symm
  rcases isAlpha_of_isAlpha_foldCase (isFolded ▸ isLetter) with ofAscii | rfl | rfl
  · left
    rwa [foldCase, if_pos (toNat_lt_of_isAlpha ofAscii)] at isFolded
  · have longS : foldCase 'ſ' = 's' := by decide
    exact .inr ⟨isFolded.symm.trans longS, rfl⟩
  · have kelvin : foldCase '\u212A' = 'k' := by decide
    exact absurd (isFolded.symm.trans kelvin) notKelvin

theorem exists_letter_of_mem (spells : IsSpelling word spelled) {c : Char}
    (member : c ∈ spelled) : ∃ letter ∈ word, sameLetter letter c = true := by
  induction spells with
  | nil => simp at member
  | @cons letter first letters others same spells induction =>
      rcases List.mem_cons.mp member with rfl | later
      · exact ⟨letter, List.mem_cons_self .., same⟩
      · obtain ⟨found, foundMember, sameFound⟩ := induction later
        exact ⟨found, List.mem_cons_of_mem letter foundMember, sameFound⟩

/-- A spelling of the keyword of an extension is in ASCII letters unless it has a long s. -/
theorem map_toLower_eq_iff
    (ofKeyword : ∀ letter ∈ word, letter ∈ ObjectKind.tableExtension.keyword.toList)
    (spells : IsSpelling word spelled) : spelled.map Char.toLower = word ↔ 'ſ' ∉ spelled := by
  induction spells with
  | nil => simp
  | @cons letter c letters others same spells induction =>
      have isLetter := ofKeyword letter (List.mem_cons_self ..)
      have inAscii : c.toLower = letter ↔ 'ſ' ≠ c := by
        constructor
        · rintro lowered rfl
          rw [← lowered] at isLetter
          exact absurd isLetter (by decide)
        · intro notLong
          rcases toLower_eq_of_sameLetter isLetter same with lowered | ⟨-, isLong⟩
          · exact lowered
          · exact absurd isLong.symm notLong
      rw [List.map_cons, List.cons.injEq, List.mem_cons, not_or, inAscii,
        induction fun other member => ofKeyword other (List.mem_cons_of_mem letter member)]

theorem longS_not_mem_of_table (spells : IsSpelling ObjectKind.table.keyword.toList spelled) :
    'ſ' ∉ spelled := by
  intro member
  obtain ⟨letter, ofKeyword, same⟩ := exists_letter_of_mem spells member
  have different : (ObjectKind.table.keyword.toList.all fun letter =>
      !sameLetter letter 'ſ') = true := by decide
  have notSame := List.all_eq_true.mp different letter ofKeyword
  rw [same] at notSame
  exact absurd notSame (by decide)

end Keywords

namespace TableDeclaration

variable {declaration : TableDeclaration}

theorem kind_of_table
    (spells : IsSpelling ObjectKind.table.keyword.toList declaration.keyword) :
    declaration.kind = .table := by
  apply if_neg
  intro spelled
  have lengths := congrArg List.length spelled
  rw [List.length_map, ← spells.length_eq] at lengths
  exact absurd lengths (by decide)

theorem kind_of_tableExtension
    (spells : IsSpelling ObjectKind.tableExtension.keyword.toList declaration.keyword) :
    declaration.kind = .tableExtension ↔ 'ſ' ∉ declaration.keyword := by
  rw [← map_toLower_eq_iff (fun _ => id) spells, kind]
  split
  · rename_i spelled
    exact iff_of_true rfl spelled
  · rename_i notSpelled
    exact iff_of_false (by decide) notSpelled

theorem isSpelling_of_writesHead {kind : ObjectKind} {head : List Char}
    (writes : WritesHead kind declaration head) :
    IsSpelling kind.keyword.toList declaration.keyword := by
  cases writes
  assumption

end TableDeclaration

theorem NamePrefix.strip_eq_nil_iff {common : NamePrefix} {name : List Char} :
    common.strip name = [] ↔ name = [] ∨ name = common.letters := by
  constructor
  · intro nothing
    by_cases isPrefix : common.letters <+: name
    · have whole := strip_prefixed isPrefix
      rw [nothing, List.append_nil] at whole
      exact .inr whole.symm
    · rw [strip_unprefixed isPrefix] at nothing
      exact .inl nothing
  · rintro (rfl | rfl)
    · exact strip_nil
    · simpa using strip_append common []

end Source

namespace Text.Recogniser

theorem exists_place_of_mem_all {α : Type} (recogniser : Recogniser α)
    (suffix : ∀ {text rest : List Char} {found : α},
      recogniser.recognise text = some (found, rest) → rest <:+ text)
    {text : List Char} {value : α} (member : value ∈ recogniser.all text) :
    ∃ place rest, place <:+ text ∧ recogniser.recognise place = some (value, rest) := by
  induction size : text.length using Nat.strongRecOn generalizing text with
  | _ size induction =>
      subst size
      cases matched : firstMatch recogniser.recognise false text with
      | none =>
          rw [recogniser.all_of_none matched] at member
          simp at member
      | some found =>
          obtain ⟨skipped, first, rest⟩ := found
          obtain ⟨place, rfl, recognised⟩ := firstMatch_eq_some matched
          rw [recogniser.all_of_some matched] at member
          rcases List.mem_cons.mp member with rfl | later
          · exact ⟨place, rest, List.suffix_append skipped place, recognised⟩
          · obtain ⟨laterPlace, laterRest, isSuffix, laterRecognised⟩ :=
              induction _ (recogniser.length_rest_lt matched) later rfl
            refine ⟨laterPlace, laterRest, ?_, laterRecognised⟩
            exact isSuffix.trans ((suffix recognised).trans (List.suffix_append skipped place))

end Text.Recogniser

namespace TableObject

open TableAtlas.Text TableAtlas.Source

/-- Whether the objects of a text are what they are declared as: a table extends
nothing, and what is declared as an extension is one. -/
structure KeepsKinds (common : NamePrefix) (file text : String) : Prop where
  tablesExtendNothing : ∀ object ∈ allIn common file text,
    object.isTable = true → object.base = ""
  extensionsAreExtensions : ∀ declaration ∈ TableDeclaration.recogniser.all text.toList,
    IsSpelling ObjectKind.tableExtension.keyword.toList declaration.keyword →
      ((ofDeclaration common file declaration).linkFields common).isExtension = true

theorem base_linkFields_eq_empty_iff {common : NamePrefix} {file : String}
    {declaration : TableDeclaration} :
    ((ofDeclaration common file declaration).linkFields common).base = "" ↔
      declaration.base = [] ∨ declaration.base = common.letters := by
  rw [← NamePrefix.strip_eq_nil_iff, linkFields, ofDeclaration]
  exact String.ofList_eq_empty_iff

theorem isExtension_linkFields_iff {common : NamePrefix} {file : String}
    {declaration : TableDeclaration} :
    ((ofDeclaration common file declaration).linkFields common).isExtension = true ↔
      declaration.kind = .tableExtension :=
  decide_eq_true_iff

theorem exists_head_of_mem_all {text : List Char} {declaration : TableDeclaration}
    (member : declaration ∈ TableDeclaration.recogniser.all text) :
    ∃ kind head, WritesHead kind declaration head ∧ head ++ declaration.body <:+: text := by
  obtain ⟨place, rest, isSuffix, recognised⟩ :=
    TableDeclaration.recogniser.exists_place_of_mem_all (fun found => by
      obtain ⟨_, _, -, -, behind⟩ := TableDeclaration.writesHead_of_read found
      exact behind) member
  obtain ⟨kind, head, writes, inFront, -⟩ := TableDeclaration.writesHead_of_read recognised
  exact ⟨kind, head, writes, inFront.isInfix.trans isSuffix.isInfix⟩

/-- A head of an extension makes its object one unless the keyword has a long s. -/
theorem isExtension_iff_of_writesHead {common : NamePrefix} {file : String} {kind : ObjectKind}
    {declaration : TableDeclaration} {head : List Char}
    (writes : WritesHead kind declaration head) :
    ((ofDeclaration common file declaration).linkFields common).isExtension = true ↔
      kind = .tableExtension ∧ 'ſ' ∉ declaration.keyword := by
  rw [isExtension_linkFields_iff]
  have spells := TableDeclaration.isSpelling_of_writesHead writes
  cases kind with
  | table => simp [TableDeclaration.kind_of_table spells]
  | tableExtension => simp [TableDeclaration.kind_of_tableExtension spells]

/-- Each declaration has a head in the text, and its object is an extension exactly if
its keyword is that of an extension without a long s.  The objects are what they are
declared as if and only if no keyword has a long s and no table has a clause
`extends`, unless that names the prefix itself. -/
theorem keepsKinds_iff (common : NamePrefix) (file text : String) :
    (∀ declaration ∈ TableDeclaration.recogniser.all text.toList,
      ∃ kind head, WritesHead kind declaration head ∧
        head ++ declaration.body <:+: text.toList ∧
        (((ofDeclaration common file declaration).linkFields common).isExtension = true ↔
          kind = .tableExtension ∧ 'ſ' ∉ declaration.keyword)) ∧
      (KeepsKinds common file text ↔
        ∀ declaration ∈ TableDeclaration.recogniser.all text.toList,
          'ſ' ∉ declaration.keyword ∧
            (IsSpelling ObjectKind.table.keyword.toList declaration.keyword →
              declaration.base = [] ∨ declaration.base = common.letters)) := by
  constructor
  · intro declaration member
    obtain ⟨kind, head, writes, inText⟩ := exists_head_of_mem_all member
    exact ⟨kind, head, writes, inText, isExtension_iff_of_writesHead writes⟩
  constructor
  · rintro ⟨tablesExtendNothing, extensionsAreExtensions⟩ declaration member
    constructor
    · obtain ⟨kind, head, writes, -⟩ := exists_head_of_mem_all member
      have spells := TableDeclaration.isSpelling_of_writesHead writes
      cases kind with
      | table => exact longS_not_mem_of_table spells
      | tableExtension =>
          have isExtension := extensionsAreExtensions declaration member spells
          exact ((isExtension_iff_of_writesHead writes).mp isExtension).2
    · intro spells
      have noBase : ((ofDeclaration common file declaration).linkFields common).base = "" := by
        apply tablesExtendNothing _ (List.mem_map_of_mem member)
        exact decide_eq_true (TableDeclaration.kind_of_table spells)
      exact base_linkFields_eq_empty_iff.mp noBase
  · intro plain
    constructor
    · intro object objectMember isTable
      obtain ⟨declaration, member, rfl⟩ := List.mem_map.mp objectMember
      obtain ⟨notLong, extendsNothing⟩ := plain declaration member
      obtain ⟨kind, head, writes, -⟩ := exists_head_of_mem_all member
      have spells := TableDeclaration.isSpelling_of_writesHead writes
      cases kind with
      | table => exact base_linkFields_eq_empty_iff.mpr (extendsNothing spells)
      | tableExtension =>
          have isExtension :
              ((ofDeclaration common file declaration).linkFields common).isExtension = true :=
            (isExtension_iff_of_writesHead writes).mpr ⟨rfl, notLong⟩
          rw [isTable_of_isExtension isExtension] at isTable
          exact absurd isTable (by decide)
    · intro declaration member spells
      apply isExtension_linkFields_iff.mpr
      exact (TableDeclaration.kind_of_tableExtension spells).mpr (plain declaration member).1

/-- A table with a clause `extends`. -/
def extendingTable : String :=
  "table 1 A extends B \x7b \x7d"

/-- An extension whose keyword has a long s. -/
def longExtension : String :=
  "tableextenſion 1 A extends B \x7b \x7d"

theorem not_keepsKinds :
    ¬KeepsKinds .none "a.al" extendingTable ∧ ¬KeepsKinds .none "a.al" longExtension := by
  constructor
  · intro keeps
    have extending : ∃ object ∈ allIn .none "a.al" extendingTable,
        object.isTable = true ∧ object.base = "B" := by decide +kernel
    obtain ⟨object, member, isTable, base⟩ := extending
    have empty := keeps.tablesExtendNothing object member isTable
    rw [base] at empty
    exact absurd empty (by decide)
  · intro keeps
    have declared : ∃ declaration ∈ TableDeclaration.recogniser.all longExtension.toList,
        declaration.keyword = "tableextenſion".toList := by decide +kernel
    obtain ⟨declaration, member, keyword⟩ := declared
    have spells : IsSpelling ObjectKind.tableExtension.keyword.toList declaration.keyword := by
      rw [keyword]
      have read : readKeyword ObjectKind.tableExtension.keyword.toList "tableextenſion".toList =
          some ("tableextenſion".toList, []) := by decide
      exact isSpelling_of_readKeyword read
    have isExtension := keeps.extensionsAreExtensions declaration member spells
    have notLong := (TableDeclaration.kind_of_tableExtension spells).mp
      (isExtension_linkFields_iff.mp isExtension)
    rw [keyword] at notLong
    exact absurd notLong (by decide)

end TableObject

end TableAtlas
