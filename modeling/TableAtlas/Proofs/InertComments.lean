import TableAtlas.Proofs.BlankedProperties

/-!
# Inert comments

Declarations, sections and properties are searched for in the text as it is
written, so a comment takes part in every search that comes upon it.  It is
inert if no search finds anything that overlaps a comment, whether the comments
are there or are blanked.  The searches follow one another, and each of them is
looked at only in the part of the text that it goes through.
-/

namespace TableAtlas.Source

open TableAtlas.Text

/-! ## Heads -/

/-- A search for a head finds nothing that overlaps a comment, and what it finds
ends outside strings. -/
structure HeadApart {α : Type} (readHead : List Char → Option (α × List Char))
    (text : List Char) : Prop where
  findsApart : FindsApart readHead text (blankComments text)
  endsInCode : ∀ span ∈ matchedSpan readHead text,
    (blankComments text).drop span.2 = blankComments (text.drop span.2)

instance {α : Type} (readHead : List Char → Option (α × List Char)) (text : List Char) :
    Decidable (HeadApart readHead text) :=
  decidable_of_iff (FindsApart readHead text (blankComments text) ∧
    ∀ span ∈ matchedSpan readHead text,
      (blankComments text).drop span.2 = blankComments (text.drop span.2))
    ⟨fun both => ⟨both.1, both.2⟩, fun apart => ⟨apart.findsApart, apart.endsInCode⟩⟩

section Heads

variable {α : Type} {readHead : List Char → Option (α × List Char)}
  {text skipped inside : List Char} {head : α}

theorem HeadApart.firstMatch_eq_some (apart : HeadApart readHead text) (isLocal : IsLocal readHead)
    (matched : firstMatch readHead false text = some (skipped, head, inside)) :
    firstMatch readHead false (blankComments text) =
      some ((blankComments text).take skipped.length, head, blankComments inside) := by
  obtain ⟨front, sameLength, there⟩ :=
    apart.findsApart.firstMatch_eq_some isLocal.carriesOver (blanked_blankComments text) matched
  obtain ⟨place, whole, -⟩ := Text.firstMatch_eq_some there
  have isFront : (blankComments text).take skipped.length = front := by
    rw [whole, ← sameLength, List.take_left]
  have isInside : text.drop (text.length - inside.length) = inside := by
    obtain ⟨written, rfl, taken⟩ := Text.firstMatch_eq_some matched
    have behind := (isLocal.suffix taken).trans (List.suffix_append skipped written)
    exact (List.suffix_iff_eq_drop.mp behind).symm
  have endsInCode := apart.endsInCode (skipped.length, text.length - inside.length) (by
    simp [matchedSpan, matched])
  rw [there, isFront, endsInCode, isInside]

theorem HeadApart.firstMatch_eq_none (apart : HeadApart readHead text) (isLocal : IsLocal readHead)
    (unmatched : firstMatch readHead false text = none) :
    firstMatch readHead false (blankComments text) = none :=
  apart.findsApart.firstMatch_eq_none isLocal.carriesOver (blanked_blankComments text) unmatched

end Heads

/-! ## Sections -/

/-- Reads the head of a section, which carries no data of its own. -/
def sectionHead (keyword text : List Char) : Option (Unit × List Char) :=
  (readSectionHead keyword text).map fun inside => ((), inside)

section Sections

variable {keyword body : List Char}

theorem sectionHead_isLocal (nonempty : keyword ≠ []) : IsLocal (sectionHead keyword) := by
  intro text inside head taken
  simp only [sectionHead, Option.map_eq_some_iff, Prod.mk.injEq] at taken
  obtain ⟨_, opened, -, rfl⟩ := taken
  obtain ⟨stretch, someStretch, whole, again⟩ := readMarked_stretch nonempty opened
  refine ⟨stretch, someStretch, whole, fun other => ?_⟩
  have openedAgain : readSectionHead keyword (stretch ++ other) = some other := again other
  rw [sectionHead, openedAgain]
  rfl

theorem findSection_blankComments (nonempty : keyword ≠ [])
    (apart : HeadApart (sectionHead keyword) body) :
    findSection keyword (blankComments body) =
      (findSection keyword body).map fun (before, inside) =>
        ((blankComments body).take before.length, blankComments inside) := by
  have found : ∀ body, findSection keyword body =
      (firstMatch (sectionHead keyword) false body).map fun (before, _, inside) =>
        (before, inside) := by
    intro body
    have search : firstMatch (sectionHead keyword) false body =
        (findSection keyword body).map fun (before, inside) => (before, (), inside) :=
      firstMatch_map (readSectionHead keyword) _ false body
    rw [search]
    cases findSection keyword body <;> rfl
  rw [found, found]
  cases matched : firstMatch (sectionHead keyword) false body with
  | none => rw [apart.firstMatch_eq_none (sectionHead_isLocal nonempty) matched]; rfl
  | some found =>
      obtain ⟨before, head, inside⟩ := found
      rw [apart.firstMatch_eq_some (sectionHead_isLocal nonempty) matched]
      rfl

theorem sectionBody_blankComments (nonempty : keyword ≠ [])
    (apart : HeadApart (sectionHead keyword) body) :
    sectionBody keyword (blankComments body) = blankComments (sectionBody keyword body) := by
  unfold sectionBody
  rw [findSection_blankComments nonempty apart]
  cases findSection keyword body with
  | none => rfl
  | some found => simp [splitBlock_blankComments]

end Sections

/-! ## Declarations -/

/-- The searches for the heads of successive declarations find nothing that
overlaps a comment, and what stands behind each head is as required. -/
inductive DeclarationsApart {α : Type} (readHead : List Char → Option (α × List Char))
    (block : List Char → List Char × List Char) (blockApart : List Char → Prop) :
    List Char → Prop where
  | none {text : List Char} :
      firstMatch readHead false text = none → HeadApart readHead text →
      DeclarationsApart readHead block blockApart text
  | some {text skipped inside : List Char} {head : α} :
      firstMatch readHead false text = some (skipped, head, inside) → HeadApart readHead text →
      blockApart inside → DeclarationsApart readHead block blockApart (block inside).2 →
      DeclarationsApart readHead block blockApart text

/-- Blanking the comments of a text changes nothing that is seen of its declarations, if
it changes nothing that is seen of one declaration when its block is blanked. -/
theorem DeclarationsApart.map_all_eq {α β γ : Type} {readHead : List Char → Option (α × List Char)}
    {block : List Char → List Char × List Char} {blockApart : List Char → Prop}
    {recogniser : Recogniser β} {view : β → γ} {text : List Char} (join : α → List Char → β)
    (reads : ∀ text, recogniser.recognise text = (readHead text).map fun (head, inside) =>
      (join head (block inside).1, (block inside).2))
    (isLocal : IsLocal readHead)
    (blanks : ∀ {inside}, blockApart inside → block (blankComments inside) =
      (blankComments (block inside).1, blankComments (block inside).2))
    (sameView : ∀ head {inside}, blockApart inside →
      view (join head (blankComments (block inside).1)) = view (join head (block inside).1))
    (apart : DeclarationsApart readHead block blockApart text) :
    (recogniser.all (blankComments text)).map view = (recogniser.all text).map view := by
  have search : ∀ text, firstMatch recogniser.recognise false text =
      (firstMatch readHead false text).map fun found =>
        (found.1, join found.2.1 (block found.2.2).1, (block found.2.2).2) := by
    intro text
    rw [funext reads, firstMatch_map]
  induction apart with
  | @none text unmatched headApart =>
      have unmatchedThere := headApart.firstMatch_eq_none isLocal unmatched
      have nothing : firstMatch recogniser.recognise false text = Option.none := by
        rw [search, unmatched, Option.map_none]
      have nothingThere : firstMatch recogniser.recognise false (blankComments text) = Option.none := by
        rw [search, unmatchedThere, Option.map_none]
      rw [recogniser.all_of_none nothing, recogniser.all_of_none nothingThere]
  | @some text skipped inside head matched headApart here _ induction =>
      have matchedThere := headApart.firstMatch_eq_some isLocal matched
      have first := search text
      have firstThere := search (blankComments text)
      rw [matched, Option.map_some] at first
      rw [matchedThere, Option.map_some] at firstThere
      simp only [blanks here] at firstThere
      rw [recogniser.all_of_some first, recogniser.all_of_some firstThere, List.map_cons,
        List.map_cons, sameView head here, induction]

/-! ## Properties -/

/-- The searches for the value of a property find nothing that overlaps a
comment.  A plain value is searched for only where there is no quoted one. -/
structure ValueApart (name block : List Char) : Prop where
  quoted : FindsApart (readAssigned readQuoted name) block (blankComments block)
  plain : quotedProperty? name block = none →
    FindsApart (readAssigned readPlainText name) block (blankComments block)

instance (name block : List Char) : Decidable (ValueApart name block) :=
  decidable_of_iff (FindsApart (readAssigned readQuoted name) block (blankComments block) ∧
    (quotedProperty? name block = none →
      FindsApart (readAssigned readPlainText name) block (blankComments block)))
    ⟨fun both => ⟨both.1, both.2⟩, fun apart => ⟨apart.quoted, apart.plain⟩⟩

theorem ValueApart.propertyValue_eq {name block : List Char} (nonempty : name ≠ [])
    (apart : ValueApart name block) :
    propertyValue name (blankComments block) = propertyValue name block := by
  have areBlanked := blanked_blankComments block
  have sameQuoted : quotedProperty? name (blankComments block) = quotedProperty? name block := by
    rw [quotedProperty?_eq, quotedProperty?_eq,
      readQuoted_carriesOver.assigned?_eq nonempty areBlanked apart.quoted]
  rw [propertyValue, propertyValue, sameQuoted]
  cases notQuoted : quotedProperty? name block with
  | some value => rfl
  | none =>
      have samePlain : plainProperty? name (blankComments block) = plainProperty? name block := by
        rw [plainProperty?_eq, plainProperty?_eq,
          readPlainText_isLocal.carriesOver.assigned?_eq nonempty areBlanked (apart.plain notQuoted)]
      rw [samePlain]

/-- The searches for the properties of a field find nothing that overlaps a
comment.  Of a computed field only the class is searched for. -/
structure PropertiesApart (block : List Char) : Prop where
  fieldClass : ValueApart classProperty block
  caption : (FieldClass.ofValue (propertyValue classProperty block)).isComputed = false →
    ValueApart captionProperty block
  relation : (FieldClass.ofValue (propertyValue classProperty block)).isComputed = false →
    FindsApart (readAssigned (readExpressionText none) relationProperty) block
      (blankComments block)

instance (block : List Char) : Decidable (PropertiesApart block) :=
  decidable_of_iff (ValueApart classProperty block ∧
    ((FieldClass.ofValue (propertyValue classProperty block)).isComputed = false →
      ValueApart captionProperty block ∧
      FindsApart (readAssigned (readExpressionText none) relationProperty) block
        (blankComments block)))
    ⟨fun all => ⟨all.1, fun stored => (all.2 stored).1, fun stored => (all.2 stored).2⟩,
      fun apart => ⟨apart.fieldClass, fun stored => ⟨apart.caption stored, apart.relation stored⟩⟩⟩

/-! ## Fields -/

namespace FieldDeclaration

/-- The field that a declaration adds to the schema, if it is stored. -/
def storedField? (common : NamePrefix) (declaration : FieldDeclaration) : Option Field :=
  if declaration.fieldClass.isComputed then none else some (declaration.toField common)

/-- No comment stands between the head of a field and its block, and none is
overlapped by a property. -/
structure BlockApart (closed : List Char) : Prop where
  adjoins : BlockAdjoins closed
  properties : PropertiesApart (trailingBlock closed).1

theorem storedField?_blankComments (common : NamePrefix) (head : FieldDeclaration)
    {block : List Char} (apart : PropertiesApart block) :
    (head.withProperties (blankComments block)).storedField? common =
      (head.withProperties block).storedField? common := by
  have sameClass : (head.withProperties (blankComments block)).fieldClass =
      (head.withProperties block).fieldClass :=
    congrArg FieldClass.ofValue (apart.fieldClass.propertyValue_eq (by decide))
  unfold storedField?
  rw [sameClass]
  split
  · rfl
  · rename_i stored
    have notComputed : (FieldClass.ofValue (propertyValue classProperty block)).isComputed = false :=
      Bool.eq_false_iff.mpr stored
    have sameCaption : propertyValue captionProperty (blankComments block) =
        propertyValue captionProperty block :=
      (apart.caption notComputed).propertyValue_eq (by decide)
    have sameRelation : relationExpression (blankComments block) = relationExpression block := by
      rw [relationExpression_eq, relationExpression_eq,
        (readExpressionText_isLocal none).carriesOver.assigned?_eq (by decide)
          (blanked_blankComments block) (apart.relation notComputed)]
    simp only [toField, sameClass]
    simp only [withProperties, sameCaption, sameRelation]
    rfl

end FieldDeclaration

theorem storedFields_eq (common : NamePrefix) (body : List Char) :
    storedFields common body =
      ((FieldDeclaration.recogniser.all (sectionBody fieldsKeyword body)).map
        (·.storedField? common)).filterMap id := by
  unfold storedFields
  generalize FieldDeclaration.recogniser.all (sectionBody fieldsKeyword body) = declarations
  induction declarations with
  | nil => rfl
  | cons declaration others induction =>
      cases computed : declaration.fieldClass.isComputed <;>
        simp [FieldDeclaration.storedField?, computed, induction]

/-! ## Bodies -/

/-- The searches through the body of a table find nothing that overlaps a comment. -/
structure BodyApart (body : List Char) : Prop where
  caption : FindsApart (readAssigned readQuoted captionProperty) (TableDeclaration.captionRegion body)
    ((blankComments body).take (TableDeclaration.captionRegion body).length)
  fieldSection : HeadApart (sectionHead fieldsKeyword) body
  fields : DeclarationsApart FieldDeclaration.readHead trailingBlock FieldDeclaration.BlockApart
    (sectionBody fieldsKeyword body)
  keySection : HeadApart (sectionHead keysKeyword) body
  keys : DeclarationsApart KeyDeclaration.readHead trailingBlock BlockAdjoins
    (sectionBody keysKeyword body)

namespace BodyApart

variable {body : List Char}

theorem storedFields_eq (apart : BodyApart body) (common : NamePrefix) :
    storedFields common (blankComments body) = storedFields common body := by
  rw [Source.storedFields_eq, Source.storedFields_eq,
    sectionBody_blankComments (by decide) apart.fieldSection]
  congr 1
  exact apart.fields.map_all_eq FieldDeclaration.withProperties FieldDeclaration.read_eq
    FieldDeclaration.readHead_isLocal (fun here => trailingBlock_blankComments here.adjoins)
    fun head _ here => head.storedField?_blankComments common here.properties

theorem declaredKeys_eq (apart : BodyApart body) (common : NamePrefix) :
    declaredKeys common (blankComments body) = declaredKeys common body := by
  have sameKeys : (KeyDeclaration.recogniser.all
      (blankComments (sectionBody keysKeyword body))).map id =
        (KeyDeclaration.recogniser.all (sectionBody keysKeyword body)).map id :=
    apart.keys.map_all_eq (fun head _ => head) KeyDeclaration.read_eq
      KeyDeclaration.readHead_isLocal trailingBlock_blankComments fun _ _ _ => rfl
  rw [List.map_id, List.map_id] at sameKeys
  rw [declaredKeys, declaredKeys, sectionBody_blankComments (by decide) apart.keySection, sameKeys]

theorem captionRegion_eq (apart : BodyApart body) :
    TableDeclaration.captionRegion (blankComments body) =
      (blankComments body).take (TableDeclaration.captionRegion body).length := by
  unfold TableDeclaration.captionRegion
  rw [findSection_blankComments (by decide) apart.fieldSection]
  cases findSection fieldsKeyword body with
  | some found => rfl
  | none =>
      have reach : (body.take TableDeclaration.captionReach).length =
          min TableDeclaration.captionReach (blankComments body).length := by
        rw [List.length_take, length_blankComments]
      simp only [Option.map_none, reach, ← List.take_take, List.take_length]

theorem caption_eq (apart : BodyApart body) :
    TableDeclaration.caption (blankComments body) = TableDeclaration.caption body := by
  have isFront : TableDeclaration.captionRegion body <+: body := by
    unfold TableDeclaration.captionRegion
    split
    · rename_i before inside found
      obtain ⟨place, rfl, -⟩ := firstMatch_eq_some found
      exact List.prefix_append before place
    · exact List.take_prefix TableDeclaration.captionReach body
  have areBlanked : Blanked (TableDeclaration.captionRegion body)
      ((blankComments body).take (TableDeclaration.captionRegion body).length) := by
    have fronts := List.forall₂_take (TableDeclaration.captionRegion body).length
      (blanked_blankComments body)
    rwa [← List.prefix_iff_eq_take.mp isFront] at fronts
  rw [TableDeclaration.caption, TableDeclaration.caption, apart.captionRegion_eq,
    quotedProperty?_eq, quotedProperty?_eq,
    readQuoted_carriesOver.assigned?_eq (by decide) areBlanked apart.caption]

end BodyApart

/-- The searches through a text find nothing that overlaps a comment. -/
def CommentsApart (text : List Char) : Prop :=
  DeclarationsApart TableDeclaration.readHead splitBlock
    (fun inside => BodyApart (splitBlock inside).1) text

end TableAtlas.Source

namespace TableAtlas.TableObject

open TableAtlas.Text TableAtlas.Source

theorem ofDeclaration_blankComments (common : NamePrefix) (file : String)
    (head : TableDeclaration) {body : List Char} (apart : BodyApart body) :
    ofDeclaration common file (head.withBody (blankComments body)) =
      ofDeclaration common file (head.withBody body) := by
  simp only [ofDeclaration, TableDeclaration.withBody, apart.caption_eq,
    apart.storedFields_eq common, apart.declaredKeys_eq common]
  rfl

/-- Comments that nothing found overlaps do not change what a text declares. -/
theorem allIn_blankComments (common : NamePrefix) (file text : String)
    (apart : CommentsApart text.toList) :
    allIn common file (String.ofList (blankComments text.toList)) = allIn common file text := by
  rw [allIn, allIn, String.toList_ofList]
  exact DeclarationsApart.map_all_eq TableDeclaration.withBody TableDeclaration.read_eq
    TableDeclaration.readHead_isLocal (fun _ => splitBlock_blankComments _)
    (fun head _ here => congrArg (linkFields common) (ofDeclaration_blankComments common file head here))
    apart

/-- What stands behind the head of a field: a property and a field are commented out. -/
def fieldRest : List Char :=
  "\x7b Caption = 'Y'; // Caption = 'Z'; field(2; Z; Code)\n\x7d".toList

/-- What stands behind the head of a key: another key is commented out. -/
def keyRest : List Char :=
  "\x7b // key(L; X)\n\x7d".toList

/-- The body of a table in which another table and a section are commented out. -/
def commentedBody : List Char :=
  "// Isn't table 2 B \x7b\nfields \x7b field(1; X; Code)".toList ++ fieldRest ++
    ("\x7d keys \x7b key(K; X)".toList ++ keyRest ++ "\x7d // keys \x7b \x7d\n".toList)

def commentedTable : String :=
  String.ofList ("table 1 A \x7b".toList ++ commentedBody ++ ['}'])

theorem allIn_blankComments_commentedTable :
    CommentsApart commentedTable.toList ∧
      allIn .none "a.al" (String.ofList (blankComments commentedTable.toList)) =
        allIn .none "a.al" commentedTable := by
  have fieldSection : sectionBody fieldsKeyword commentedBody =
      " field(1; X; Code)".toList ++ fieldRest := by decide +kernel
  have fields : DeclarationsApart FieldDeclaration.readHead trailingBlock FieldDeclaration.BlockApart
      (" field(1; X; Code)".toList ++ fieldRest) := by
    have matched : firstMatch FieldDeclaration.readHead false
        (" field(1; X; Code)".toList ++ fieldRest) =
          some ([' '], ⟨['1'], ['X'], "Code".toList, []⟩, fieldRest) := by
      decide +kernel
    exact .some matched (by decide +kernel) ⟨by decide +kernel, by decide +kernel⟩
      (.none (by decide +kernel) (by decide +kernel))
  have keySection : sectionBody keysKeyword commentedBody =
      " key(K; X)".toList ++ keyRest := by decide +kernel
  have keys : DeclarationsApart KeyDeclaration.readHead trailingBlock BlockAdjoins
      (" key(K; X)".toList ++ keyRest) := by
    have matched : firstMatch KeyDeclaration.readHead false (" key(K; X)".toList ++ keyRest) =
        some ([' '], ⟨['K'], [['X']]⟩, keyRest) := by
      decide +kernel
    exact .some matched (by decide +kernel) (by decide +kernel)
      (.none (by decide +kernel) (by decide +kernel))
  have apart : CommentsApart ("table 1 A \x7b".toList ++ commentedBody ++ ['}']) := by
    have matched : firstMatch TableDeclaration.readHead false
        ("table 1 A \x7b".toList ++ commentedBody ++ ['}']) =
          some ([], ⟨"table".toList, ['1'], ['A'], [], []⟩, commentedBody ++ ['}']) := by
      decide +kernel
    have isBody : (splitBlock (commentedBody ++ ['}'])).1 = commentedBody := by
      decide +kernel
    have bodyApart : BodyApart commentedBody :=
      { caption := by decide +kernel
        fieldSection := by decide +kernel
        fields := (congrArg _ fieldSection).mpr fields
        keySection := by decide +kernel
        keys := (congrArg _ keySection).mpr keys }
    exact .some matched (by decide +kernel) ((congrArg BodyApart isBody).mpr bodyApart)
      (.none (by decide +kernel) (by decide +kernel))
  have apartText : CommentsApart commentedTable.toList :=
    (congrArg CommentsApart String.toList_ofList).mpr apart
  exact ⟨apartText, allIn_blankComments .none "a.al" commentedTable apartText⟩

/-- Texts in which a comment is found as a declaration, a property or a section,
stands inside what is found without it, or parts a field from its block.  In the
last one a comment decides where a block ends whose head stands in a string. -/
def overlappedTexts : List String :=
  ["// table 1 A \x7b \x7d",
    "table // x\n1 A \x7b \x7d",
    "table 1 A \x7b // Caption = 'B';\n\x7d",
    "table 1 A \x7b // keys \x7b key(K; X)\n\x7d",
    "table 1 A \x7b fields \x7b // field(1; X; Code)\n\x7d \x7d",
    "table 1 A \x7b fields \x7b field(1; X; Code) // x\n\x7b Caption = 'B'; \x7d \x7d \x7d",
    "'table 1 A \x7b ' // ' \x7d\nCaption = 'B'; \x7d"]

theorem allIn_blankComments_ne : ¬ ∃ text ∈ overlappedTexts,
    allIn .none "a.al" (String.ofList (blankComments text.toList)) = allIn .none "a.al" text := by
  rintro ⟨text, member, same⟩
  have differ : ∀ text ∈ overlappedTexts,
      (allIn .none "a.al" (String.ofList (blankComments text.toList))).map
          (fun object => (object.caption, object.fields.map (·.caption), object.keys.length)) ≠
        (allIn .none "a.al" text).map
          (fun object => (object.caption, object.fields.map (·.caption), object.keys.length)) := by
    decide +kernel
  exact differ text member (congrArg _ same)

end TableAtlas.TableObject
