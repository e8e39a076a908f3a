import TableAtlas.Proofs.BlankedSearch
import TableAtlas.Proofs.ByteOffsets
import TableAtlas.Proofs.LocalHeads

/-!
# Placed declarations

The declarations of a text are found by loops that keep a byte offset.  An
iteration searches for a head from the offset on, cuts out the block behind it,
and goes on behind the closing brace, or at the end of the text if the block is
not closed.

Each loop comes to its end.  Its offsets grow and stay in the text, every cut is
made between two characters, and the declarations are those that the text has.
What carries the loops through is that no word runs across the offset at which a
search goes on: it stands behind a brace or a parenthesis.
-/

namespace TableAtlas

namespace Source

open TableAtlas.Text

/-! ## Loops -/

/-- The head of a declaration between two byte offsets of a text. -/
structure PlacedHead (α : Type) where
  head : α
  start : Nat
  stop : Nat

/-- A block whose body starts at a byte offset of a text, and the offset at which the
search for declarations goes on. -/
structure PlacedBlock where
  start : Nat
  body : List Char
  resume : Nat
deriving DecidableEq, Repr

def PlacedBlock.stop (block : PlacedBlock) : Nat :=
  block.start + String.utf8Len block.body

/-- The first head that is read at or behind a byte offset, if there is one.  The search
fails if the text cannot be cut at the offset. -/
def headFrom? {α : Type} (readHead : List Char → Option (α × List Char)) (text : List Char)
    (offset : Nat) : Option (Option (PlacedHead α)) :=
  (cutAt? offset text).map fun (before, after) =>
    (firstMatch readHead (endsInWord false before) after).map fun (skipped, head, inside) =>
      ⟨head, offset + String.utf8Len skipped, String.utf8Len text - String.utf8Len inside⟩

/-- The block whose opening brace ends at a byte offset.  The search goes on behind one
further byte, which is the closing brace unless the text ends before it. -/
def openedBlock? (text : List Char) (offset : Nat) : Option PlacedBlock :=
  (extractBlock? text offset).map fun body =>
    ⟨offset, body, min (offset + String.utf8Len body + 1) (String.utf8Len text)⟩

/-- The block that directly follows a byte offset, blanks aside.  Without one the search
goes on at the offset. -/
def followingBlock? (text : List Char) (offset : Nat) : Option PlacedBlock := do
  let rest ← slice? text offset (String.utf8Len text)
  let trimmed := dropBlanks rest
  if trimmed.head? = some '{' then
    openedBlock? text (offset + (String.utf8Len rest - String.utf8Len trimmed) + 1)
  else
    return ⟨offset, [], offset⟩

/-- A loop over the declarations of a text: how it reads a head, where it takes the block
behind a head from, and what it makes of the two. -/
structure DeclarationLoop (α : Type) where
  readHead : List Char → Option (α × List Char)
  block? : List Char → Nat → Option PlacedBlock
  complete : α → List Char → α

def tableLoop : DeclarationLoop TableDeclaration :=
  ⟨TableDeclaration.readHead, openedBlock?, TableDeclaration.withBody⟩

def fieldLoop : DeclarationLoop FieldDeclaration :=
  ⟨FieldDeclaration.readHead, followingBlock?, FieldDeclaration.withProperties⟩

def keyLoop : DeclarationLoop KeyDeclaration :=
  ⟨KeyDeclaration.readHead, followingBlock?, fun head _ => head⟩

/-- What one iteration of a loop finds, and where. -/
structure Iteration (α : Type) where
  declaration : α
  start : Nat
  headStop : Nat
  block : PlacedBlock

def DeclarationLoop.iteration {α : Type} (loop : DeclarationLoop α) (found : PlacedHead α)
    (block : PlacedBlock) : Iteration α :=
  ⟨loop.complete found.head block.body, found.start, found.stop, block⟩

/-- The iterations of a loop from a byte offset to the end of the loop.  A loop in which
some search or cut fails has none. -/
inductive DeclarationLoop.Runs {α : Type} (loop : DeclarationLoop α) (text : List Char) :
    Nat → List (Iteration α) → Prop where
  | finish {offset : Nat} : headFrom? loop.readHead text offset = some none →
      Runs loop text offset []
  | iterate {offset : Nat} {found : PlacedHead α} {block : PlacedBlock}
      {later : List (Iteration α)} :
      headFrom? loop.readHead text offset = some (some found) →
      loop.block? text found.stop = some block →
      Runs loop text block.resume later →
      Runs loop text offset (loop.iteration found block :: later)

theorem DeclarationLoop.Runs.unique {α : Type} {loop : DeclarationLoop α} {text : List Char}
    {offset : Nat} {iterations other : List (Iteration α)}
    (runs : loop.Runs text offset iterations) (otherRuns : loop.Runs text offset other) :
    other = iterations := by
  induction runs generalizing other with
  | finish nothing =>
      cases otherRuns with
      | finish => rfl
      | iterate found =>
          rw [nothing] at found
          exact absurd found (by simp)
  | iterate found blockFound later induction =>
      cases otherRuns with
      | finish nothing =>
          rw [found] at nothing
          exact absurd nothing (by simp)
      | iterate foundAgain blockAgain otherLater =>
          rw [found] at foundAgain
          obtain rfl := Option.some.inj (Option.some.inj foundAgain)
          rw [blockFound] at blockAgain
          obtain rfl := Option.some.inj blockAgain
          rw [induction otherLater]

/-! ## Offsets of iterations -/

/-- The parts of an iteration follow each other, and the text can be cut at each of them. -/
structure Iteration.InRange {α : Type} (iteration : Iteration α) (text : List Char) : Prop where
  headNonempty : iteration.start < iteration.headStop
  blockBehindHead : iteration.headStop ≤ iteration.block.start
  resumesBehindBlock : iteration.block.stop ≤ iteration.block.resume
  resumesInText : iteration.block.resume ≤ String.utf8Len text
  cutsHead : (slice? text iteration.start iteration.headStop).isSome = true
  cutsBlock : slice? text iteration.block.start iteration.block.stop = some iteration.block.body
  cutsRest : (cutAt? iteration.block.resume text).isSome = true

/-- Iterations that go forward through a text from a byte offset on. -/
structure Advances {α : Type} (text : List Char) (offset : Nat) (iterations : List (Iteration α)) :
    Prop where
  inRange : ∀ iteration ∈ iterations, iteration.InRange text
  increasing : (offset :: iterations.map fun iteration => iteration.block.resume).Pairwise (· < ·)
  behindOffset : ∀ iteration ∈ iterations, offset ≤ iteration.start
  disjoint : iterations.Pairwise fun earlier later => earlier.block.resume ≤ later.start
  bounded : offset + iterations.length ≤ String.utf8Len text

/-- The iteration takes the front of the text behind `before`, up to `rest`. -/
def Iteration.Spans {α : Type} (iteration : Iteration α) (before after rest : List Char) : Prop :=
  ∃ skipped head opening closing, head ≠ [] ∧
    after = skipped ++ (head ++ (opening ++ (iteration.block.body ++ (closing ++ rest)))) ∧
    iteration.start = String.utf8Len (before ++ skipped) ∧
    iteration.headStop = iteration.start + String.utf8Len head ∧
    iteration.block.start = iteration.headStop + String.utf8Len opening ∧
    iteration.block.resume = iteration.block.stop + String.utf8Len closing

section Offsets

variable {α : Type} {iteration : Iteration α} {before after rest : List Char}

theorem Iteration.Spans.inRange (spans : iteration.Spans before after rest) :
    iteration.InRange (before ++ after) := by
  obtain ⟨skipped, head, opening, closing, nonempty, rfl, start, headStop, blockStart, resume⟩ :=
    spans
  have positive : 0 < String.utf8Len head :=
    Nat.pos_of_ne_zero (mt String.utf8Len_eq_zero.mp nonempty)
  have stop : iteration.block.stop =
      iteration.block.start + String.utf8Len iteration.block.body := rfl
  simp only [String.utf8Len_append] at start
  constructor
  · omega
  · omega
  · omega
  · simp only [String.utf8Len_append]
    omega
  · have cut : slice? (before ++ skipped ++ (head ++ (opening ++ (iteration.block.body ++
        (closing ++ rest))))) iteration.start iteration.headStop = some head :=
      slice?_eq_some_iff.mpr
        ⟨before ++ skipped, _, rfl, by rw [String.utf8Len_append, start], headStop.symm⟩
    rw [← List.append_assoc, cut, Option.isSome_some]
  · apply slice?_eq_some_iff.mpr
    refine ⟨before ++ (skipped ++ (head ++ opening)), closing ++ rest, by simp, ?_, rfl⟩
    simp only [String.utf8Len_append]
    omega
  · apply Option.isSome_iff_exists.mpr
    refine ⟨(before ++ (skipped ++ (head ++ (opening ++ (iteration.block.body ++ closing)))), rest),
      cutAt?_eq_some_iff.mpr ⟨by simp, ?_⟩⟩
    simp only [String.utf8Len_append]
    omega

theorem Advances.nil {text : List Char} {offset : Nat} (inText : offset ≤ String.utf8Len text) :
    Advances (α := α) text offset [] where
  inRange := by simp
  increasing := by simp
  behindOffset := by simp
  disjoint := .nil
  bounded := inText

/-- An iteration that takes some text goes forward, if those behind it do. -/
theorem Advances.cons {later : List (Iteration α)} (spans : iteration.Spans before after rest)
    (advances : Advances (before ++ after) iteration.block.resume later) :
    Advances (before ++ after) (String.utf8Len before) (iteration :: later) := by
  have inRange := spans.inRange
  obtain ⟨skipped, _, _, _, -, -, start, -⟩ := spans
  rw [String.utf8Len_append] at start
  have headNonempty := inRange.headNonempty
  have blockBehindHead := inRange.blockBehindHead
  have resumesBehindBlock := inRange.resumesBehindBlock
  have stop : iteration.block.stop =
      iteration.block.start + String.utf8Len iteration.block.body := rfl
  have forward : String.utf8Len before < iteration.block.resume := by omega
  constructor
  · exact List.forall_mem_cons.mpr ⟨inRange, advances.inRange⟩
  · rw [List.map_cons, List.pairwise_cons]
    refine ⟨List.forall_mem_cons.mpr ⟨forward, ?_⟩, advances.increasing⟩
    intro resume member
    exact forward.trans ((List.pairwise_cons.mp advances.increasing).1 resume member)
  · refine List.forall_mem_cons.mpr ⟨by omega, ?_⟩
    intro other member
    exact forward.le.trans (advances.behindOffset other member)
  · exact List.pairwise_cons.mpr ⟨advances.behindOffset, advances.disjoint⟩
  · have bounded := advances.bounded
    rw [List.length_cons]
    omega

end Offsets

/-! ## Blocks behind heads -/

theorem endsInWord_concat (afterWord : Bool) (text : List Char) (c : Char) :
    endsInWord afterWord (text ++ [c]) = isWordChar c := by
  simp [endsInWord]

/-- No word runs on from the first part of a text into the second. -/
def StartsAfresh (before after : List Char) : Prop :=
  after = [] ∨ endsInWord false before = false

/-- The block lies behind `front` at the start of `inside`, and the search goes on
afresh with `rest`. -/
def PlacedBlock.Lies (block : PlacedBlock) (front inside rest : List Char) : Prop :=
  ∃ opening closing, inside = opening ++ (block.body ++ (closing ++ rest)) ∧
    block.start = String.utf8Len front + String.utf8Len opening ∧
    block.resume = block.stop + String.utf8Len closing ∧
    StartsAfresh (front ++ (opening ++ (block.body ++ closing))) rest

/-- Behind each part of a text that ends no word, the block is the one that `split` splits
off the rest. -/
def TakesBlock (block? : List Char → Nat → Option PlacedBlock)
    (split : List Char → List Char × List Char) : Prop :=
  ∀ front inside, endsInWord false front = false →
    ∃ block, block? (front ++ inside) (String.utf8Len front) = some block ∧
      block.body = (split inside).1 ∧ block.Lies front inside (split inside).2

theorem PlacedBlock.Lies.of_append {block : PlacedBlock} {front gap inside rest : List Char}
    (lies : block.Lies (front ++ gap) inside rest) : block.Lies front (gap ++ inside) rest := by
  obtain ⟨opening, closing, rfl, start, resume, afresh⟩ := lies
  refine ⟨gap ++ opening, closing, by simp, ?_, resume, by simpa using afresh⟩
  rw [start, String.utf8Len_append, String.utf8Len_append, Nat.add_assoc]

theorem openedBlock?_takesBlock : TakesBlock openedBlock? splitBlock := by
  intro front inside _
  have found : openedBlock? (front ++ inside) (String.utf8Len front) =
      some ⟨String.utf8Len front, (splitBlock inside).1,
        min (String.utf8Len front + String.utf8Len (splitBlock inside).1 + 1)
          (String.utf8Len (front ++ inside))⟩ := by
    rw [openedBlock?, extractBlock?_eq_some, blockFrom_utf8Len, Option.map_some]
  refine ⟨_, found, rfl, ?_⟩
  cases closed : closeBlock .code 0 inside with
  | none =>
      have split : splitBlock inside = (inside, []) := by rw [splitBlock, closed, Option.getD_none]
      refine ⟨[], [], by simp [split], rfl, ?_, .inl (by rw [split])⟩
      simp only [PlacedBlock.stop, split, String.utf8Len_append, String.utf8Len_nil]
      omega
  | some parts =>
      obtain ⟨body, after⟩ := parts
      have split : splitBlock inside = (body, after) := by
        rw [splitBlock, closed, Option.getD_some]
      have whole := closeBlock_eq_append closed
      have size : String.utf8Len ['}'] = 1 := by decide +kernel
      refine ⟨[], ['}'], by rw [split]; exact whole, rfl, ?_, .inr ?_⟩
      · have total : String.utf8Len inside =
            String.utf8Len body + (1 + String.utf8Len after) := by
          rw [whole, ← List.singleton_append, String.utf8Len_append, String.utf8Len_append, size]
        simp only [PlacedBlock.stop, split, String.utf8Len_append, total, size]
        omega
      · rw [← List.append_assoc, ← List.append_assoc, endsInWord_concat]
        decide

example : openedBlock? ['{', 'é', '}', ' '] 1 = some ⟨1, ['é'], 4⟩ ∧
    openedBlock? ['{', 'é'] 1 = some ⟨1, ['é'], 3⟩ := by
  decide

theorem followingBlock?_takesBlock : TakesBlock followingBlock? trailingBlock := by
  intro front inside afresh
  have cut : slice? (front ++ inside) (String.utf8Len front) (String.utf8Len (front ++ inside)) =
      some inside := by
    simpa using slice?_append front inside []
  by_cases opened : (dropBlanks inside).head? = some '{'
  · obtain ⟨inner, trimmed⟩ := List.head?_eq_some_iff.mp opened
    obtain ⟨blanks, whole, -⟩ := dropBlanks_run inside
    rw [trimmed] at whole
    have split : trailingBlock inside = splitBlock inner := by
      simp only [trailingBlock, trimmed]
    have size : String.utf8Len ['{'] = 1 := by decide +kernel
    have offset : String.utf8Len front + (String.utf8Len inside - String.utf8Len ('{' :: inner)) +
        1 = String.utf8Len (front ++ (blanks ++ ['{'])) := by
      rw [whole]
      simp only [String.utf8Len_append, size]
      omega
    have brace : endsInWord false (front ++ (blanks ++ ['{'])) = false := by
      rw [← List.append_assoc, endsInWord_concat]
      decide
    have regrouped : front ++ (blanks ++ ['{']) ++ inner = front ++ inside := by simp [whole]
    obtain ⟨block, found, body, lies⟩ := openedBlock?_takesBlock _ inner brace
    rw [regrouped] at found
    have apart := lies.of_append
    rw [List.append_assoc, List.singleton_append, ← whole] at apart
    rw [split]
    refine ⟨block, ?_, body, apart⟩
    simp only [followingBlock?, cut, Option.bind_eq_bind, Option.bind_some, trimmed,
      List.head?_cons, if_true, offset, found]
  · have split : trailingBlock inside = ([], inside) := by
      unfold trailingBlock
      split
      · rename_i inner trimmed
        exact absurd (by rw [trimmed, List.head?_cons]) opened
      · rfl
    rw [split]
    refine ⟨⟨String.utf8Len front, [], String.utf8Len front⟩, ?_, rfl, [], [], rfl, rfl, rfl,
      .inr (by simpa using afresh)⟩
    simp only [followingBlock?, cut, Option.bind_eq_bind, Option.bind_some, if_neg opened,
      Option.pure_def]

/-! ## Loops and recognisers -/

/-- The loop takes heads and blocks as the recogniser does.  A head ends with a character
that is not in a word. -/
structure DeclarationLoop.Follows {α : Type} (loop : DeclarationLoop α)
    (split : List Char → List Char × List Char) (recogniser : Recogniser α) : Prop where
  recognise_eq : ∀ text, recogniser.recognise text = (loop.readHead text).map
    fun (head, inside) => (loop.complete head (split inside).1, (split inside).2)
  endsHead : ∀ {text inside : List Char} {head : α}, loop.readHead text = some (head, inside) →
    ∃ c, isWordChar c = false ∧ c :: inside <:+ text
  takesBlock : TakesBlock loop.block? split

section Loops

variable {α : Type} {loop : DeclarationLoop α} {split : List Char → List Char × List Char}
  {recogniser : Recogniser α}

/-- Nothing is read at the end of a text, so what stands before a place matters only for
words that run on. -/
theorem DeclarationLoop.Follows.firstMatch_afresh (follows : loop.Follows split recogniser)
    {before after : List Char} (afresh : StartsAfresh before after) :
    firstMatch loop.readHead (endsInWord false before) after =
      firstMatch loop.readHead false after := by
  rcases afresh with rfl | ended
  · have unread : loop.readHead [] = none := by
      rw [Option.eq_none_iff_forall_ne_some]
      rintro ⟨head, inside⟩ read
      obtain ⟨c, -, isSuffix⟩ := follows.endsHead read
      exact absurd (List.suffix_nil.mp isSuffix) (List.cons_ne_nil c inside)
    have unrecognised : ∀ afterWord, recognisedAt loop.readHead afterWord [] = none := by
      intro afterWord
      rw [recognisedAt, unread, ite_self]
    simp only [firstMatch, unrecognised]
  · rw [ended]

theorem DeclarationLoop.Follows.headFrom?_utf8Len (follows : loop.Follows split recogniser)
    {before after : List Char} (afresh : StartsAfresh before after) :
    headFrom? loop.readHead (before ++ after) (String.utf8Len before) =
      some ((firstMatch loop.readHead false after).map fun (skipped, head, inside) =>
        ⟨head, String.utf8Len before + String.utf8Len skipped,
          String.utf8Len (before ++ after) - String.utf8Len inside⟩) := by
  rw [headFrom?, cutAt?_utf8Len, Option.map_some, ← follows.firstMatch_afresh afresh]

/-- The head found stands between its offsets. -/
theorem DeclarationLoop.Follows.headFrom?_of_firstMatch (follows : loop.Follows split recogniser)
    {before skipped letters inside : List Char} {head : α}
    (afresh : StartsAfresh before (skipped ++ (letters ++ inside)))
    (matched : firstMatch loop.readHead false (skipped ++ (letters ++ inside)) =
      some (skipped, head, inside)) :
    headFrom? loop.readHead (before ++ (skipped ++ (letters ++ inside))) (String.utf8Len before) =
      some (some ⟨head, String.utf8Len before + String.utf8Len skipped,
        String.utf8Len (before ++ (skipped ++ letters))⟩) := by
  have whole : before ++ (skipped ++ (letters ++ inside)) =
      before ++ (skipped ++ letters) ++ inside := by
    simp only [List.append_assoc]
  have stop : String.utf8Len (before ++ (skipped ++ (letters ++ inside))) -
      String.utf8Len inside = String.utf8Len (before ++ (skipped ++ letters)) := by
    rw [whole, String.utf8Len_append, Nat.add_sub_cancel]
  simp only [follows.headFrom?_utf8Len afresh, matched, Option.map_some, stop]

theorem DeclarationLoop.Follows.firstMatch_recognise (follows : loop.Follows split recogniser)
    (text : List Char) :
    firstMatch recogniser.recognise false text =
      (firstMatch loop.readHead false text).map fun (skipped, head, inside) =>
        (skipped, loop.complete head (split inside).1, (split inside).2) := by
  rw [funext follows.recognise_eq]
  exact firstMatch_map _ _ false text

/-- An iteration takes the head that is found and the block that lies behind it. -/
theorem PlacedBlock.Lies.spans {block : PlacedBlock}
    {before skipped letters inside rest : List Char} (nonempty : letters ≠ [])
    (lies : block.Lies (before ++ (skipped ++ letters)) inside rest) (loop : DeclarationLoop α)
    (head : α) :
    (loop.iteration ⟨head, String.utf8Len before + String.utf8Len skipped,
      String.utf8Len (before ++ (skipped ++ letters))⟩ block).Spans before
        (skipped ++ (letters ++ inside)) rest := by
  obtain ⟨opening, closing, rfl, start, resume, -⟩ := lies
  refine ⟨skipped, letters, opening, closing, nonempty, rfl, ?_, ?_, start, resume⟩
  · exact (String.utf8Len_append before skipped).symm
  · simp only [DeclarationLoop.iteration, String.utf8Len_append, Nat.add_assoc]

/-- Where the recogniser finds a declaration, an iteration of the loop takes the same
declaration, and behind it the search starts afresh. -/
theorem DeclarationLoop.Follows.exists_step (follows : loop.Follows split recogniser)
    {before after skipped rest : List Char} {declaration : α} (afresh : StartsAfresh before after)
    (matched : firstMatch recogniser.recognise false after = some (skipped, declaration, rest)) :
    ∃ found block taken,
      headFrom? loop.readHead (before ++ after) (String.utf8Len before) = some (some found) ∧
      loop.block? (before ++ after) found.stop = some block ∧
      (loop.iteration found block).declaration = declaration ∧
      (loop.iteration found block).Spans before after rest ∧
      before ++ after = taken ++ rest ∧ String.utf8Len taken = block.resume ∧
      StartsAfresh taken rest := by
  rw [follows.firstMatch_recognise] at matched
  simp only [Option.map_eq_some_iff, Prod.exists, Prod.mk.injEq] at matched
  obtain ⟨front, head, inside, matched, rfl, rfl, restIs⟩ := matched
  obtain ⟨place, rfl, read⟩ := firstMatch_eq_some matched
  obtain ⟨c, notWord, letters, placeIs⟩ := follows.endsHead read
  rw [← List.singleton_append, ← List.append_assoc] at placeIs
  subst placeIs
  have whole : before ++ (front ++ (letters ++ [c] ++ inside)) =
      before ++ (front ++ (letters ++ [c])) ++ inside := by
    simp only [List.append_assoc]
  have ended : endsInWord false (before ++ (front ++ (letters ++ [c]))) = false := by
    rw [← List.append_assoc, ← List.append_assoc, endsInWord_concat, notWord]
  obtain ⟨block, isBlock, body, lies⟩ := follows.takesBlock _ inside ended
  rw [← whole] at isBlock
  rw [restIs] at lies
  have declared : loop.complete head block.body = loop.complete head (split inside).1 := by
    rw [body]
  have someLetters : letters ++ [c] ≠ [] := by simp
  have spans := lies.spans someLetters loop head
  obtain ⟨opening, closing, insideIs, start, resume, later⟩ := lies
  refine ⟨_, block, _, follows.headFrom?_of_firstMatch afresh matched, isBlock, declared, spans,
    ?_, ?_, later⟩
  · rw [whole, insideIs]
    simp only [List.append_assoc]
  · rw [resume, PlacedBlock.stop, start]
    simp only [String.utf8Len_append, Nat.add_assoc]

/-- From a place where the search starts afresh, the loop runs to its end, goes forward,
and finds the declarations of the text behind the place. -/
theorem DeclarationLoop.Follows.exists_run (follows : loop.Follows split recogniser)
    {before after : List Char} (afresh : StartsAfresh before after) :
    ∃ iterations, loop.Runs (before ++ after) (String.utf8Len before) iterations ∧
      Advances (before ++ after) (String.utf8Len before) iterations ∧
      iterations.map Iteration.declaration = recogniser.all after := by
  induction size : after.length using Nat.strongRecOn generalizing before after with
  | _ size induction =>
      subst size
      cases matched : firstMatch recogniser.recognise false after with
      | none =>
          have nothing := matched
          rw [follows.firstMatch_recognise, Option.map_eq_none_iff] at nothing
          have searched := follows.headFrom?_utf8Len afresh
          rw [nothing] at searched
          refine ⟨[], .finish searched, .nil (by simp), ?_⟩
          rw [recogniser.all_of_none matched, List.map_nil]
      | some found =>
          obtain ⟨skipped, declaration, rest⟩ := found
          obtain ⟨found, block, taken, searched, isBlock, declared, spans, whole, resume, later⟩ :=
            follows.exists_step afresh matched
          obtain ⟨iterations, runs, advances, declarations⟩ :=
            induction _ (recogniser.length_rest_lt matched) later rfl
          rw [← whole, resume] at runs advances
          refine ⟨_, .iterate searched isBlock runs, .cons spans advances, ?_⟩
          rw [List.map_cons, declarations, declared, recogniser.all_of_some matched]

end Loops

/-! ## The loops of tables, fields and keys -/

section Heads

variable {text rest : List Char}

theorem readChar_suffix {c : Char} (read : readChar c text = some rest) : rest <:+ text := by
  rw [readChar_eq_some_iff.mp read]
  exact List.suffix_cons c rest

theorem readKeyword_suffix {word spelled : List Char}
    (read : readKeyword word text = some (spelled, rest)) : rest <:+ text :=
  ⟨spelled, (readKeyword_eq_append read).1.symm⟩

theorem readDigits_suffix {digits : List Char} (read : readDigits text = some (digits, rest)) :
    rest <:+ text :=
  ⟨digits, (readDigits_eq_append read).symm⟩

theorem readOpening_suffix (read : readOpening text = some rest) : '{' :: rest <:+ text := by
  rw [← readChar_eq_some_iff.mp read]
  exact dropBlanks_suffix text

theorem readBase_opening {base : List Char} (read : readBase text = some (base, rest)) :
    '{' :: rest <:+ text := by
  unfold readBase at read
  split at read
  · rename_i inside opening
    simp only [Option.some.injEq, Prod.mk.injEq] at read
    obtain ⟨-, rfl⟩ := read
    exact readOpening_suffix opening
  · simp only [Option.bind_eq_bind, Option.bind_eq_some_iff, Prod.exists] at read
    obtain ⟨spelled, afterKeyword, keyword, separated, blanks, named⟩ := read
    obtain ⟨left, nameSuffix, opening⟩ := readObjectName_eq_some named
    exact (readOpening_suffix opening).trans <| nameSuffix.trans <|
      (readBlanks_suffix blanks).trans <| (readKeyword_suffix keyword).trans (dropBlanks_suffix text)

theorem readArguments_closing {arguments : List Char}
    (read : readArguments text = some (arguments, rest)) : ')' :: rest <:+ text := by
  simp only [readArguments, Option.bind_eq_bind, Option.bind_eq_some_iff, Prod.exists] at read
  obtain ⟨before, after, split, result⟩ := read
  split at result
  · exact absurd result (by simp)
  · simp only [Option.some.injEq, Prod.mk.injEq] at result
    obtain ⟨rfl, rfl⟩ := result
    exact ⟨before, (splitAtParenthesis_eq_append split).symm⟩

theorem TableDeclaration.readHead_opening {head : TableDeclaration}
    (read : readHead text = some (head, rest)) : '{' :: rest <:+ text := by
  simp only [readHead, Option.bind_eq_bind, Option.bind_eq_some_iff, Prod.exists, Option.pure_def,
    Option.some.injEq, Prod.mk.injEq] at read
  obtain ⟨keyword, afterKeyword, isKeyword, number, afterNumber, digits, separated, blanks,
    name, base, inside, named, -, rfl⟩ := read
  obtain ⟨left, nameSuffix, based⟩ := readObjectName_eq_some named
  exact (readBase_opening based).trans <| nameSuffix.trans <| (readBlanks_suffix blanks).trans <|
    (readDigits_suffix digits).trans (readObjectKeyword_suffix isKeyword)

theorem FieldDeclaration.readHead_closing {head : FieldDeclaration}
    (read : readHead text = some (head, rest)) : ')' :: rest <:+ text := by
  simp only [readHead, Option.bind_eq_bind, Option.bind_eq_some_iff, Prod.exists, Option.pure_def,
    Option.some.injEq, Prod.mk.injEq] at read
  obtain ⟨spelled, afterKeyword, keyword, opened, opening, number, afterNumber, digits,
    separated, separator, name, afterName, declared, type, closed, arguments, -, rfl⟩ := read
  exact (readArguments_closing arguments).trans <| (readDeclaredName_suffix declared).trans <|
    (readChar_suffix separator).trans <| (dropBlanks_suffix afterNumber).trans <|
    (readDigits_suffix digits).trans <| (dropBlanks_suffix opened).trans <|
    (readChar_suffix opening).trans <| (dropBlanks_suffix afterKeyword).trans
      (readKeyword_suffix keyword)

theorem KeyDeclaration.readHead_closing {head : KeyDeclaration}
    (read : readHead text = some (head, rest)) : ')' :: rest <:+ text := by
  simp only [readHead, Option.bind_eq_bind, Option.bind_eq_some_iff, Prod.exists, Option.pure_def,
    Option.some.injEq, Prod.mk.injEq] at read
  obtain ⟨spelled, afterKeyword, keyword, opened, opening, name, afterName, declared, list,
    closed, arguments, -, rfl⟩ := read
  exact (readArguments_closing arguments).trans <| (readDeclaredName_suffix declared).trans <|
    (readChar_suffix opening).trans <| (dropBlanks_suffix afterKeyword).trans
      (readKeyword_suffix keyword)

end Heads

theorem tableLoop_follows : tableLoop.Follows splitBlock TableDeclaration.recogniser where
  recognise_eq := TableDeclaration.read_eq
  endsHead := fun read => ⟨'{', by decide, TableDeclaration.readHead_opening read⟩
  takesBlock := openedBlock?_takesBlock

theorem fieldLoop_follows : fieldLoop.Follows trailingBlock FieldDeclaration.recogniser where
  recognise_eq := FieldDeclaration.read_eq
  endsHead := fun read => ⟨')', by decide, FieldDeclaration.readHead_closing read⟩
  takesBlock := followingBlock?_takesBlock

theorem keyLoop_follows : keyLoop.Follows trailingBlock KeyDeclaration.recogniser where
  recognise_eq := KeyDeclaration.read_eq
  endsHead := fun read => ⟨')', by decide, KeyDeclaration.readHead_closing read⟩
  takesBlock := followingBlock?_takesBlock

/-! ## Parts of a body -/

/-- The block of the first section with a keyword, cut out at a byte offset; no part of the
body if there is no such section. -/
def sectionBody? (keyword body : List Char) : Option (List Char) :=
  match findSection keyword body with
  | none => some []
  | some (_, inside) => extractBlock? body (String.utf8Len body - String.utf8Len inside)

/-- The part of a body in which the caption is searched for, cut out at byte offsets. -/
def captionRegion? (body : List Char) : Option (List Char) :=
  match findSection fieldsKeyword body with
  | some (before, _) => slice? body 0 (String.utf8Len before)
  | none =>
      if TableDeclaration.captionReach < body.length then
        slice? body 0 (String.utf8Len (body.take TableDeclaration.captionReach))
      else some body

theorem readSectionHead_suffix {keyword text inside : List Char}
    (read : readSectionHead keyword text = some inside) : inside <:+ text := by
  simp only [readSectionHead, Option.bind_eq_bind, Option.bind_eq_some_iff, Prod.exists] at read
  obtain ⟨spelled, afterKeyword, isKeyword, opening⟩ := read
  exact (readChar_suffix opening).trans <| (dropBlanks_suffix afterKeyword).trans
    (readKeyword_suffix isKeyword)

theorem sectionBody?_eq_some (keyword body : List Char) :
    sectionBody? keyword body = some (sectionBody keyword body) := by
  unfold sectionBody? sectionBody
  cases found : findSection keyword body with
  | none => rfl
  | some parts =>
      obtain ⟨before, inside⟩ := parts
      obtain ⟨place, rfl, read⟩ := firstMatch_eq_some found
      obtain ⟨head, rfl⟩ := readSectionHead_suffix read
      have whole : before ++ (head ++ inside) = before ++ head ++ inside := by
        rw [List.append_assoc]
      simp only
      rw [extractBlock?_eq_some, whole, String.utf8Len_append, Nat.add_sub_cancel,
        blockFrom_utf8Len]

theorem captionRegion?_eq_some (body : List Char) :
    captionRegion? body = some (TableDeclaration.captionRegion body) := by
  unfold captionRegion? TableDeclaration.captionRegion
  cases found : findSection fieldsKeyword body with
  | some parts =>
      obtain ⟨before, inside⟩ := parts
      obtain ⟨place, rfl, -⟩ := firstMatch_eq_some found
      simpa using slice?_append [] before place
  | none =>
      simp only
      split
      · have front := slice?_append [] (body.take TableDeclaration.captionReach)
          (body.drop TableDeclaration.captionReach)
        simpa using front
      · rename_i short
        rw [List.take_of_length_le (Nat.le_of_not_lt short)]

/-! ## Complete runs -/

/-- The loop comes to its end on a text in one way, and goes forward through the text. -/
structure DeclarationLoop.Completes {α : Type} (loop : DeclarationLoop α) (text : List Char)
    (iterations : List (Iteration α)) : Prop where
  runs : loop.Runs text 0 iterations
  unique : ∀ other, loop.Runs text 0 other → other = iterations
  advances : Advances text 0 iterations

theorem DeclarationLoop.Follows.exists_completes {α : Type} {loop : DeclarationLoop α}
    {split : List Char → List Char × List Char} {recogniser : Recogniser α}
    (follows : loop.Follows split recogniser) (text : List Char) :
    ∃ iterations, loop.Completes text iterations ∧
      iterations.map Iteration.declaration = recogniser.all text := by
  have afresh : StartsAfresh [] text := .inr rfl
  obtain ⟨iterations, runs, advances, declarations⟩ := follows.exists_run afresh
  exact ⟨iterations, ⟨runs, fun _ => runs.unique, advances⟩, declarations⟩

theorem declaredKeys_eq_mapIdx (common : NamePrefix) (body : List Char) :
    declaredKeys common body =
      (KeyDeclaration.recogniser.all (sectionBody keysKeyword body)).mapIdx
        fun position declaration => declaration.toKey common (position == 0) := by
  unfold declaredKeys
  cases KeyDeclaration.recogniser.all (sectionBody keysKeyword body) with
  | nil => rfl
  | cons first others =>
      have notPrimary : others.map (·.toKey common false) =
          others.mapIdx fun position declaration =>
            declaration.toKey common (position + 1 == 0) := by
        apply List.ext_getElem
        · simp
        · intro position _ _
          simp
      rw [List.mapIdx_cons, ← notPrimary]
      rfl

end Source

namespace TableObject

open TableAtlas.Source

/-- The loops over the tables of a text and over the fields and keys of a body come to
their ends, go forward, and never cut a text where it cannot be cut; and what they find
are the objects of the text, and the fields and keys of the body.  Nor does the search for
a caption cut where it cannot, nor the scanner, from whatever offset it starts. -/
theorem loops_complete (common : NamePrefix) (file text : String) (body : List Char) :
    (∃ iterations, tableLoop.Completes text.toList iterations ∧
      allIn common file text = iterations.map fun iteration =>
        (ofDeclaration common file iteration.declaration).linkFields common) ∧
    (∃ block iterations, sectionBody? fieldsKeyword body = some block ∧
      fieldLoop.Completes block iterations ∧
      storedFields common body = ((iterations.map Iteration.declaration).filter
        fun declaration => !declaration.fieldClass.isComputed).map (·.toField common)) ∧
    (∃ block iterations, sectionBody? keysKeyword body = some block ∧
      keyLoop.Completes block iterations ∧
      declaredKeys common body = (iterations.map Iteration.declaration).mapIdx
        fun position declaration => declaration.toKey common (position == 0)) ∧
    captionRegion? body = some (TableDeclaration.captionRegion body) ∧
    ∀ offset, extractBlock? body offset = some (blockFrom offset body) := by
  refine ⟨?_, ?_, ?_, captionRegion?_eq_some body, extractBlock?_eq_some body⟩
  · obtain ⟨iterations, completes, declarations⟩ :=
      tableLoop_follows.exists_completes text.toList
    refine ⟨iterations, completes, ?_⟩
    rw [allIn, ← declarations, List.map_map]
    rfl
  · obtain ⟨iterations, completes, declarations⟩ :=
      fieldLoop_follows.exists_completes (sectionBody fieldsKeyword body)
    refine ⟨_, iterations, sectionBody?_eq_some fieldsKeyword body, completes, ?_⟩
    rw [storedFields, ← declarations]
  · obtain ⟨iterations, completes, declarations⟩ :=
      keyLoop_follows.exists_completes (sectionBody keysKeyword body)
    refine ⟨_, iterations, sectionBody?_eq_some keysKeyword body, completes, ?_⟩
    rw [declaredKeys_eq_mapIdx, ← declarations]

end TableObject

end TableAtlas
