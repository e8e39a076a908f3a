import Mathlib.Data.String.Basic
import TableAtlas.Proofs.BlockBodies

/-!
# Byte offsets

A text can be cut at the byte offsets that stand between two of its characters.
The brace scanner looks at single bytes and returns offsets.  No byte of a
character beyond ASCII is a quote, a slash, a brace or a line break, so among the
bytes of a text the scanner finds what it finds among the characters, and the
text can be cut where it stops.
-/

namespace TableAtlas.Source

open TableAtlas.Text

/-! ## Cuts -/

/-- Cuts a text at a byte offset.  This fails if the offset lies beyond the text or
inside a character. -/
def cutAt? : Nat → List Char → Option (List Char × List Char)
  | 0, text => some ([], text)
  | _ + 1, [] => none
  | offset + 1, c :: rest =>
      if offset + 1 < c.utf8Size then none
      else (cutAt? (offset + 1 - c.utf8Size) rest).map (prepending [c])

/-- The part of a text between two byte offsets.  This fails if the text cannot be cut
at both of them, or if they are in the wrong order. -/
def slice? (text : List Char) (first last : Nat) : Option (List Char) := do
  if last < first then none
  else
    let (_, rest) ← cutAt? first text
    let (part, _) ← cutAt? (last - first) rest
    return part

section Cuts

variable {text before after part : List Char}

theorem cutAt?_utf8Len (before after : List Char) :
    cutAt? (String.utf8Len before) (before ++ after) = some (before, after) := by
  induction before with
  | nil => rw [String.utf8Len_nil, cutAt?, List.nil_append]
  | cons c before induction =>
      obtain ⟨size, isSize⟩ := Nat.exists_eq_add_one.mpr c.utf8Size_pos
      have offset : String.utf8Len (c :: before) = String.utf8Len before + size + 1 := by
        rw [String.utf8Len_cons, isSize, Nat.add_assoc]
      have left : String.utf8Len before + size + 1 - c.utf8Size = String.utf8Len before := by
        omega
      rw [offset, List.cons_append, cutAt?, if_neg (by omega), left, induction, Option.map_some,
        prepending_mk, List.singleton_append]

theorem cutAt?_eq_some_iff {offset : Nat} :
    cutAt? offset text = some (before, after) ↔
      text = before ++ after ∧ String.utf8Len before = offset := by
  constructor
  · intro cut
    induction text generalizing offset before with
    | nil =>
        cases offset with
        | zero =>
            simp only [cutAt?, Option.some.injEq, Prod.mk.injEq] at cut
            obtain ⟨rfl, rfl⟩ := cut
            exact ⟨rfl, rfl⟩
        | succ offset => simp [cutAt?] at cut
    | cons c rest induction =>
        cases offset with
        | zero =>
            simp only [cutAt?, Option.some.injEq, Prod.mk.injEq] at cut
            obtain ⟨rfl, rfl⟩ := cut
            exact ⟨rfl, rfl⟩
        | succ offset =>
            simp only [cutAt?] at cut
            split at cut
            · exact absurd cut (by simp)
            · rename_i fits
              obtain ⟨front, inner, rfl⟩ := map_prepending_eq_some_iff.mp cut
              obtain ⟨rfl, size⟩ := induction inner
              refine ⟨rfl, ?_⟩
              rw [List.singleton_append, String.utf8Len_cons]
              omega
  · rintro ⟨rfl, rfl⟩
    exact cutAt?_utf8Len before after

theorem slice?_eq_some_iff {first last : Nat} :
    slice? text first last = some part ↔
      ∃ before after, text = before ++ (part ++ after) ∧ String.utf8Len before = first ∧
        first + String.utf8Len part = last := by
  simp only [slice?]
  split
  · rename_i wrongOrder
    simp only [reduceCtorEq, false_iff, not_exists, not_and]
    intro _ _ _ _ isLast
    omega
  · rename_i ordered
    simp only [Option.bind_eq_bind, Option.bind_eq_some_iff, Prod.exists, cutAt?_eq_some_iff,
      Option.pure_def, Option.some.injEq]
    constructor
    · rintro ⟨before, rest, ⟨rfl, isFirst⟩, found, after, ⟨rfl, size⟩, rfl⟩
      exact ⟨before, after, rfl, isFirst, by omega⟩
    · rintro ⟨before, after, rfl, isFirst, isLast⟩
      exact ⟨before, part ++ after, ⟨rfl, isFirst⟩, part, after, ⟨rfl, by omega⟩, rfl⟩

theorem slice?_append (before part after : List Char) :
    slice? (before ++ (part ++ after)) (String.utf8Len before)
      (String.utf8Len before + String.utf8Len part) = some part :=
  slice?_eq_some_iff.mpr ⟨before, after, rfl, rfl, rfl⟩

theorem blockFrom_of_cutAt? {offset : Nat} (text : List Char) :
    blockFrom offset text =
      ((cutAt? offset text).map fun (_, rest) => (splitBlock rest).1).getD [] := by
  cases cut : cutAt? offset text with
  | some parts =>
      obtain ⟨before, rest⟩ := parts
      obtain ⟨rfl, rfl⟩ := cutAt?_eq_some_iff.mp cut
      exact blockFrom_utf8Len before rest
  | none =>
      induction text generalizing offset with
      | nil => rfl
      | cons c rest induction =>
          cases offset with
          | zero => simp [cutAt?] at cut
          | succ offset =>
              simp only [cutAt?] at cut
              rw [blockFrom, if_neg (Nat.succ_ne_zero offset)]
              split
              · rfl
              · rename_i fits
                rw [if_neg fits, Option.map_eq_none_iff] at cut
                exact induction cut

end Cuts

/-! ## Scanning bytes -/

/-- The bytes of a text, each as the character with its code. -/
def byteChars (text : List Char) : List Char :=
  text.flatMap fun c => (String.utf8EncodeChar c).map Char.ofUInt8

@[simp] theorem byteChars_append (text other : List Char) :
    byteChars (text ++ other) = byteChars text ++ byteChars other :=
  List.flatMap_append

theorem byteChars_cons (c : Char) (text : List Char) :
    byteChars (c :: text) = (String.utf8EncodeChar c).map Char.ofUInt8 ++ byteChars text :=
  List.flatMap_cons

theorem length_byteChars (text : List Char) :
    (byteChars text).length = String.utf8Len text := by
  induction text with
  | nil => rfl
  | cons c text induction =>
      rw [byteChars_cons, List.length_append, List.length_map, String.length_utf8EncodeChar,
        induction, String.utf8Len_cons, Nat.add_comm]

theorem toNat_ofUInt8 (byte : UInt8) : (Char.ofUInt8 byte).toNat = byte.toNat :=
  rfl

theorem byteChars_of_ascii {c : Char} (ascii : c.toNat < 128) :
    (String.utf8EncodeChar c).map Char.ofUInt8 = [c] := by
  have single : c.utf8Size = 1 := by
    rw [Char.utf8Size_eq_one_iff, UInt32.le_iff_toNat_le]
    exact Nat.le_of_lt_succ ascii
  rw [String.utf8EncodeChar_eq_singleton single, List.map_singleton]
  congr 1
  apply Char.toNat_inj.mp
  rw [toNat_ofUInt8]
  exact Nat.mod_eq_of_lt (ascii.trans (by decide))

theorem byteChars_of_high {c : Char} (high : 128 ≤ c.toNat) :
    ∀ d ∈ (String.utf8EncodeChar c).map Char.ofUInt8, 128 ≤ d.toNat := by
  have code : c.val.toNat = c.toNat := rfl
  have notAscii : ¬c.toNat ≤ 127 := by omega
  have lower : ∀ n : Nat, 128 ≤ n % 256 → 128 ≤ (Char.ofUInt8 (UInt8.ofNat n)).toNat :=
    fun _ bound => bound
  simp only [String.utf8EncodeChar, code, notAscii, if_false]
  split_ifs <;>
    simp only [List.map_cons, List.map_nil, List.forall_mem_cons, List.not_mem_nil,
      false_implies, implies_true, and_true]
  · exact ⟨lower _ (by omega), lower _ (by omega)⟩
  · exact ⟨lower _ (by omega), lower _ (by omega), lower _ (by omega)⟩
  · exact ⟨lower _ (by omega), lower _ (by omega), lower _ (by omega), lower _ (by omega)⟩

namespace Context

/-- Whether the string that the context stands in, if any, is opened by a quote in ASCII. -/
def HasAsciiQuote : Context → Prop
  | string quote => quote.toNat < 128
  | _ => True

/-- The context behind a character that only separates slashes. -/
def separated : Context → Context
  | slash => code
  | other => other

theorem hasAsciiQuote_code : HasAsciiQuote code :=
  trivial

variable {context : Context}

theorem separated_separated (context : Context) : context.separated.separated = context.separated := by
  cases context <;> rfl

theorem HasAsciiQuote.separated (ascii : context.HasAsciiQuote) :
    context.separated.HasAsciiQuote := by
  cases context with
  | string quote => exact ascii
  | code => trivial
  | slash => trivial
  | comment => trivial

theorem hasAsciiQuote_next (ascii : context.HasAsciiQuote) (c : Char) :
    (context.next c).HasAsciiQuote := by
  have behindCode : (afterCode c).HasAsciiQuote := by
    unfold afterCode
    split
    · rename_i isQuote
      have below : c.toNat < 128 := by rcases isQuote with rfl | rfl <;> decide
      exact below
    · split <;> trivial
  cases context with
  | code => exact behindCode
  | slash =>
      simp only [next]
      split
      · trivial
      · exact behindCode
  | string quote =>
      simp only [next]
      split
      · trivial
      · exact ascii
  | comment =>
      simp only [next]
      split <;> trivial

theorem next_of_high (ascii : context.HasAsciiQuote) {c : Char} (high : 128 ≤ c.toNat) :
    context.next c = context.separated := by
  have different : ∀ {d : Char}, d.toNat < 128 → c ≠ d := by
    rintro d below rfl
    omega
  have behindCode : afterCode c = code := by
    have notQuote : ¬(c = '\'' ∨ c = '"') :=
      not_or.mpr ⟨different (by decide), different (by decide)⟩
    rw [afterCode, if_neg notQuote, if_neg (different (by decide))]
  cases context with
  | code => exact behindCode
  | slash => rw [next, if_neg (different (by decide)), behindCode, Context.separated]
  | string quote => exact if_neg (different ascii)
  | comment => exact if_neg (different (by decide))

end Context

section Scanning

variable {context : Context} {depth : Nat}

theorem closeBlock_of_high (ascii : context.HasAsciiQuote) {c : Char} (high : 128 ≤ c.toNat)
    (rest : List Char) :
    closeBlock context depth (c :: rest) =
      (closeBlock context.separated depth rest).map (prepending [c]) := by
  rw [← Context.next_of_high ascii high]
  apply closeBlock_skip
  rintro -
  constructor <;>
  · rintro rfl
    exact absurd high (by decide)

theorem closeBlock_append_of_high (ascii : context.HasAsciiQuote) {run : List Char}
    (nonempty : run ≠ []) (high : ∀ c ∈ run, 128 ≤ c.toNat) (rest : List Char) :
    closeBlock context depth (run ++ rest) =
      (closeBlock context.separated depth rest).map (prepending run) := by
  induction run generalizing context with
  | nil => exact absurd rfl nonempty
  | cons c run induction =>
      obtain ⟨first, others⟩ := List.forall_mem_cons.mp high
      rw [List.cons_append, closeBlock_of_high ascii first]
      cases run with
      | nil => rfl
      | cons d run =>
          rw [induction ascii.separated (List.cons_ne_nil d run) others,
            Context.separated_separated, map_prepending_prepending, List.singleton_append]

/-- The bytes of both parts of a split text. -/
def splitBytes (split : List Char × List Char) : List Char × List Char :=
  (byteChars split.1, byteChars split.2)

theorem map_splitBytes_map_prepending (front : List Char)
    (result : Option (List Char × List Char)) :
    (result.map (prepending front)).map splitBytes =
      (result.map splitBytes).map (prepending (byteChars front)) := by
  cases result <;> simp [splitBytes, prepending]

/-- Among the bytes of a text, the scanner finds what it finds among the characters. -/
theorem closeBlock_byteChars (ascii : context.HasAsciiQuote) (text : List Char) :
    closeBlock context depth (byteChars text) = (closeBlock context depth text).map splitBytes := by
  induction text generalizing context depth with
  | nil => rfl
  | cons c rest induction =>
      rcases Nat.lt_or_ge c.toNat 128 with isAscii | high
      · have bytes : byteChars [c] = [c] := by
          rw [byteChars_cons, byteChars_of_ascii isAscii]
          rfl
        have wholeBytes : byteChars (c :: rest) = c :: byteChars rest := by
          rw [byteChars_cons, byteChars_of_ascii isAscii, List.singleton_append]
        have extended : ∀ {inner : Context} {depth : Nat}, inner.HasAsciiQuote →
            (closeBlock inner depth (byteChars rest)).map (prepending [c]) =
              ((closeBlock inner depth rest).map (prepending [c])).map splitBytes := by
          intro inner depth innerAscii
          rw [map_splitBytes_map_prepending, bytes, induction innerAscii]
        rw [wholeBytes]
        by_cases skipped : context.countsBraces = true → c ≠ '{' ∧ c ≠ '}'
        · rw [closeBlock_skip skipped, closeBlock_skip skipped,
            extended (Context.hasAsciiQuote_next ascii c)]
        · simp only [Classical.not_imp, not_and_or, not_not] at skipped
          obtain ⟨counts, rfl | rfl⟩ := skipped
          · rw [closeBlock_opening counts, closeBlock_opening counts, extended Context.hasAsciiQuote_code]
          · cases depth with
            | zero =>
                rw [closeBlock_end counts, closeBlock_end counts]
                rfl
            | succ depth =>
                rw [closeBlock_closing counts, closeBlock_closing counts,
                  extended Context.hasAsciiQuote_code]
      · have someBytes : (String.utf8EncodeChar c).map Char.ofUInt8 ≠ [] := by
          simp [String.utf8EncodeChar_ne_nil]
        rw [byteChars_cons, closeBlock_append_of_high ascii someBytes (byteChars_of_high high),
          closeBlock_of_high ascii high, map_splitBytes_map_prepending, induction ascii.separated,
          byteChars_cons]
        simp [byteChars]

end Scanning

/-! ## Blocks at offsets -/

/-- The block that starts at a byte offset of a text, with its closing brace sought among
the bytes.  This fails if the text cannot be cut where the block ends. -/
def extractBlock? (text : List Char) (start : Nat) : Option (List Char) :=
  if (cutAt? start text).isNone then some []
  else
    match closeBlock .code 0 ((byteChars text).drop start) with
    | some (body, _) => slice? text start (start + body.length)
    | none => slice? text start (String.utf8Len text)

/-- At every offset, in the text or not, the text can be cut where the block ends. -/
theorem extractBlock?_eq_some (text : List Char) (start : Nat) :
    extractBlock? text start = some (blockFrom start text) := by
  rw [extractBlock?, blockFrom_of_cutAt?]
  cases cut : cutAt? start text with
  | none => rfl
  | some parts =>
      obtain ⟨before, rest⟩ := parts
      obtain ⟨rfl, rfl⟩ := cutAt?_eq_some_iff.mp cut
      have bytes : (byteChars (before ++ rest)).drop (String.utf8Len before) = byteChars rest := by
        rw [byteChars_append, ← length_byteChars, List.drop_left]
      rw [bytes, closeBlock_byteChars Context.hasAsciiQuote_code]
      simp only [Option.isNone_some, Bool.false_eq_true, if_false, Option.map_some,
        Option.getD_some, splitBlock]
      cases closed : closeBlock .code 0 rest with
      | none =>
          have whole := slice?_append before rest []
          rw [List.append_nil] at whole
          rw [String.utf8Len_append]
          exact whole
      | some found =>
          obtain ⟨body, after⟩ := found
          rw [closeBlock_eq_append closed]
          simpa [splitBytes, length_byteChars] using slice?_append before body ('}' :: after)

example : extractBlock? ['{', 'é', '}'] 1 = some ['é'] ∧ extractBlock? ['{', 'é'] 1 = some ['é'] ∧
    extractBlock? ['{', 'é', '}'] 2 = some [] := by
  decide

end TableAtlas.Source
