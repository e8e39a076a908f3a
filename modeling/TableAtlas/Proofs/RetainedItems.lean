import Mathlib.Data.Finset.Insert
import TableAtlas.Proofs.DistinctItems

/-!
# Retained items

Duplicates are dropped in two ways: from a finished list, by a pass that inserts
each key into a set, and while a list is built, by asking item by item
whether its key is new.  Both passes carry a set from item to item that holds the
keys of the items passed.  So they retain the same items, which are those of
`distinctBy`.
-/

namespace TableAtlas

/-- The items for which a test answers true; the test carries a state from item to item. -/
def retain {α σ : Type} (test : σ → α → Bool × σ) (state : σ) : List α → List α
  | [] => []
  | item :: rest =>
      if (test state item).1 then item :: retain test (test state item).2 rest
      else retain test (test state item).2 rest

/-- Inserts a key into a set, and tells whether it was new. -/
def insertKey {κ : Type} [DecidableEq κ] (seen : Finset κ) (key : κ) : Bool × Finset κ :=
  (decide (key ∉ seen), insert key seen)

/-- The items whose key is new when it is inserted into a set that is empty at first. -/
def retainDistinct {α κ : Type} [DecidableEq κ] (key : α → κ) (items : List α) : List α :=
  retain (fun seen item => insertKey seen (key item)) ∅ items

/-- The items for whose keys, asked for one after the other, the answer is that they are new. -/
def acceptedItems {α κ : Type} [DecidableEq κ] (key : α → κ) (items : List α) : List α :=
  ((items.zip (SeenKeys.none.answers (items.map key))).filter (·.2)).map (·.1)

/-- A part of a list that has the first item of each key and no other. -/
structure IsDistinctPart {α κ : Type} [DecidableEq κ] (key : α → κ) (items kept : List α) :
    Prop where
  sublist : kept.Sublist items
  distinct : kept.Pairwise fun item other => key item ≠ key other
  firsts : ∀ item ∈ items,
    ∃ first ∈ kept, items.find? (fun other => key other == key item) = some first

section Passes

variable {α κ : Type}

/-- Two tests that answer alike in related states, and keep the states related,
retain the same items. -/
theorem retain_eq_retain {σ τ : Type} {test : σ → α → Bool × σ} {other : τ → α → Bool × τ}
    (related : σ → τ → Prop)
    (sameAnswer : ∀ {state otherState}, related state otherState → ∀ item,
      (test state item).1 = (other otherState item).1)
    (staysRelated : ∀ {state otherState}, related state otherState → ∀ item,
      related (test state item).2 (other otherState item).2)
    {state : σ} {otherState : τ} (start : related state otherState) (items : List α) :
    retain test state items = retain other otherState items := by
  induction items generalizing state otherState with
  | nil => rfl
  | cons item items induction =>
      rw [retain, retain, sameAnswer start item, induction (staysRelated start item)]

/-- Whether a set and a list of keys hold the same keys. -/
def HoldsKeys (set : Finset κ) (seen : SeenKeys κ) : Prop :=
  ∀ sought, sought ∈ set ↔ sought ∈ seen.keys

theorem HoldsKeys.empty : HoldsKeys (∅ : Finset κ) SeenKeys.none := by
  intro sought
  simp [SeenKeys.none]

variable [DecidableEq κ]

namespace SeenKeys

theorem select_eq_retain (key : α → κ) (seen : SeenKeys κ) (items : List α) :
    seen.select key items = retain (fun seen item => seen.accept (key item)) seen items := by
  induction items generalizing seen with
  | nil => rfl
  | cons item items induction =>
      rw [select, retain, induction]

theorem filter_answers (key : α → κ) (seen : SeenKeys κ) (items : List α) :
    ((items.zip (seen.answers (items.map key))).filter (·.2)).map (·.1) =
      seen.select key items := by
  induction items generalizing seen with
  | nil => rfl
  | cons item items induction =>
      rw [List.map_cons, answers, List.zip_cons_cons, select, ← induction]
      cases (seen.accept (key item)).1 with
      | true => rfl
      | false => rfl

theorem mem_keys_accept {seen : SeenKeys κ} {added sought : κ} :
    sought ∈ (seen.accept added).2.keys ↔ sought = added ∨ sought ∈ seen.keys := by
  by_cases repeated : added ∈ seen.keys
  · rw [accept_of_mem repeated]
    constructor
    · exact .inr
    · rintro (rfl | earlier)
      · exact repeated
      · exact earlier
  · rw [accept_of_not_mem repeated, List.mem_cons]

end SeenKeys

theorem acceptedItems_eq_distinctBy (key : α → κ) (items : List α) :
    acceptedItems key items = distinctBy key items := by
  rw [acceptedItems, SeenKeys.filter_answers, SeenKeys.select_none]

section Insertion

variable {set : Finset κ} {seen : SeenKeys κ}

theorem HoldsKeys.sameAnswer (same : HoldsKeys set seen) (added : κ) :
    (insertKey set added).1 = (seen.accept added).1 := by
  by_cases repeated : added ∈ seen.keys
  · rw [SeenKeys.accept_of_mem repeated]
    exact decide_eq_false fun new => new ((same added).mpr repeated)
  · rw [SeenKeys.accept_of_not_mem repeated]
    exact decide_eq_true fun known => repeated ((same added).mp known)

theorem HoldsKeys.insert (same : HoldsKeys set seen) (added : κ) :
    HoldsKeys (insertKey set added).2 (seen.accept added).2 := by
  intro sought
  rw [SeenKeys.mem_keys_accept, insertKey, Finset.mem_insert, same sought]

end Insertion

theorem retainDistinct_eq_distinctBy (key : α → κ) (items : List α) :
    retainDistinct key items = distinctBy key items := by
  rw [← SeenKeys.select_none, SeenKeys.select_eq_retain, retainDistinct]
  apply retain_eq_retain HoldsKeys
  · intro set seen same item
    exact same.sameAnswer (key item)
  · intro set seen same item
    exact same.insert (key item)
  · exact .empty

end Passes

/-! ## Laws -/

section Laws

variable {α κ : Type} [DecidableEq κ]

theorem isDistinctPart_distinctBy (key : α → κ) (items : List α) :
    IsDistinctPart key items (distinctBy key items) := by
  refine ⟨distinctBy_sublist key items, pairwise_distinctBy key items, ?_⟩
  intro item member
  have found : (items.find? fun other => key other == key item).isSome = true :=
    List.find?_isSome.mpr ⟨item, member, by simp⟩
  obtain ⟨first, isFirst⟩ := Option.isSome_iff_exists.mp found
  refine ⟨first, ?_, isFirst⟩
  rw [← find?_distinctBy] at isFirst
  exact List.mem_of_find?_eq_some isFirst

/-- Of a list behind another one, the items stay whose keys the other one does not have. -/
theorem distinctBy_append (key : α → κ) (items others : List α) :
    distinctBy key (items ++ others) =
      distinctBy key items ++
        (distinctBy key others).filter fun other => decide (key other ∉ items.map key) := by
  induction items with
  | nil =>
      have keepsAll : (distinctBy key others).filter
          (fun other => decide (key other ∉ ([] : List α).map key)) = distinctBy key others := by
        apply List.filter_eq_self.mpr
        intro other _
        simp
      rw [keepsAll]
      rfl
  | cons first items induction =>
      rw [List.cons_append, distinctBy, distinctBy, induction, List.filter_append,
        List.filter_filter, List.cons_append]
      congr 2
      apply List.filter_congr
      intro other _
      simp [not_or]

theorem distinctBy_append_congr {key : α → κ} {items itemsToo : List α} (others : List α)
    (same : distinctBy key items = distinctBy key itemsToo) :
    distinctBy key (items ++ others) = distinctBy key (itemsToo ++ others) := by
  have sameKeys : ∀ sought, sought ∈ items.map key ↔ sought ∈ itemsToo.map key := by
    intro sought
    rw [← mem_map_distinctBy, same, mem_map_distinctBy]
  rw [distinctBy_append, distinctBy_append, same]
  congr 1
  apply List.filter_congr
  intro other _
  exact decide_eq_decide.mpr (not_congr (sameKeys (key other)))

/-- Both ways to drop duplicates retain the first item of each key and no other.
Whatever is dropped early would be dropped later. -/
theorem acceptedItems_eq_retainDistinct (key : α → κ) (items : List α) :
    acceptedItems key items = retainDistinct key items ∧
      distinctBy key items = retainDistinct key items ∧
      IsDistinctPart key items (retainDistinct key items) ∧
      retainDistinct key (retainDistinct key items) = retainDistinct key items ∧
      ∀ others, retainDistinct key (retainDistinct key items ++ others) =
        retainDistinct key (items ++ others) := by
  rw [retainDistinct_eq_distinctBy, retainDistinct_eq_distinctBy]
  have again : distinctBy key (distinctBy key items) = distinctBy key items :=
    distinctBy_eq_self_iff.mpr (pairwise_distinctBy key items)
  refine ⟨acceptedItems_eq_distinctBy key items, rfl, isDistinctPart_distinctBy key items,
    again, ?_⟩
  intro others
  rw [retainDistinct_eq_distinctBy, retainDistinct_eq_distinctBy]
  exact distinctBy_append_congr others again

end Laws

end TableAtlas
