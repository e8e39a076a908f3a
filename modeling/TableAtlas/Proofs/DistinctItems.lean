import TableAtlas.Schema.Distinct

/-!
# First items

The items that `distinctBy` keeps are items of the list in their order, no two of
them have the same key, and for each key that occurs the first item with it is
kept.  Accepting one key at a time keeps the same items, and so does asking at
each position whether an earlier item has the key.
-/

namespace TableAtlas

theorem find?_filter_eq {α : Type} {kind sought : α → Bool} (both : α → Bool)
    (items : List α) (conjunction : ∀ item, both item = (kind item && sought item)) :
    (items.filter kind).find? sought = items.find? both := by
  have same : both = fun item => decide (kind item = true ∧ sought item = true) := by
    funext item
    simp [conjunction]
  rw [List.find?_filter, same]

theorem filter_filter_eq {α : Type} {kind sought : α → Bool} (items : List α)
    (ofKind : ∀ item ∈ items, sought item = true → kind item = true) :
    (items.filter kind).filter sought = items.filter sought := by
  rw [List.filter_filter]
  apply List.filter_congr
  intro item member
  by_cases isSought : sought item = true
  · rw [isSought, ofKind item member isSought]
    rfl
  · simp [isSought]

/-! ## What is kept -/

section Kept

variable {α κ μ : Type} [DecidableEq κ] [DecidableEq μ] {key : α → κ} {items : List α}

theorem distinctBy_sublist (key : α → κ) (items : List α) :
    (distinctBy key items).Sublist items := by
  induction items with
  | nil => exact .slnil
  | cons first items induction => exact (List.filter_sublist.trans induction).cons_cons first

theorem mem_of_mem_distinctBy {item : α} (member : item ∈ distinctBy key items) : item ∈ items :=
  (distinctBy_sublist key items).subset member

theorem pairwise_distinctBy (key : α → κ) (items : List α) :
    (distinctBy key items).Pairwise fun item other => key item ≠ key other := by
  induction items with
  | nil => exact .nil
  | cons first items induction =>
      apply List.Pairwise.cons
      · intro later member
        have different : key later ≠ key first := by
          simpa using (List.mem_filter.mp member).2
        exact different.symm
      · exact induction.filter _

theorem eq_of_mem_distinctBy {item other : α} (member : item ∈ distinctBy key items)
    (otherMember : other ∈ distinctBy key items) (same : key item = key other) : item = other := by
  have different := pairwise_distinctBy key items
  have agree : ∀ ⦃left⦄, left ∈ distinctBy key items → ∀ ⦃right⦄, right ∈ distinctBy key items →
      key left = key right → left = right := by
    apply List.Pairwise.forall_of_forall_of_flip
    · intro item _ _
      rfl
    · exact different.imp fun differ same => absurd same differ
    · exact different.imp fun differ same => absurd same.symm differ
  exact agree member otherMember same

/-- Of the items with one key, only the first is kept. -/
theorem filter_key_distinctBy (key : α → κ) (sought : κ) (items : List α) :
    (distinctBy key items).filter (fun item => key item = sought) =
      (items.find? fun item => key item = sought).toList := by
  induction items with
  | nil => rfl
  | cons first items induction =>
      by_cases found : key first = sought
      · have others : ((distinctBy key items).filter fun item =>
            decide (key item ≠ key first)).filter (fun item => key item = sought) = [] := by
          rw [List.filter_filter, List.filter_eq_nil_iff]
          intro item _
          simp [found]
        rw [distinctBy, List.filter_cons_of_pos (by simpa using found), others,
          List.find?_cons_of_pos (by simpa using found)]
        rfl
      · -- The items dropped after the first one have its key, so none of them is sought.
        have others : ((distinctBy key items).filter fun item =>
            decide (key item ≠ key first)).filter (fun item => key item = sought) =
              (distinctBy key items).filter fun item => key item = sought := by
          apply filter_filter_eq
          intro item _ isSought
          have same : key item = sought := of_decide_eq_true isSought
          exact decide_eq_true (same ▸ Ne.symm found)
        rw [distinctBy, List.filter_cons_of_neg (by simpa using found), others, induction,
          List.find?_cons_of_neg (by simpa using found)]

theorem find?_distinctBy (key : α → κ) (sought : κ) (items : List α) :
    (distinctBy key items).find? (fun item => key item == sought) =
      items.find? (fun item => key item == sought) := by
  have firstOnly : (distinctBy key items).find? (fun item => key item = sought) =
      (items.find? fun item => key item = sought).toList.head? := by
    rw [← filter_key_distinctBy, List.head?_filter]
  refine firstOnly.trans ?_
  cases items.find? fun item => key item = sought with
  | none => rfl
  | some first => rfl

theorem mem_map_distinctBy {sought : κ} :
    sought ∈ (distinctBy key items).map key ↔ sought ∈ items.map key := by
  constructor
  · intro member
    obtain ⟨item, kept, rfl⟩ := List.mem_map.mp member
    exact List.mem_map_of_mem (mem_of_mem_distinctBy kept)
  · intro member
    obtain ⟨item, present, named⟩ := List.mem_map.mp member
    have found : ((distinctBy key items).find? fun other => key other == sought).isSome = true := by
      rw [find?_distinctBy]
      exact List.find?_isSome.mpr ⟨item, present, by simp [named]⟩
    obtain ⟨first, kept, same⟩ := List.find?_isSome.mp found
    exact List.mem_map.mpr ⟨first, kept, by simpa using same⟩

theorem exists_mem_distinctBy (key : α → κ) {item : α} (member : item ∈ items) :
    ∃ kept ∈ distinctBy key items, key kept = key item := by
  have present : key item ∈ items.map key := List.mem_map_of_mem member
  exact List.mem_map.mp (mem_map_distinctBy.mpr present)

theorem nodup_map_distinctBy (key : α → κ) (items : List α) :
    ((distinctBy key items).map key).Nodup :=
  List.pairwise_map.mpr (pairwise_distinctBy key items)

theorem distinctBy_eq_self_iff :
    distinctBy key items = items ↔ items.Pairwise fun item other => key item ≠ key other := by
  constructor
  · intro kept
    have different := pairwise_distinctBy key items
    rwa [kept] at different
  · intro different
    induction items with
    | nil => rfl
    | cons first items induction =>
        obtain ⟨fromFirst, later⟩ := List.pairwise_cons.mp different
        have dropsNone : items.filter (fun other => decide (key other ≠ key first)) = items := by
          apply List.filter_eq_self.mpr
          intro other member
          exact decide_eq_true (fromFirst other member).symm
        rw [distinctBy, induction later, dropsNone]

/-- Keys that tell the same items apart keep the same items. -/
theorem distinctBy_congr {otherKey : α → μ}
    (agree : ∀ item ∈ items, ∀ other ∈ items, key item = key other ↔ otherKey item = otherKey other) :
    distinctBy key items = distinctBy otherKey items := by
  induction items with
  | nil => rfl
  | cons first items induction =>
      have later : distinctBy key items = distinctBy otherKey items :=
        induction fun item member other otherMember =>
          agree item (List.mem_cons_of_mem first member) other (List.mem_cons_of_mem first otherMember)
      rw [distinctBy, distinctBy, later]
      apply congrArg
      apply List.filter_congr
      intro item kept
      have member : item ∈ items := mem_of_mem_distinctBy kept
      rw [decide_eq_decide]
      exact not_congr (agree item (List.mem_cons_of_mem first member) first (List.mem_cons_self ..))

/-! ## Filters and coarser keys -/

/-- All items of certain keys may as well be left out before. -/
theorem filter_distinctBy {keep : α → Bool}
    (ofKey : ∀ item other, key item = key other → keep item = keep other) (items : List α) :
    (distinctBy key items).filter keep = distinctBy key (items.filter keep) := by
  induction items with
  | nil => rfl
  | cons first items induction =>
      by_cases kept : keep first = true
      · have others : ((distinctBy key items).filter fun item =>
            decide (key item ≠ key first)).filter keep =
              (distinctBy key (items.filter keep)).filter fun item =>
                decide (key item ≠ key first) := by
          rw [← induction, List.filter_filter, List.filter_filter]
          apply List.filter_congr
          intro item _
          exact Bool.and_comm ..
        rw [distinctBy, List.filter_cons_of_pos kept, List.filter_cons_of_pos kept, others,
          distinctBy]
      · have others : ((distinctBy key items).filter fun item =>
            decide (key item ≠ key first)).filter keep =
              (distinctBy key items).filter keep := by
          apply filter_filter_eq
          intro item _ isKept
          have different : key item ≠ key first := by
            intro same
            exact kept (ofKey item first same ▸ isKept)
          exact decide_eq_true different
        rw [distinctBy, List.filter_cons_of_neg kept, List.filter_cons_of_neg kept, others,
          induction]

/-- Items that a finer key does not tell apart need not be told apart first. -/
theorem distinctBy_distinctBy {coarse : α → μ}
    (determined : ∀ item other, key item = key other → coarse item = coarse other)
    (items : List α) :
    distinctBy coarse (distinctBy key items) = distinctBy coarse items := by
  induction items with
  | nil => rfl
  | cons first items induction =>
      have ofCoarse : ∀ item other : α, coarse item = coarse other →
          decide (coarse item ≠ coarse first) = decide (coarse other ≠ coarse first) := by
        intro item other same
        rw [same]
      have finer : ((distinctBy key items).filter fun item => decide (key item ≠ key first)).filter
          (fun item => decide (coarse item ≠ coarse first)) =
            (distinctBy key items).filter fun item => decide (coarse item ≠ coarse first) := by
        apply filter_filter_eq
        intro item _ different
        have different : coarse item ≠ coarse first := by simpa using different
        exact decide_eq_true fun same => different (determined item first same)
      have others : (distinctBy coarse ((distinctBy key items).filter fun item =>
          decide (key item ≠ key first))).filter
            (fun item => decide (coarse item ≠ coarse first)) =
              (distinctBy coarse items).filter fun item => decide (coarse item ≠ coarse first) := by
        rw [filter_distinctBy ofCoarse, finer, ← filter_distinctBy ofCoarse, induction]
      rw [distinctBy, distinctBy, others, distinctBy]

/-- A coarser key keeps fewer items, unless it tells all items apart that the finer
key does. -/
theorem distinctBy_eq_distinctBy_iff {coarse : α → μ}
    (determined : ∀ item other, key item = key other → coarse item = coarse other) :
    distinctBy coarse items = distinctBy key items ↔
      ∀ item ∈ items, ∀ other ∈ items, coarse item = coarse other → key item = key other := by
  constructor
  · intro agree item member other otherMember same
    obtain ⟨kept, keptMember, ofItem⟩ := exists_mem_distinctBy key member
    obtain ⟨otherKept, otherKeptMember, ofOther⟩ := exists_mem_distinctBy key otherMember
    have sameKept : coarse kept = coarse otherKept := by
      rw [determined kept item ofItem, same, determined otherKept other ofOther]
    have isKept : kept = otherKept :=
      eq_of_mem_distinctBy (agree ▸ keptMember) (agree ▸ otherKeptMember) sameKept
    rw [← ofItem, isKept, ofOther]
  · intro separates
    rw [← distinctBy_distinctBy determined]
    apply distinctBy_eq_self_iff.mpr
    apply (pairwise_distinctBy key items).imp_of_mem
    intro item other member otherMember different same
    exact different (separates item (mem_of_mem_distinctBy member) other
      (mem_of_mem_distinctBy otherMember) same)

end Kept

/-! ## One key at a time -/

namespace SeenKeys

variable {α κ : Type} [DecidableEq κ] {key : α → κ} {seen : SeenKeys κ}

theorem accept_of_mem {item : κ} (repeated : item ∈ seen.keys) :
    seen.accept item = (false, seen) := by
  rw [accept, if_pos repeated]

theorem accept_of_not_mem {item : κ} (new : item ∉ seen.keys) :
    seen.accept item = (true, ⟨item :: seen.keys⟩) := by
  rw [accept, if_neg new]

theorem select_cons_of_mem {item : α} (repeated : key item ∈ seen.keys) (items : List α) :
    seen.select key (item :: items) = seen.select key items := by
  simp [select, accept_of_mem repeated]

theorem select_cons_of_not_mem {item : α} (new : key item ∉ seen.keys) (items : List α) :
    seen.select key (item :: items) =
      item :: (⟨key item :: seen.keys⟩ : SeenKeys κ).select key items := by
  simp [select, accept_of_not_mem new]

theorem select_eq_filter (key : α → κ) (seen : SeenKeys κ) (items : List α) :
    seen.select key items =
      (distinctBy key items).filter fun item => decide (key item ∉ seen.keys) := by
  induction items generalizing seen with
  | nil => rfl
  | cons first items induction =>
      by_cases repeated : key first ∈ seen.keys
      · rw [select_cons_of_mem repeated, induction, distinctBy,
          List.filter_cons_of_neg (by simp [repeated])]
        symm
        apply filter_filter_eq
        intro item _ new
        have new : key item ∉ seen.keys := by simpa using new
        exact decide_eq_true fun same => new (same ▸ repeated)
      · rw [select_cons_of_not_mem repeated, induction, distinctBy,
          List.filter_cons_of_pos (by simp [repeated]), List.filter_filter]
        congr 1
        apply List.filter_congr
        intro item _
        simp [not_or, Bool.and_comm]

/-- Accepting the keys of a list one at a time keeps the first item of each key. -/
theorem select_none (key : α → κ) (items : List α) :
    none.select key items = distinctBy key items := by
  rw [select_eq_filter]
  apply List.filter_eq_self.mpr
  intro item _
  simp [none]

end SeenKeys

/-! ## By position -/

section Positions

variable {α κ : Type} [DecidableEq κ] {key : α → κ}

/-- The items at the positions before which no item has the same key. -/
def firstItems (key : α → κ) (items : List α) : List α :=
  (items.zipIdx.filter fun (item, position) =>
    decide (key item ∉ (items.take position).map key)).map (·.1)

/-- The keys seen are those of the items before the current position. -/
private theorem select_eq_map_zipIdx {seen : SeenKeys κ} (before items : List α)
    (agree : ∀ sought, sought ∈ seen.keys ↔ sought ∈ before.map key) :
    seen.select key items =
      ((items.zipIdx before.length).filter fun (item, position) =>
        decide (key item ∉ ((before ++ items).take position).map key)).map (·.1) := by
  induction items generalizing seen before with
  | nil => rfl
  | cons item items induction =>
      have passed : before ++ item :: items = (before ++ [item]) ++ items := by simp
      have length : before.length + 1 = (before ++ [item]).length := by simp
      by_cases repeated : key item ∈ seen.keys
      · have agreeAfter : ∀ sought, sought ∈ seen.keys ↔ sought ∈ (before ++ [item]).map key := by
          intro sought
          rw [List.map_append, List.mem_append, agree]
          constructor
          · exact .inl
          · rintro (earlier | isItem)
            · exact earlier
            · rw [List.mem_singleton.mp isItem]
              exact (agree _).mp repeated
        have dropped := (agree _).mp repeated
        rw [SeenKeys.select_cons_of_mem repeated, List.zipIdx_cons,
          List.filter_cons_of_neg (by simpa using dropped), induction _ agreeAfter, length, passed]
      · have agreeAfter : ∀ sought, sought ∈ key item :: seen.keys ↔
            sought ∈ (before ++ [item]).map key := by
          intro sought
          rw [List.map_append, List.mem_append, List.mem_cons, agree]
          exact or_comm.trans (or_congr Iff.rfl List.mem_singleton.symm)
        have kept : key item ∉ before.map key := fun earlier => repeated ((agree _).mpr earlier)
        rw [SeenKeys.select_cons_of_not_mem repeated, List.zipIdx_cons,
          List.filter_cons_of_pos (by simpa using kept), List.map_cons, induction _ agreeAfter,
          length, passed]

theorem distinctBy_eq_firstItems (key : α → κ) (items : List α) :
    distinctBy key items = firstItems key items := by
  rw [← SeenKeys.select_none]
  exact select_eq_map_zipIdx [] items (by simp [SeenKeys.none])

example : firstItems (fun number => number % 10) [13, 7, 23, 17, 5] = [13, 7, 5] := by decide

end Positions

end TableAtlas
