import GuestCases.Fusion

/-!
The order of entries. Sort keys are compared from the left, which is a linear order. Sorting
keeps the order of the entries with one sort key, so two lists that agree on the entries with
each sort key have the same sorted list.
-/

namespace GuestCases

theorem keysInOrder_refl (key : List Int) : keysInOrder key key = true := by
  induction key with
  | nil => rfl
  | cons a rest ih => simp [keysInOrder, ih]

theorem keysInOrder_total (first second : List Int) :
    keysInOrder first second = true ∨ keysInOrder second first = true := by
  induction first generalizing second with
  | nil => exact Or.inl rfl
  | cons a rest ih =>
    cases second with
    | nil => exact Or.inr rfl
    | cons b others =>
      simp only [keysInOrder, Bool.or_eq_true, Bool.and_eq_true, decide_eq_true_eq]
      rcases Int.lt_trichotomy a b with hlt | rfl | hgt
      · exact Or.inl (Or.inl hlt)
      · rcases ih others with hle | hle
        · exact Or.inl (Or.inr ⟨rfl, hle⟩)
        · exact Or.inr (Or.inr ⟨rfl, hle⟩)
      · exact Or.inr (Or.inl hgt)

theorem keysInOrder_trans (first second third : List Int)
    (h : keysInOrder first second = true) (h' : keysInOrder second third = true) :
    keysInOrder first third = true := by
  induction first generalizing second third with
  | nil => rfl
  | cons a rest ih =>
    cases second with
    | nil => cases h
    | cons b others =>
      cases third with
      | nil => cases h'
      | cons c more =>
        simp only [keysInOrder, Bool.or_eq_true, Bool.and_eq_true, decide_eq_true_eq] at h h' ⊢
        rcases h with hab | ⟨rfl, hrest⟩
        · rcases h' with hbc | ⟨rfl, -⟩
          · exact Or.inl (Int.lt_trans hab hbc)
          · exact Or.inl hab
        · rcases h' with hac | ⟨rfl, hothers⟩
          · exact Or.inl hac
          · exact Or.inr ⟨rfl, ih others more hrest hothers⟩

theorem keysInOrder_antisymm (first second : List Int)
    (h : keysInOrder first second = true) (h' : keysInOrder second first = true) :
    first = second := by
  induction first generalizing second with
  | nil =>
    cases second with
    | nil => rfl
    | cons b others => cases h'
  | cons a rest ih =>
    cases second with
    | nil => cases h
    | cons b others =>
      simp only [keysInOrder, Bool.or_eq_true, Bool.and_eq_true, decide_eq_true_eq] at h h'
      rcases h with hab | ⟨rfl, hrest⟩
      · rcases h' with hba | ⟨rfl, -⟩ <;> omega
      · rcases h' with hba | ⟨-, hothers⟩
        · omega
        · rw [ih others hrest hothers]

namespace Family

variable {ε κ : Type}

theorem inOrder_trans (family : Family ε κ) (first second third : ε)
    (h : family.inOrder first second = true) (h' : family.inOrder second third = true) :
    family.inOrder first third = true :=
  keysInOrder_trans _ _ _ h h'

theorem inOrder_total (family : Family ε κ) (first second : ε) :
    (family.inOrder first second || family.inOrder second first) = true := by
  rw [Bool.or_eq_true]
  exact keysInOrder_total _ _

theorem inOrder_of_sortKey_eq (family : Family ε κ) (first second : ε)
    (h : family.sortKey first = family.sortKey second) : family.inOrder first second = true := by
  rw [inOrder, h]
  exact keysInOrder_refl _

def Ordered (family : Family ε κ) (entries : List ε) : Prop :=
  entries.Pairwise fun first second => family.inOrder first second = true

def atSortKey (family : Family ε κ) (key : List Int) (entries : List ε) : List ε :=
  entries.filter fun entry => family.sortKey entry = key

theorem ordered_sort (family : Family ε κ) (entries : List ε) :
    family.Ordered (family.sort entries) := by
  rw [sort_eq_mergeSort]
  exact List.pairwise_mergeSort family.inOrder_trans family.inOrder_total entries

theorem sort_perm (family : Family ε κ) (entries : List ε) :
    (family.sort entries).Perm entries := by
  rw [sort_eq_mergeSort]
  exact List.mergeSort_perm entries family.inOrder

/-- Sorting is stable. -/
theorem atSortKey_sort (family : Family ε κ) (key : List Int) (entries : List ε) :
    family.atSortKey key (family.sort entries) = family.atSortKey key entries := by
  have hsorted : family.Ordered (family.atSortKey key entries) := by
    apply List.pairwise_iff_forall_sublist.mpr
    intro first second hpair
    have hkey : ∀ entry ∈ [first, second], family.sortKey entry = key := fun entry hentry => by
      simpa using (List.mem_filter.mp (hpair.mem hentry)).2
    apply family.inOrder_of_sortKey_eq
    rw [hkey first (by simp), hkey second (by simp)]
  have hsublist : (family.atSortKey key entries).Sublist (family.sort entries) := by
    rw [sort_eq_mergeSort]
    exact List.sublist_mergeSort family.inOrder_trans family.inOrder_total hsorted
      List.filter_sublist
  have hfiltered := hsublist.filter fun entry => family.sortKey entry = key
  rw [atSortKey, List.filter_filter] at hfiltered
  simp only [Bool.and_self] at hfiltered
  exact (hfiltered.eq_of_length ((family.sort_perm entries).filter _).length_eq.symm).symm

def SameOrder (family : Family ε κ) (first second : List ε) : Prop :=
  ∀ key, family.atSortKey key first = family.atSortKey key second

theorem sameOrder_sort (family : Family ε κ) (entries : List ε) :
    family.SameOrder (family.sort entries) entries :=
  fun key => family.atSortKey_sort key entries

theorem SameOrder.mem_iff {family : Family ε κ} {first second : List ε}
    (h : family.SameOrder first second) (entry : ε) : entry ∈ first ↔ entry ∈ second := by
  have hkey := h (family.sortKey entry)
  have hmem : ∀ entries : List ε, entry ∈ entries ↔
      entry ∈ family.atSortKey (family.sortKey entry) entries := by
    simp [atSortKey]
  rw [hmem first, hkey, ← hmem second]

/-- Ordered lists that agree on the entries with each sort key are equal. -/
theorem SameOrder.eq_of_ordered {family : Family ε κ} {first second : List ε}
    (h : family.SameOrder first second) (hfirst : family.Ordered first)
    (hsecond : family.Ordered second) : first = second := by
  induction first generalizing second with
  | nil =>
    cases second with
    | nil => rfl
    | cons y others => exact absurd ((h.mem_iff y).mpr List.mem_cons_self) List.not_mem_nil
  | cons x rest ih =>
    cases second with
    | nil => exact absurd ((h.mem_iff x).mp List.mem_cons_self) List.not_mem_nil
    | cons y others =>
      obtain ⟨hxrest, hrest⟩ := List.pairwise_cons.mp hfirst
      obtain ⟨hyothers, hothers⟩ := List.pairwise_cons.mp hsecond
      have hxy : family.inOrder x y = true := by
        rcases List.mem_cons.mp ((h.mem_iff y).mpr List.mem_cons_self) with rfl | hy
        · exact keysInOrder_refl _
        · exact hxrest y hy
      have hyx : family.inOrder y x = true := by
        rcases List.mem_cons.mp ((h.mem_iff x).mp List.mem_cons_self) with rfl | hx
        · exact keysInOrder_refl _
        · exact hyothers x hx
      have hkeys : family.sortKey x = family.sortKey y := keysInOrder_antisymm _ _ hxy hyx
      have hheads := h (family.sortKey y)
      simp only [atSortKey, hkeys, decide_true, List.filter_cons_of_pos, List.cons.injEq]
        at hheads
      obtain ⟨rfl, -⟩ := hheads
      have htails : family.SameOrder rest others := by
        intro key
        have hkey := h key
        by_cases hx : family.sortKey x = key
        · simpa [atSortKey, hx] using hkey
        · simpa [atSortKey, hx] using hkey
      rw [ih htails hrest hothers]

/-- What is sorted shows of a list only its entries with each sort key. -/
theorem SameOrder.sort_eq {family : Family ε κ} {first second : List ε}
    (h : family.SameOrder first second) : family.sort first = family.sort second := by
  apply SameOrder.eq_of_ordered _ (family.ordered_sort first) (family.ordered_sort second)
  intro key
  rw [atSortKey_sort, atSortKey_sort, h key]

end Family

end GuestCases
