import GuestCases.Proofs.EntryKeys
import GuestCases.Proofs.FusedEntries
import GuestCases.Proofs.StableOrder
import Mathlib.Data.List.Forall2

/-!
The normal form of assembled entries. When entries with one fuse key have one sort key, fusing
works inside the entries with each sort key, so neither an earlier sort nor the bounds of the
batches show in the sorted result. Entries with one sort key stand in the order in which their
fuse keys first appeared.
-/

namespace GuestCases

namespace Family

variable {ε κ : Type}

theorem sortKey_merge {family : Family ε κ} (hcoherent : family.Coherent) (first second : ε) :
    family.sortKey (family.merge first second) = family.sortKey first :=
  hcoherent _ _ (family.fuseKey_merge first second)

theorem map_fuseKey_eq_of_forall₂ {family : Family ε κ} (parts : Mergeable family)
    (seen base : List ε) (h : List.Forall₂ parts.Extends seen base) :
    seen.map family.fuseKey = base.map family.fuseKey := by
  induction h with
  | nil => rfl
  | cons hhead _ ih => rw [List.map_cons, List.map_cons, hhead.fuseKey_eq, ih]

theorem forall₂_extends_atSortKey {family : Family ε κ} (parts : Mergeable family)
    (key : List Int) (seen entries : List ε) (h : List.Forall₂ parts.Extends seen entries) :
    List.Forall₂ parts.Extends (family.atSortKey key seen) (family.atSortKey key entries) := by
  apply List.rel_filter _ h
  intro original entry hextends
  simp [hextends.sortKey_eq]

variable [DecidableEq κ]

/-- Absorbing an entry concerns only the entries with its sort key. -/
theorem atSortKey_absorb {family : Family ε κ} (hcoherent : family.Coherent) (key : List Int)
    (entries : List ε) (entry : ε) :
    family.atSortKey key (family.absorb entries entry) =
      if family.sortKey entry = key then family.absorb (family.atSortKey key entries) entry
      else family.atSortKey key entries := by
  induction entries with
  | nil => by_cases hentry : family.sortKey entry = key <;> simp [absorb, atSortKey, hentry]
  | cons first rest ih =>
    by_cases hkey : family.fuseKey first = family.fuseKey entry
    · have hsort := hcoherent first entry hkey
      by_cases hentry : family.sortKey entry = key <;>
        simp [absorb, atSortKey, hkey, sortKey_merge hcoherent, hsort, hentry]
    · by_cases hfirst : family.sortKey first = key
      · by_cases hentry : family.sortKey entry = key
        · simpa [absorb, atSortKey, hkey, hfirst, hentry] using ih
        · simpa [absorb, atSortKey, hkey, hfirst, hentry] using ih
      · simpa [absorb, atSortKey, hkey, hfirst] using ih

theorem SameOrder.absorb {family : Family ε κ} (hcoherent : family.Coherent)
    {first second : List ε} (h : family.SameOrder first second) (entry : ε) :
    family.SameOrder (family.absorb first entry) (family.absorb second entry) := by
  intro key
  rw [atSortKey_absorb hcoherent, atSortKey_absorb hcoherent, h key]

theorem SameOrder.foldl_absorb {family : Family ε κ} (hcoherent : family.Coherent)
    {first second : List ε} (h : family.SameOrder first second) (incoming : List ε) :
    family.SameOrder (incoming.foldl family.absorb first)
      (incoming.foldl family.absorb second) := by
  induction incoming generalizing first second with
  | nil => exact h
  | cons entry rest ih => exact ih (h.absorb hcoherent entry)

/-- The entries of the base, and the first incoming entry with each new fuse key. -/
def firstSeen (family : Family ε κ) (base incoming : List ε) : List ε :=
  base ++ (incoming.filter fun entry => family.fuseKey entry ∉ base.map family.fuseKey).eraseDupsBy
    fun entry seen => family.fuseKey entry = family.fuseKey seen

theorem firstSeen_cons_of_mem (family : Family ε κ) (base rest : List ε) (entry : ε)
    (h : family.fuseKey entry ∈ base.map family.fuseKey) :
    family.firstSeen base (entry :: rest) = family.firstSeen base rest := by
  rw [firstSeen, List.filter_cons_of_neg (by simpa using h), firstSeen]

theorem firstSeen_cons_of_not_mem (family : Family ε κ) (base rest : List ε) (entry : ε)
    (h : family.fuseKey entry ∉ base.map family.fuseKey) :
    family.firstSeen base (entry :: rest) = family.firstSeen (base ++ [entry]) rest := by
  rw [firstSeen, List.filter_cons_of_pos (by simpa using h), List.eraseDupsBy_cons,
    List.filter_filter, firstSeen, List.append_assoc, List.singleton_append]
  congr 3
  apply List.filter_congr
  intro other _
  by_cases hother : family.fuseKey other = family.fuseKey entry <;> simp [hother]

theorem absorb_of_not_mem (family : Family ε κ) (entries : List ε) (entry : ε)
    (h : family.fuseKey entry ∉ entries.map family.fuseKey) :
    family.absorb entries entry = entries ++ [entry] := by
  rw [absorb_eq, List.idxOf?_eq_none_iff.mpr h]

theorem forall₂_extends_absorb {family : Family ε κ} (parts : Mergeable family)
    (seen base : List ε) (entry : ε) (h : List.Forall₂ parts.Extends seen base)
    (hmem : family.fuseKey entry ∈ base.map family.fuseKey) :
    List.Forall₂ parts.Extends seen (family.absorb base entry) := by
  induction h with
  | nil => cases hmem
  | @cons original first others rest hhead htail ih =>
    by_cases hkey : family.fuseKey first = family.fuseKey entry
    · rw [absorb, if_pos hkey]
      exact List.Forall₂.cons (hhead.trans (parts.extends_merge first entry)) htail
    · have hrest : family.fuseKey entry ∈ rest.map family.fuseKey := by
        rw [List.map_cons, List.mem_cons] at hmem
        exact hmem.resolve_left fun heq => hkey heq.symm
      rw [absorb, if_neg hkey]
      exact List.Forall₂.cons hhead (ih hrest)

/-- Each entry of a fusion extends the one that first appeared in its place. -/
theorem forall₂_extends_foldl_absorb {family : Family ε κ} (parts : Mergeable family)
    (incoming seen base : List ε) (h : List.Forall₂ parts.Extends seen base) :
    List.Forall₂ parts.Extends (family.firstSeen seen incoming)
      (incoming.foldl family.absorb base) := by
  induction incoming generalizing seen base with
  | nil => simpa [firstSeen] using h
  | cons entry rest ih =>
    have hkeys := map_fuseKey_eq_of_forall₂ parts seen base h
    rw [List.foldl_cons]
    by_cases hmem : family.fuseKey entry ∈ base.map family.fuseKey
    · rw [firstSeen_cons_of_mem family seen rest entry (hkeys ▸ hmem)]
      exact ih seen _ (forall₂_extends_absorb parts seen base entry h hmem)
    · rw [firstSeen_cons_of_not_mem family seen rest entry (hkeys ▸ hmem),
        absorb_of_not_mem family base entry hmem]
      exact ih _ _ (List.rel_append h
        (List.Forall₂.cons (Mergeable.Extends.refl parts entry) List.Forall₂.nil))

variable [Hashable κ]

theorem fuseAll_eq_foldl_absorb (family : Family ε κ) (batches : List (List ε)) (base : List ε) :
    (family.fuseAll base batches).2 = batches.flatten.foldl family.absorb base := by
  induction batches generalizing base with
  | nil => rfl
  | cons batch rest ih =>
    rw [fuseAll, List.flatten_cons, List.foldl_append,
      ← fuse_eq_foldl_absorb family base batch]
    exact ih (family.fuse base batch)

/-- The sort of the first batch and the bounds of later ones do not show. -/
theorem assemble_eq_sort_fuse {family : Family ε κ} (hcoherent : family.Coherent)
    (first second : List ε) (rest : List (List ε)) :
    family.assemble (first :: second :: rest) =
      family.sort (family.fuse first (second :: rest).flatten) := by
  have hsorted := (family.sameOrder_sort first).foldl_absorb hcoherent (second :: rest).flatten
  calc family.assemble (first :: second :: rest)
      = family.sort (family.fuseAll (family.sort first) (second :: rest)).2 := rfl
    _ = family.sort ((second :: rest).flatten.foldl family.absorb (family.sort first)) := by
        rw [fuseAll_eq_foldl_absorb]
    _ = family.sort ((second :: rest).flatten.foldl family.absorb first) := hsorted.sort_eq
    _ = family.sort (family.fuse first (second :: rest).flatten) := by
        rw [fuse_eq_foldl_absorb]

structure IsAssembly {family : Family ε κ} (parts : Mergeable family)
    (first later result : List ε) : Prop where
  eq_sort_fuse : result = family.sort (family.fuse first later)
  ordered : family.Ordered result
  /-- Entries with one sort key stand in the order of their first appearance. -/
  appearance : ∀ key, List.Forall₂ parts.Extends
    (family.atSortKey key (family.firstSeen first later)) (family.atSortKey key result)

theorem isAssembly_assemble {family : Family ε κ} (parts : Mergeable family)
    (hcoherent : family.Coherent) (first second : List ε) (rest : List (List ε)) :
    IsAssembly parts first (second :: rest).flatten
      (family.assemble (first :: second :: rest)) where
  eq_sort_fuse := assemble_eq_sort_fuse hcoherent first second rest
  ordered := by
    rw [assemble_eq_sort_fuse hcoherent]
    exact family.ordered_sort _
  appearance key := by
    rw [assemble_eq_sort_fuse hcoherent, atSortKey_sort, fuse_eq_foldl_absorb]
    apply forall₂_extends_atSortKey
    apply forall₂_extends_foldl_absorb
    exact List.forall₂_same.mpr fun entry _ => Mergeable.Extends.refl parts entry

end Family

/-- Two batches or more of either kind are assembled as if all later ones were one batch, and the
first were not sorted before it. -/
theorem assemble_isAssembly :
    (∀ (first second : List Cpuid.Entry) (rest : List (List Cpuid.Entry)),
      Family.IsAssembly Cpuid.mergeable first (second :: rest).flatten
        (Cpuid.family.assemble (first :: second :: rest))) ∧
    (∀ (first second : List Msr.Entry) (rest : List (List Msr.Entry)),
      Family.IsAssembly Msr.mergeable first (second :: rest).flatten
        (Msr.family.assemble (first :: second :: rest))) :=
  ⟨Family.isAssembly_assemble Cpuid.mergeable Cpuid.family_coherent,
    Family.isAssembly_assemble Msr.mergeable Msr.family_coherent⟩

end GuestCases
