import GuestCases.Proofs.AssembledEntries

/-!
Fusing a source again. After a fusion the first entry with each incoming key holds every
alternative that came in with it, and sorting keeps it the first. What comes in once more is
therefore merged into an entry that has all of it, so the assembled entries stay as they are.
-/

namespace GuestCases

variable {ε κ : Type}

namespace Mergeable

variable {family : Family ε κ}

def Covers (parts : Mergeable family) (entry other : ε) : Prop :=
  ∀ text ∈ parts.texts, ∀ value ∈ Alternatives.alternatives (text other).toList,
    value ∈ Alternatives.alternatives (text entry).toList

theorem merge_of_covers (parts : Mergeable family) (entry other : ε)
    (h : parts.Covers entry other) : family.merge entry other = entry := by
  apply parts.eq_of_texts
  · exact parts.bare_merge entry other
  · intro text htext
    rw [parts.text_merge text htext, Alternatives.merge_eq_self _ _ (h text htext)]

theorem Gathers.covers {parts : Mergeable family} {original entry other : ε} {others : List ε}
    (h : parts.Gathers original others entry) (hother : other ∈ others) :
    parts.Covers entry other := by
  intro text htext value hvalue
  exact (h.alternatives text htext value).mpr (Or.inr ⟨other, hother, hvalue⟩)

end Mergeable

namespace Family

theorem sort_of_ordered (family : Family ε κ) (entries : List ε) (h : family.Ordered entries) :
    family.sort entries = entries :=
  (family.sameOrder_sort entries).eq_of_ordered (family.ordered_sort entries) h

variable [DecidableEq κ]

/-- Entries with one fuse key have one sort key, so they stand in the same order. -/
theorem SameOrder.withKey_eq {family : Family ε κ} (hcoherent : family.Coherent)
    {first second : List ε} (h : family.SameOrder first second) (key : κ) :
    family.withKey key first = family.withKey key second := by
  by_cases hkey : ∃ entry, family.fuseKey entry = key
  · obtain ⟨entry, rfl⟩ := hkey
    have hplace : ∀ entries, family.withKey (family.fuseKey entry) entries =
        family.withKey (family.fuseKey entry)
          (family.atSortKey (family.sortKey entry) entries) := by
      intro entries
      rw [withKey, withKey, atSortKey, List.filter_filter]
      apply List.filter_congr
      intro other _
      have hsort := hcoherent other entry
      by_cases hother : family.fuseKey other = family.fuseKey entry
      · simp [hother, hsort hother]
      · simp [hother]
    rw [hplace first, h, ← hplace second]
  · have hnone : ∀ entries, family.withKey key entries = [] := by
      intro entries
      apply List.filter_eq_nil_iff.mpr
      intro entry _ hentry
      exact hkey ⟨entry, of_decide_eq_true hentry⟩
    rw [hnone, hnone]

theorem first?_sort {family : Family ε κ} (hcoherent : family.Coherent) (key : κ)
    (entries : List ε) : family.first? key (family.sort entries) = family.first? key entries := by
  rw [← head?_withKey, (family.sameOrder_sort entries).withKey_eq hcoherent key, head?_withKey]

/-- Absorbing changes nothing when it merges nothing into the first entry with the key. -/
theorem absorb_of_merge_eq (family : Family ε κ) (entries : List ε) (entry found : ε)
    (hfound : family.first? (family.fuseKey entry) entries = some found)
    (hmerge : family.merge found entry = found) : family.absorb entries entry = entries := by
  induction entries with
  | nil => cases hfound
  | cons first rest ih =>
    by_cases hkey : family.fuseKey first = family.fuseKey entry
    · have hfirst : first = found := by simpa [first?, hkey] using hfound
      rw [absorb, if_pos hkey, hfirst, hmerge]
    · have hrest : family.first? (family.fuseKey entry) rest = some found := by
        simpa [first?, hkey] using hfound
      rw [absorb, if_neg hkey, ih hrest]

theorem foldl_absorb_of_covers {family : Family ε κ} (parts : Mergeable family)
    (entries incoming : List ε)
    (h : ∀ entry ∈ incoming, ∃ found,
      family.first? (family.fuseKey entry) entries = some found ∧ parts.Covers found entry) :
    incoming.foldl family.absorb entries = entries := by
  induction incoming with
  | nil => rfl
  | cons entry rest ih =>
    obtain ⟨hentry, hrest⟩ := List.forall_mem_cons.mp h
    obtain ⟨found, hfound, hcovers⟩ := hentry
    rw [List.foldl_cons, absorb_of_merge_eq family entries entry found hfound
      (parts.merge_of_covers found entry hcovers), ih hrest]

variable [Hashable κ]

/-- Assembling the result with batches that are already in it gives the result. -/
theorem assemble_assembled {family : Family ε κ} (parts : Mergeable family)
    (hcoherent : family.Coherent) (first : List ε) (batches again : List (List ε))
    (hbatches : batches ≠ []) (hagain : again ≠ []) (hdrawn : ∀ batch ∈ again, batch ∈ batches)
    (hplain : ∀ entry ∈ (first :: batches).flatten, parts.Plain entry) :
    family.assemble (family.assemble (first :: batches) :: again) =
      family.assemble (first :: batches) := by
  obtain ⟨second, rest, rfl⟩ := List.exists_cons_of_ne_nil hbatches
  obtain ⟨batch, others, rfl⟩ := List.exists_cons_of_ne_nil hagain
  have hcovered : ∀ entry ∈ (batch :: others).flatten, ∃ found,
      family.first? (family.fuseKey entry) (family.assemble (first :: second :: rest)) =
        some found ∧ parts.Covers found entry := by
    intro entry hentry
    obtain ⟨source, hsource, hmem⟩ := List.mem_flatten.mp hentry
    have hincoming : entry ∈ (second :: rest).flatten :=
      List.mem_flatten.mpr ⟨source, hdrawn source hsource, hmem⟩
    obtain ⟨original, found, -, hfound, hgathers⟩ :=
      exists_gathers_foldl_absorb parts first (second :: rest).flatten hplain
        (family.fuseKey entry) (List.mem_map_of_mem hincoming)
    refine ⟨found, ?_, hgathers.covers (List.mem_filter.mpr ⟨hincoming, by simp⟩)⟩
    rw [assemble_eq_sort_fuse hcoherent, first?_sort hcoherent, fuse_eq_foldl_absorb, hfound]
  have hordered : family.Ordered (family.assemble (first :: second :: rest)) :=
    (isAssembly_assemble parts hcoherent first second rest).ordered
  rw [assemble_eq_sort_fuse hcoherent _ batch, fuse_eq_foldl_absorb,
    foldl_absorb_of_covers parts _ _ hcovered, sort_of_ordered family _ hordered]

end Family

/-- Entries of either kind that were assembled once do not change when batches among the later
ones are fused into them again. -/
theorem assemble_again :
    (∀ (first : List Cpuid.Entry) (batches again : List (List Cpuid.Entry)),
      batches ≠ [] → again ≠ [] → (∀ batch ∈ again, batch ∈ batches) →
      (∀ entry ∈ (first :: batches).flatten, Cpuid.mergeable.Plain entry) →
      Cpuid.family.assemble (Cpuid.family.assemble (first :: batches) :: again) =
        Cpuid.family.assemble (first :: batches)) ∧
    (∀ (first : List Msr.Entry) (batches again : List (List Msr.Entry)),
      batches ≠ [] → again ≠ [] → (∀ batch ∈ again, batch ∈ batches) →
      (∀ entry ∈ (first :: batches).flatten, Msr.mergeable.Plain entry) →
      Msr.family.assemble (Msr.family.assemble (first :: batches) :: again) =
        Msr.family.assemble (first :: batches)) :=
  ⟨Family.assemble_assembled Cpuid.mergeable Cpuid.family_coherent,
    Family.assemble_assembled Msr.mergeable Msr.family_coherent⟩

theorem assemble_again_repeated_keys :
    let fields := [Cpuid.leafSevenField "0x7" "1" "VER1_0", Cpuid.leafSevenField "0x07" "2" ""]
    let update := [Cpuid.leafSevenField "7" "3" "VER1_5 | VER2_0",
      Cpuid.leafSevenField "0x8" "1 | 1" "VER2_0", Cpuid.leafSevenField "0x08" "2" "VER2_0"]
    let reads := [Msr.plainRead "0x11" "VER1_0", Msr.plainRead "0x10" "VER1_0"]
    let moreReads := [Msr.plainRead "0x10" " VER2_0 ", Msr.plainRead "0x10" "VER1_5"]
    ((∀ entry ∈ [fields, update].flatten, Cpuid.mergeable.Plain entry) ∧
      Cpuid.family.assemble [Cpuid.family.assemble [fields, update], update, update] =
        Cpuid.family.assemble [fields, update]) ∧
    ((∀ entry ∈ [reads, moreReads, []].flatten, Msr.mergeable.Plain entry) ∧
      Msr.family.assemble [Msr.family.assemble [reads, moreReads, []], [], moreReads] =
        Msr.family.assemble [reads, moreReads, []]) := by
  intro fields update reads moreReads
  refine ⟨⟨by decide, ?_⟩, ⟨by decide, ?_⟩⟩
  · exact assemble_again.1 fields [update] [update, update] (by simp) (by simp) (by simp)
      (by decide)
  · exact assemble_again.2 reads [moreReads, []] [[], moreReads] (by simp) (by simp) (by simp)
      (by decide)

end GuestCases
