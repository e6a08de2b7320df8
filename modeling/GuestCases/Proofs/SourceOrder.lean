import GuestCases.Proofs.RepeatedFusion
import Mathlib.Data.List.Nodup
import Mathlib.Logic.Function.Basic

/-!
The order of the sources. When no source has two entries with one fuse key, an assembly has one
entry for each key of its sources, and that entry has the alternatives of all entries with the
key. Which entry stands for a key and how its alternatives are ordered depends on the order of
the sources; which cases there are, and at which places in the order, does not.
-/

namespace GuestCases

namespace Family

variable {ε κ : Type}

/-- The entries are the cases of the sources: in order, one for each key, with the alternatives of
all entries that the sources have with the key. -/
structure AreCasesOf {family : Family ε κ} (parts : Mergeable family) (sources entries : List ε) :
    Prop where
  ordered : family.Ordered entries
  distinct : (entries.map family.fuseKey).Nodup
  keys : ∀ key, key ∈ entries.map family.fuseKey ↔ key ∈ sources.map family.fuseKey
  alternatives : ∀ entry ∈ entries, ∀ text ∈ parts.texts, ∀ value,
    value ∈ Alternatives.alternatives (text entry).toList ↔
      ∃ other ∈ sources, family.fuseKey other = family.fuseKey entry ∧
        value ∈ Alternatives.alternatives (text other).toList

/-- The two lists have the same cases at the same places in the order, up to which entry stands
for a case and how its alternatives are ordered. -/
structure SameCases {family : Family ε κ} (parts : Mergeable family) (first second : List ε) :
    Prop where
  length_eq : first.length = second.length
  sortKeys_eq : first.map family.sortKey = second.map family.sortKey
  distinct_first : (first.map family.fuseKey).Nodup
  distinct_second : (second.map family.fuseKey).Nodup
  keys : ∀ key, key ∈ first.map family.fuseKey ↔ key ∈ second.map family.fuseKey
  alternatives : ∀ entry ∈ first, ∀ other ∈ second, family.fuseKey entry = family.fuseKey other →
    ∀ text ∈ parts.texts, ∀ value,
      value ∈ Alternatives.alternatives (text entry).toList ↔
        value ∈ Alternatives.alternatives (text other).toList

/-- Lists in order whose fuse keys are the same up to order have the same sort keys in order. -/
theorem map_sortKey_eq_of_perm {family : Family ε κ} (hcoherent : family.Coherent)
    (first second : List ε) (hfirst : family.Ordered first) (hsecond : family.Ordered second)
    (hkeys : (first.map family.fuseKey).Perm (second.map family.fuseKey)) :
    first.map family.sortKey = second.map family.sortKey := by
  -- The sort key is a function of the fuse key.
  have hfactors : Function.FactorsThrough family.sortKey family.fuseKey :=
    fun entry other heq => hcoherent entry other heq
  have hperm : (first.map family.sortKey).Perm (second.map family.sortKey) := by
    have hmap := hkeys.map (Function.extend family.fuseKey family.sortKey fun _ => [])
    simpa only [List.map_map, Function.comp_def, hfactors.extend_apply] using hmap
  apply hperm.eq_of_pairwise fun key other _ _ => keysInOrder_antisymm key other
  · exact List.pairwise_map.mpr hfirst
  · exact List.pairwise_map.mpr hsecond

/-- Which cases there are rests on which entries the sources have. -/
theorem AreCasesOf.sameCases {family : Family ε κ} {parts : Mergeable family}
    (hcoherent : family.Coherent) {sources others first second : List ε}
    (h : AreCasesOf parts sources first) (h' : AreCasesOf parts others second)
    (hsources : ∀ entry, entry ∈ sources ↔ entry ∈ others) : SameCases parts first second := by
  have hkeys : ∀ key, key ∈ first.map family.fuseKey ↔ key ∈ second.map family.fuseKey := by
    intro key
    rw [h.keys, h'.keys, List.mem_map, List.mem_map]
    simp only [hsources]
  have hperm : (first.map family.fuseKey).Perm (second.map family.fuseKey) :=
    (List.perm_ext_iff_of_nodup h.distinct h'.distinct).mpr hkeys
  exact {
    length_eq := by simpa using hperm.length_eq
    sortKeys_eq := map_sortKey_eq_of_perm hcoherent first second h.ordered h'.ordered hperm
    distinct_first := h.distinct
    distinct_second := h'.distinct
    keys := hkeys
    alternatives := by
      intro entry hentry other hother heq text htext value
      rw [h.alternatives entry hentry text htext, h'.alternatives other hother text htext, heq]
      simp only [hsources]
  }

variable [DecidableEq κ]

theorem mem_map_fuseKey_absorb (family : Family ε κ) (entries : List ε) (entry : ε) (key : κ) :
    key ∈ (family.absorb entries entry).map family.fuseKey ↔
      key ∈ entries.map family.fuseKey ∨ key = family.fuseKey entry := by
  rw [map_fuseKey_absorb]
  split
  · rename_i hold
    constructor
    · exact Or.inl
    · rintro (hkey | rfl)
      · exact hkey
      · exact hold
  · rw [List.mem_append, List.mem_singleton]

theorem mem_map_fuseKey_foldl_absorb (family : Family ε κ) (base incoming : List ε) (key : κ) :
    key ∈ (incoming.foldl family.absorb base).map family.fuseKey ↔
      key ∈ (base ++ incoming).map family.fuseKey := by
  induction incoming generalizing base with
  | nil => simp
  | cons entry rest ih =>
    rw [List.foldl_cons, ih, List.map_append, List.mem_append, mem_map_fuseKey_absorb, or_assoc,
      List.map_append, List.mem_append, List.map_cons, List.mem_cons]

theorem nodup_map_fuseKey_absorb (family : Family ε κ) (entries : List ε) (entry : ε)
    (h : (entries.map family.fuseKey).Nodup) :
    ((family.absorb entries entry).map family.fuseKey).Nodup := by
  rw [map_fuseKey_absorb]
  split
  · exact h
  · rename_i hnew
    exact h.append (List.nodup_singleton _) (by simpa using hnew)

/-- Fusing into entries with distinct keys keeps the keys distinct. -/
theorem nodup_map_fuseKey_foldl_absorb (family : Family ε κ) (base incoming : List ε)
    (h : (base.map family.fuseKey).Nodup) :
    ((incoming.foldl family.absorb base).map family.fuseKey).Nodup := by
  induction incoming generalizing base with
  | nil => exact h
  | cons entry rest ih => exact ih _ (family.nodup_map_fuseKey_absorb base entry h)

/-- Of entries with distinct keys only the first with a key has it. -/
theorem withKey_eq_toList_first? (family : Family ε κ) (entries : List ε) (key : κ)
    (h : (entries.map family.fuseKey).Nodup) :
    family.withKey key entries = (family.first? key entries).toList := by
  induction entries with
  | nil => rfl
  | cons first rest ih =>
    obtain ⟨hfirst, hrest⟩ := List.nodup_cons.mp h
    by_cases hkey : family.fuseKey first = key
    · have hnone : family.withKey key rest = [] := by
        apply List.filter_eq_nil_iff.mpr
        intro entry hentry hsame
        have heq : family.fuseKey entry = key := of_decide_eq_true hsame
        exact hfirst (hkey.trans heq.symm ▸ List.mem_map_of_mem hentry)
      rw [withKey] at hnone
      simp [withKey, first?, hkey, hnone]
    · have htail := ih hrest
      rw [withKey, first?] at htail ⊢
      rw [List.filter_cons_of_neg (by simpa using hkey), htail,
        List.find?_cons_of_neg (by simpa using hkey)]

theorem first?_of_mem (family : Family ε κ) (entries : List ε) (entry : ε)
    (h : (entries.map family.fuseKey).Nodup) (hentry : entry ∈ entries) :
    family.first? (family.fuseKey entry) entries = some entry := by
  have hmem : entry ∈ family.withKey (family.fuseKey entry) entries :=
    List.mem_filter.mpr ⟨hentry, by simp⟩
  rwa [withKey_eq_toList_first? family entries _ h, Option.mem_toList] at hmem

/-- Every entry of a fusion is the first entry with its key, with the others merged into it. -/
theorem exists_mergeAll_of_mem (family : Family ε κ) (base incoming : List ε) (entry : ε)
    (hbase : (base.map family.fuseKey).Nodup)
    (hentry : entry ∈ incoming.foldl family.absorb base) :
    ∃ original others,
      family.withKey (family.fuseKey entry) (base ++ incoming) = original :: others ∧
        entry = family.mergeAll original others := by
  have hfirst := family.first?_of_mem _ entry
    (family.nodup_map_fuseKey_foldl_absorb base incoming hbase) hentry
  have hsplit : family.withKey (family.fuseKey entry) (base ++ incoming) =
      (family.first? (family.fuseKey entry) base).toList ++
        family.withKey (family.fuseKey entry) incoming := by
    rw [← withKey_eq_toList_first? family base _ hbase]
    exact List.filter_append ..
  cases hfound : family.first? (family.fuseKey entry) base with
  | some original =>
    rw [first?_foldl_absorb family incoming base _ original hfound] at hfirst
    rw [hsplit, hfound]
    exact ⟨original, _, rfl, (Option.some.inj hfirst).symm⟩
  | none =>
    have hnew : family.fuseKey entry ∈ incoming.map family.fuseKey := by
      have hmem := (family.mem_map_fuseKey_foldl_absorb base incoming _).mp
        (List.mem_map_of_mem hentry)
      rw [List.map_append, List.mem_append] at hmem
      apply hmem.resolve_left
      intro hold
      obtain ⟨original, -, hsome, -⟩ := family.exists_first?_of_mem _ base hold
      rw [hfound] at hsome
      cases hsome
    obtain ⟨original, others, -, hwith⟩ := family.exists_first?_of_mem _ incoming hnew
    rw [first?_foldl_absorb_of_none family incoming base _ original others hfound hwith] at hfirst
    rw [hsplit, hfound, hwith]
    exact ⟨original, others, rfl, (Option.some.inj hfirst).symm⟩

theorem areCasesOf_sort_foldl_absorb {family : Family ε κ} (parts : Mergeable family)
    (base incoming : List ε) (hbase : (base.map family.fuseKey).Nodup)
    (hplain : ∀ entry ∈ base ++ incoming, parts.Plain entry) :
    AreCasesOf parts (base ++ incoming) (family.sort (incoming.foldl family.absorb base)) where
  ordered := family.ordered_sort _
  distinct := by
    rw [((family.sort_perm _).map family.fuseKey).nodup_iff]
    exact family.nodup_map_fuseKey_foldl_absorb base incoming hbase
  keys key := by
    rw [((family.sort_perm _).map family.fuseKey).mem_iff]
    exact family.mem_map_fuseKey_foldl_absorb base incoming key
  alternatives := by
    intro entry hentry text htext value
    rw [(family.sort_perm _).mem_iff] at hentry
    obtain ⟨original, others, hwith, hmerged⟩ :=
      family.exists_mergeAll_of_mem base incoming entry hbase hentry
    have hsources : ∀ other, other ∈ original :: others ↔
        other ∈ base ++ incoming ∧ family.fuseKey other = family.fuseKey entry := by
      intro other
      rw [← hwith, withKey, List.mem_filter, decide_eq_true_iff]
    have hgathers := parts.gathers_mergeAll original others
      (hplain original ((hsources original).mp List.mem_cons_self).1) fun other hother =>
        hplain other ((hsources other).mp (List.mem_cons_of_mem _ hother)).1
    rw [hmerged, hgathers.alternatives text htext value, ← hmerged]
    simp only [← and_assoc, ← hsources, List.exists_mem_cons_iff]

variable [Hashable κ]

theorem areCasesOf_assemble {family : Family ε κ} (parts : Mergeable family)
    (hcoherent : family.Coherent) (batches : List (List ε)) (hseveral : 2 ≤ batches.length)
    (hdistinct : ∀ batch ∈ batches, (batch.map family.fuseKey).Nodup)
    (hplain : ∀ entry ∈ batches.flatten, parts.Plain entry) :
    AreCasesOf parts batches.flatten (family.assemble batches) := by
  match batches with
  | [] => simp at hseveral
  | [batch] => simp at hseveral
  | first :: second :: rest =>
    rw [assemble_eq_sort_fuse hcoherent, fuse_eq_foldl_absorb]
    exact areCasesOf_sort_foldl_absorb parts first (second :: rest).flatten
      (hdistinct first List.mem_cons_self) hplain

theorem sameCases_assemble {family : Family ε κ} (parts : Mergeable family)
    (hcoherent : family.Coherent) (batches others : List (List ε)) (hseveral : 2 ≤ batches.length)
    (hdistinct : ∀ batch ∈ batches, (batch.map family.fuseKey).Nodup)
    (hplain : ∀ entry ∈ batches.flatten, parts.Plain entry) (hperm : others.Perm batches) :
    SameCases parts (family.assemble batches) (family.assemble others) := by
  have hflatten : ∀ entry, entry ∈ batches.flatten ↔ entry ∈ others.flatten := fun entry =>
    hperm.flatten.mem_iff.symm
  apply AreCasesOf.sameCases hcoherent
    (areCasesOf_assemble parts hcoherent batches hseveral hdistinct hplain)
    (areCasesOf_assemble parts hcoherent others ?_ ?_ ?_) hflatten
  · rwa [hperm.length_eq]
  · exact fun batch hbatch => hdistinct batch (hperm.mem_iff.mp hbatch)
  · exact fun entry hentry => hplain entry ((hflatten entry).mpr hentry)

end Family

/-- The order of two or more sources of either kind does not decide which cases there are. -/
theorem assemble_sameCases :
    (∀ batches others : List (List Cpuid.Entry), 2 ≤ batches.length →
      (∀ batch ∈ batches, (batch.map Cpuid.family.fuseKey).Nodup) →
      (∀ entry ∈ batches.flatten, Cpuid.mergeable.Plain entry) → others.Perm batches →
      Family.SameCases Cpuid.mergeable (Cpuid.family.assemble batches)
        (Cpuid.family.assemble others)) ∧
    (∀ batches others : List (List Msr.Entry), 2 ≤ batches.length →
      (∀ batch ∈ batches, (batch.map Msr.family.fuseKey).Nodup) →
      (∀ entry ∈ batches.flatten, Msr.mergeable.Plain entry) → others.Perm batches →
      Family.SameCases Msr.mergeable (Msr.family.assemble batches)
        (Msr.family.assemble others)) :=
  ⟨Family.sameCases_assemble Cpuid.mergeable Cpuid.family_coherent,
    Family.sameCases_assemble Msr.mergeable Msr.family_coherent⟩

theorem assemble_sameCases_reordered :
    let baseline := [Cpuid.leafSevenField "0x8" "1" "VER1_0", Cpuid.leafSevenField "7" "1" "VER1_0"]
    let update := [Cpuid.leafSevenField "0x07" "2 | 1" "VER1_5"]
    let latest := [Cpuid.leafSevenField "0x7" "3" "VER2_0", Cpuid.leafSevenField "0x9" "1" "VER2_0"]
    let reads := [Msr.plainRead "0x11" "VER1_0", Msr.plainRead "0x10" "VER1_0"]
    let moreReads := [Msr.plainRead "0x10" " VER2_0 "]
    ((∀ batch ∈ [baseline, update, latest], (batch.map Cpuid.family.fuseKey).Nodup) ∧
      (∀ entry ∈ [baseline, update, latest].flatten, Cpuid.mergeable.Plain entry) ∧
      [latest, baseline, update].Perm [baseline, update, latest] ∧
      Family.SameCases Cpuid.mergeable (Cpuid.family.assemble [baseline, update, latest])
        (Cpuid.family.assemble [latest, baseline, update])) ∧
    ((∀ batch ∈ [reads, moreReads], (batch.map Msr.family.fuseKey).Nodup) ∧
      (∀ entry ∈ [reads, moreReads].flatten, Msr.mergeable.Plain entry) ∧
      [moreReads, reads].Perm [reads, moreReads] ∧
      Family.SameCases Msr.mergeable (Msr.family.assemble [reads, moreReads])
        (Msr.family.assemble [moreReads, reads])) := by
  intro baseline update latest reads moreReads
  have hlatest : [latest, baseline, update].Perm [baseline, update, latest] := by decide
  have hswapped : [moreReads, reads].Perm [reads, moreReads] := by decide
  refine ⟨⟨by decide, by decide, hlatest, ?_⟩, ⟨by decide, by decide, hswapped, ?_⟩⟩
  · exact assemble_sameCases.1 [baseline, update, latest] _ (by decide) (by decide) (by decide)
      hlatest
  · exact assemble_sameCases.2 [reads, moreReads] _ (by decide) (by decide) (by decide) hswapped

end GuestCases
