import GuestCases.Fusion
import GuestCases.Cpuid.Entry
import GuestCases.Msr.Entry
import GuestCases.Proofs.AlternativeText

/-!
What fusing does to every entry. The entries of the base keep their places and their keys, and
one entry is added for each new key, in the order in which the keys come in. Of the entries with
one key only the first changes: it gathers the alternatives of all incoming entries with its key
behind its own.
-/

namespace GuestCases

variable {ε κ : Type}

/-- The texts of a family's entries that merging adds alternatives to, and the entry without
them, which merging leaves alone. -/
structure Mergeable (family : Family ε κ) where
  texts : List (ε → String)
  /-- The entry with these texts empty. -/
  bare : ε → ε
  text_merge : ∀ text ∈ texts, ∀ first second,
    text (family.merge first second) = Alternatives.merge (text first) (text second)
  bare_merge : ∀ first second, bare (family.merge first second) = bare first
  fuseKey_bare : ∀ entry, family.fuseKey (bare entry) = family.fuseKey entry
  sortKey_bare : ∀ entry, family.sortKey (bare entry) = family.sortKey entry
  eq_of_texts : ∀ first second, bare first = bare second →
    (∀ text ∈ texts, text first = text second) → first = second

namespace Mergeable

variable {family : Family ε κ}

def Plain (parts : Mergeable family) (entry : ε) : Prop :=
  ∀ text ∈ parts.texts, Alternatives.Plain (text entry).toList

instance (parts : Mergeable family) (entry : ε) : Decidable (parts.Plain entry) :=
  inferInstanceAs (Decidable (∀ text ∈ parts.texts, Alternatives.Plain (text entry).toList))

structure Extends (parts : Mergeable family) (original entry : ε) : Prop where
  bare_eq : parts.bare entry = parts.bare original
  text_prefix : ∀ text ∈ parts.texts, (text original).toList <+: (text entry).toList

/-- The entry is the original with exactly the alternatives of the others behind its own. -/
structure Gathers (parts : Mergeable family) (original : ε) (others : List ε) (entry : ε) :
    Prop where
  extended : parts.Extends original entry
  alternatives : ∀ text ∈ parts.texts, ∀ value,
    value ∈ Alternatives.alternatives (text entry).toList ↔
      value ∈ Alternatives.alternatives (text original).toList ∨
        ∃ other ∈ others, value ∈ Alternatives.alternatives (text other).toList

theorem Extends.refl (parts : Mergeable family) (entry : ε) : parts.Extends entry entry :=
  ⟨rfl, fun _ _ => List.prefix_rfl⟩

theorem Extends.trans {parts : Mergeable family} {first second third : ε}
    (h : parts.Extends first second) (h' : parts.Extends second third) :
    parts.Extends first third where
  bare_eq := h'.bare_eq.trans h.bare_eq
  text_prefix text htext := (h.text_prefix text htext).trans (h'.text_prefix text htext)

theorem Extends.fuseKey_eq {parts : Mergeable family} {original entry : ε}
    (h : parts.Extends original entry) : family.fuseKey entry = family.fuseKey original := by
  rw [← parts.fuseKey_bare entry, h.bare_eq, parts.fuseKey_bare]

theorem Extends.sortKey_eq {parts : Mergeable family} {original entry : ε}
    (h : parts.Extends original entry) : family.sortKey entry = family.sortKey original := by
  rw [← parts.sortKey_bare entry, h.bare_eq, parts.sortKey_bare]

theorem extends_merge (parts : Mergeable family) (first second : ε) :
    parts.Extends first (family.merge first second) where
  bare_eq := parts.bare_merge first second
  text_prefix text htext := by
    rw [parts.text_merge text htext]
    exact Alternatives.prefix_merge _ _

theorem plain_merge (parts : Mergeable family) (first second : ε) (hfirst : parts.Plain first)
    (hsecond : parts.Plain second) : parts.Plain (family.merge first second) := by
  intro text htext
  rw [parts.text_merge text htext]
  exact Alternatives.plain_merge _ _ (hfirst text htext) (hsecond text htext)

end Mergeable

namespace Family

def mergeAll (family : Family ε κ) (original : ε) (others : List ε) : ε :=
  others.foldl family.merge original

end Family

namespace Mergeable

variable {family : Family ε κ}

theorem extends_mergeAll (parts : Mergeable family) (original : ε) (others : List ε) :
    parts.Extends original (family.mergeAll original others) := by
  induction others generalizing original with
  | nil => exact Extends.refl parts original
  | cons other rest ih => exact (parts.extends_merge original other).trans (ih _)

theorem gathers_mergeAll (parts : Mergeable family) (original : ε) (others : List ε)
    (horiginal : parts.Plain original) (hothers : ∀ other ∈ others, parts.Plain other) :
    parts.Gathers original others (family.mergeAll original others) := by
  refine ⟨parts.extends_mergeAll original others, ?_⟩
  intro text htext value
  induction others generalizing original with
  | nil => simp [Family.mergeAll]
  | cons other rest ih =>
    obtain ⟨hother, hrest⟩ := List.forall_mem_cons.mp hothers
    have hmerged := parts.plain_merge original other horiginal hother
    have hrestValues := ih (family.merge original other) hmerged hrest
    rw [parts.text_merge text htext,
      Alternatives.mem_alternatives_merge _ _ value (horiginal text htext) (hother text htext)]
      at hrestValues
    simpa only [Family.mergeAll, List.foldl_cons, List.mem_cons, exists_eq_or_imp, or_assoc]
      using hrestValues

end Mergeable

namespace Family

variable [DecidableEq κ]

def first? (family : Family ε κ) (key : κ) (entries : List ε) : Option ε :=
  entries.find? fun entry => family.fuseKey entry = key

def withKey (family : Family ε κ) (key : κ) (entries : List ε) : List ε :=
  entries.filter fun entry => family.fuseKey entry = key

theorem first?_absorb_self (family : Family ε κ) (entries : List ε) (entry : ε) :
    family.first? (family.fuseKey entry) (family.absorb entries entry) =
      some (((family.first? (family.fuseKey entry) entries).map (family.merge · entry)).getD
        entry) := by
  induction entries with
  | nil => simp [absorb, first?]
  | cons first rest ih =>
    by_cases hkey : family.fuseKey first = family.fuseKey entry
    · simp [absorb, first?, hkey, family.fuseKey_merge]
    · simpa [absorb, first?, hkey] using ih

theorem first?_absorb_of_ne (family : Family ε κ) (entries : List ε) (entry : ε) (key : κ)
    (h : family.fuseKey entry ≠ key) :
    family.first? key (family.absorb entries entry) = family.first? key entries := by
  induction entries with
  | nil => simp [absorb, first?, h]
  | cons first rest ih =>
    by_cases hkey : family.fuseKey first = family.fuseKey entry
    · simp [absorb, first?, hkey, family.fuseKey_merge, h]
    · by_cases hfirst : family.fuseKey first = key
      · subst hfirst
        simp [absorb, first?, hkey]
      · simpa [absorb, first?, hkey, hfirst] using ih

/-- An entry of the base that is the first with its key takes all incoming ones with the key. -/
theorem first?_foldl_absorb (family : Family ε κ) (incoming base : List ε) (key : κ)
    (original : ε) (h : family.first? key base = some original) :
    family.first? key (incoming.foldl family.absorb base) =
      some (family.mergeAll original (family.withKey key incoming)) := by
  induction incoming generalizing base original with
  | nil => exact h
  | cons entry rest ih =>
    by_cases hkey : family.fuseKey entry = key
    · subst hkey
      have hfirst : family.first? (family.fuseKey entry) (family.absorb base entry) =
          some (family.merge original entry) := by
        rw [first?_absorb_self, h]
        rfl
      simpa [withKey, mergeAll] using ih _ _ hfirst
    · have hfirst : family.first? key (family.absorb base entry) = some original := by
        rw [first?_absorb_of_ne family base entry key hkey, h]
      simpa [withKey, hkey] using ih _ _ hfirst

/-- With no entry of the key in the base, the first incoming one takes the others. -/
theorem first?_foldl_absorb_of_none (family : Family ε κ) (incoming base : List ε) (key : κ)
    (original : ε) (others : List ε) (h : family.first? key base = none)
    (hincoming : family.withKey key incoming = original :: others) :
    family.first? key (incoming.foldl family.absorb base) =
      some (family.mergeAll original others) := by
  induction incoming generalizing base with
  | nil => simp [withKey] at hincoming
  | cons entry rest ih =>
    by_cases hkey : family.fuseKey entry = key
    · subst hkey
      simp only [withKey, decide_true, List.filter_cons_of_pos, List.cons.injEq] at hincoming
      obtain ⟨rfl, rfl⟩ := hincoming
      have hfirst : family.first? (family.fuseKey entry) (family.absorb base entry) =
          some entry := by
        rw [first?_absorb_self, h]
        rfl
      exact first?_foldl_absorb family rest _ _ _ hfirst
    · rw [List.foldl_cons]
      apply ih
      · rw [first?_absorb_of_ne family base entry key hkey, h]
      · simpa [withKey, hkey] using hincoming

theorem first?_append (family : Family ε κ) (key : κ) (entries more : List ε) :
    family.first? key (entries ++ more) =
      (family.first? key entries).or (family.first? key more) :=
  List.find?_append

theorem head?_withKey (family : Family ε κ) (key : κ) (entries : List ε) :
    (family.withKey key entries).head? = family.first? key entries :=
  List.head?_filter ..

theorem map_fuseKey_absorb (family : Family ε κ) (entries : List ε) (entry : ε) :
    (family.absorb entries entry).map family.fuseKey =
      if family.fuseKey entry ∈ entries.map family.fuseKey then entries.map family.fuseKey
      else entries.map family.fuseKey ++ [family.fuseKey entry] := by
  rw [absorb_eq]
  split
  · rename_i position hposition
    have hold : family.fuseKey entry ∈ entries.map family.fuseKey := by
      apply Decidable.byContradiction
      intro hnew
      rw [List.idxOf?_eq_none_iff.mpr hnew] at hposition
      cases hposition
    rw [if_pos hold, map_fuseKey_modify]
  · rename_i hposition
    have hnew := List.idxOf?_eq_none_iff.mp hposition
    rw [if_neg hnew, List.map_append, List.map_singleton]

/-- Fusing keeps the keys of the base and adds each new key once, in order of arrival. -/
theorem map_fuseKey_foldl_absorb (family : Family ε κ) (incoming base : List ε) :
    (incoming.foldl family.absorb base).map family.fuseKey =
      base.map family.fuseKey ++
        ((incoming.map family.fuseKey).filter (· ∉ base.map family.fuseKey)).eraseDups := by
  induction incoming generalizing base with
  | nil => simp
  | cons entry rest ih =>
    rw [List.foldl_cons, ih, map_fuseKey_absorb]
    by_cases hold : family.fuseKey entry ∈ base.map family.fuseKey
    · rw [if_pos hold, List.map_cons, List.filter_cons_of_neg (by simpa using hold)]
    · rw [if_neg hold, List.map_cons, List.filter_cons_of_pos (by simpa using hold),
        List.eraseDups_cons, List.filter_filter, List.append_assoc, List.singleton_append]
      congr 3
      apply List.filter_congr
      intro key _
      by_cases hkey : key = family.fuseKey entry <;> simp [hkey]

private theorem idxOf?_append_ne (keys more : List κ) (key : κ) (position : Nat)
    (hposition : position < keys.length) (h : keys.idxOf? key ≠ some position) :
    (keys ++ more).idxOf? key ≠ some position := by
  unfold List.idxOf? at h ⊢
  rw [List.findIdx?_append]
  cases hfound : keys.findIdx? (· == key) with
  | none =>
    intro heq
    obtain ⟨found, -, hsum⟩ := Option.map_eq_some_iff.mp heq
    omega
  | some found => simpa [hfound] using h

theorem getElem?_absorb (family : Family ε κ) (entries : List ε) (entry : ε) (position : Nat)
    (hposition : position < entries.length)
    (h : (entries.map family.fuseKey).idxOf? (family.fuseKey entry) ≠ some position) :
    (family.absorb entries entry)[position]? = entries[position]? := by
  rw [absorb_eq]
  split
  · rename_i found hfound
    have hne : found ≠ position := fun heq => h (heq ▸ hfound)
    simp [hne]
  · exact List.getElem?_append_left hposition

/-- Entries of the base that are not the first with the key of an incoming entry stay. -/
theorem getElem?_foldl_absorb (family : Family ε κ) (incoming base : List ε) (position : Nat)
    (hposition : position < base.length)
    (h : ∀ key ∈ incoming.map family.fuseKey,
      (base.map family.fuseKey).idxOf? key ≠ some position) :
    (incoming.foldl family.absorb base)[position]? = base[position]? := by
  induction incoming generalizing base with
  | nil => rfl
  | cons entry rest ih =>
    rw [List.map_cons] at h
    obtain ⟨hentry, hrest⟩ := List.forall_mem_cons.mp h
    have hlength : base.length ≤ (family.absorb base entry).length := by
      have hkeys := congrArg List.length (map_fuseKey_absorb family base entry)
      split at hkeys <;> simp at hkeys <;> omega
    rw [List.foldl_cons, ih (family.absorb base entry) (by omega) ?_]
    · exact getElem?_absorb family base entry position hposition hentry
    · intro key hkey
      -- A key that is appended stands behind the base, so no position in it becomes a first one.
      rw [map_fuseKey_absorb]
      split
      · exact hrest key hkey
      · exact idxOf?_append_ne _ _ key position (by simpa using hposition) (hrest key hkey)

/-- The entries of the base as fusing leaves them, and the entries that it adds. -/
structure IsFusion {family : Family ε κ} (parts : Mergeable family)
    (base incoming kept added : List ε) : Prop where
  keys_kept : kept.map family.fuseKey = base.map family.fuseKey
  /-- One entry is added for each new key, in the order in which the keys come in. -/
  keys_added : added.map family.fuseKey =
    ((incoming.map family.fuseKey).filter (· ∉ base.map family.fuseKey)).eraseDups
  /-- The first entry with an incoming key has the alternatives of all that come in with it. -/
  gathered : ∀ key ∈ incoming.map family.fuseKey, ∃ original entry,
    family.first? key (base ++ incoming) = some original ∧
      family.first? key (kept ++ added) = some entry ∧
      parts.Gathers original (family.withKey key incoming) entry
  /-- An entry of the base that is not the first with an incoming key stays as it is. -/
  untouched : ∀ position < base.length,
    (∀ key ∈ incoming.map family.fuseKey,
      (base.map family.fuseKey).idxOf? key ≠ some position) →
    kept[position]? = base[position]?

theorem exists_first?_of_mem (family : Family ε κ) (key : κ) (entries : List ε)
    (h : key ∈ entries.map family.fuseKey) :
    ∃ original others, family.first? key entries = some original ∧
      family.withKey key entries = original :: others := by
  obtain ⟨entry, hentry, hkey⟩ := List.mem_map.mp h
  have hmem : entry ∈ family.withKey key entries :=
    List.mem_filter.mpr ⟨hentry, by simpa using hkey⟩
  obtain ⟨original, others, hwith⟩ :=
    List.exists_cons_of_ne_nil (List.ne_nil_of_mem hmem)
  refine ⟨original, others, ?_, hwith⟩
  rw [← family.head?_withKey, hwith, List.head?_cons]

/-- An incoming key has a first entry after fusing, which gathers what came in with it. -/
theorem exists_gathers_foldl_absorb {family : Family ε κ} (parts : Mergeable family)
    (base incoming : List ε) (hplain : ∀ entry ∈ base ++ incoming, parts.Plain entry)
    (key : κ) (h : key ∈ incoming.map family.fuseKey) :
    ∃ original entry, family.first? key (base ++ incoming) = some original ∧
      family.first? key (incoming.foldl family.absorb base) = some entry ∧
      parts.Gathers original (family.withKey key incoming) entry := by
  have hincoming : ∀ entry ∈ family.withKey key incoming, parts.Plain entry := fun entry hmem =>
    hplain entry (List.mem_append_right base (List.mem_filter.mp hmem).1)
  cases hbase : family.first? key base with
  | some original =>
    have horiginal : parts.Plain original :=
      hplain original (List.mem_append_left incoming (List.mem_of_find?_eq_some hbase))
    refine ⟨original, _, ?_, first?_foldl_absorb family incoming base key original hbase,
      parts.gathers_mergeAll original _ horiginal hincoming⟩
    rw [first?_append, hbase, Option.some_or]
  | none =>
    obtain ⟨original, others, hfirst, hwith⟩ := family.exists_first?_of_mem key incoming h
    rw [hwith] at hincoming ⊢
    obtain ⟨horiginal, hothers⟩ := List.forall_mem_cons.mp hincoming
    have hgathers := parts.gathers_mergeAll original others horiginal hothers
    refine ⟨original, _, ?_,
      first?_foldl_absorb_of_none family incoming base key original others hbase hwith,
      hgathers.extended, ?_⟩
    · rw [first?_append, hbase, Option.none_or, hfirst]
    · intro text htext value
      rw [hgathers.alternatives text htext value]
      simp

variable [Hashable κ]

theorem exists_isFusion {family : Family ε κ} (parts : Mergeable family)
    (base incoming : List ε) (hplain : ∀ entry ∈ base ++ incoming, parts.Plain entry) :
    ∃ kept added, family.fuse base incoming = kept ++ added ∧
      (family.fusion base incoming).appended = added.length ∧
      appended base (family.fuse base incoming) = added.length ∧
      IsFusion parts base incoming kept added := by
  rw [← appended_fuse, fuse_eq_foldl_absorb]
  let result := incoming.foldl family.absorb base
  have hkeys : result.map family.fuseKey = _ := map_fuseKey_foldl_absorb family incoming base
  have hlength : base.length ≤ result.length := by
    have hlengths := congrArg List.length hkeys
    simp only [List.length_map, List.length_append] at hlengths
    omega
  have hkept : (base.map family.fuseKey).length = base.length := List.length_map ..
  refine ⟨result.take base.length, result.drop base.length,
    (List.take_append_drop _ _).symm, by simp [appended, result], by simp [appended, result],
    ?_, ?_, ?_, ?_⟩
  · rw [List.map_take, hkeys, ← hkept, List.take_left]
  · rw [List.map_drop, hkeys, ← hkept, List.drop_left]
  · intro key hkey
    rw [List.take_append_drop]
    exact exists_gathers_foldl_absorb parts base incoming hplain key hkey
  · intro position hposition hother
    rw [List.getElem?_take_of_lt hposition]
    exact getElem?_foldl_absorb family incoming base position hposition hother

end Family

def Cpuid.mergeable : Mergeable Cpuid.family where
  texts := [Cpuid.Entry.expectedValue, Cpuid.Entry.specVersion]
  bare entry := { entry with expectedValue := "", specVersion := "" }
  text_merge := by simp [Cpuid.family, Cpuid.Entry.merge]
  bare_merge _ _ := rfl
  fuseKey_bare _ := rfl
  sortKey_bare _ := rfl
  eq_of_texts := by
    rintro ⟨⟩ ⟨⟩ hbare htexts
    simp_all

def Msr.mergeable : Mergeable Msr.family where
  texts := [Msr.Entry.specVersion]
  bare entry := { entry with specVersion := "" }
  text_merge := by simp [Msr.family, Msr.Entry.merge]
  bare_merge _ _ := rfl
  fuseKey_bare _ := rfl
  sortKey_bare _ := rfl
  eq_of_texts := by
    rintro ⟨⟩ ⟨⟩ hbare htexts
    simp_all

/-- Fusing entries of either kind keeps and adds keys, gathers alternatives and touches nothing
else. -/
theorem fuse_isFusion :
    (∀ base incoming : List Cpuid.Entry,
      (∀ entry ∈ base ++ incoming, Cpuid.mergeable.Plain entry) →
      ∃ kept added, Cpuid.family.fuse base incoming = kept ++ added ∧
        (Cpuid.family.fusion base incoming).appended = added.length ∧
        Family.appended base (Cpuid.family.fuse base incoming) = added.length ∧
        Family.IsFusion Cpuid.mergeable base incoming kept added) ∧
    (∀ base incoming : List Msr.Entry,
      (∀ entry ∈ base ++ incoming, Msr.mergeable.Plain entry) →
      ∃ kept added, Msr.family.fuse base incoming = kept ++ added ∧
        (Msr.family.fusion base incoming).appended = added.length ∧
        Family.appended base (Msr.family.fuse base incoming) = added.length ∧
        Family.IsFusion Msr.mergeable base incoming kept added) :=
  ⟨Family.exists_isFusion Cpuid.mergeable, Family.exists_isFusion Msr.mergeable⟩

def Cpuid.leafSevenField (leaf value version : String) : Cpuid.Entry :=
  ⟨leaf, "0x0", some .eax, 3, 0, 4, "Field", value, version⟩

def Msr.plainRead (first version : String) : Msr.Entry :=
  ⟨"Register", first, "0x1", .native, .read, version⟩

theorem fuse_isFusion_repeated_keys :
    let base := [Cpuid.leafSevenField "0x7" "1" "VER1_0 | VER1_5",
      Cpuid.leafSevenField "0x07" "2" "VER1_0"]
    let incoming := [Cpuid.leafSevenField "7" "3" "VER1_5 | VER2_0",
      Cpuid.leafSevenField "0x8" "1" "VER2_0", Cpuid.leafSevenField "0x08" "2" "VER2_0"]
    let reads := [Msr.plainRead "0x10" "VER1_0", Msr.plainRead "0x10" "VER1_5"]
    let moreReads := [Msr.plainRead "0x11" "VER1_5", Msr.plainRead "0x10" " VER2_0 "]
    ((∀ entry ∈ base ++ incoming, Cpuid.mergeable.Plain entry) ∧
      ∃ kept added, Cpuid.family.fuse base incoming = kept ++ added ∧
        (Cpuid.family.fusion base incoming).appended = added.length ∧
        Family.appended base (Cpuid.family.fuse base incoming) = added.length ∧
        Family.IsFusion Cpuid.mergeable base incoming kept added) ∧
    ((∀ entry ∈ reads ++ moreReads, Msr.mergeable.Plain entry) ∧
      ∃ kept added, Msr.family.fuse reads moreReads = kept ++ added ∧
        (Msr.family.fusion reads moreReads).appended = added.length ∧
        Family.appended reads (Msr.family.fuse reads moreReads) = added.length ∧
        Family.IsFusion Msr.mergeable reads moreReads kept added) :=
  ⟨⟨by decide, fuse_isFusion.1 _ _ (by decide)⟩, ⟨by decide, fuse_isFusion.2 _ _ (by decide)⟩⟩

end GuestCases
