import GuestCases.Proofs.ExpandedRanges
import GuestCases.Proofs.SourceOrder

/-!
Where the markers stand once several sheets are fused. A marker has the first sub-leaf of its group
and no register. So it stands behind the fields of that sub-leaf and before those of all others:
behind its whole group exactly when the group has one sub-leaf.
-/

namespace GuestCases

theorem keysInOrder_cons_self (a : Int) (first second : List Int) :
    keysInOrder (a :: first) (a :: second) = keysInOrder first second := by
  simp [keysInOrder]

theorem keysInOrder_cons_of_lt (a b : Int) (first second : List Int) (h : a < b) :
    keysInOrder (b :: second) (a :: first) = false := by
  have hnlt : ¬b < a := by omega
  have hne : b ≠ a := by omega
  simp [keysInOrder, hnlt, hne]

namespace Family

variable {ε κ : Type}

/-- What stands for the first entry and what stands for the second one are found, the former before
the latter. -/
structure StandsBefore (family : Family ε κ) (entries : List ε) (first second : ε) : Prop where
  first_mem : ∃ x ∈ entries, family.fuseKey x = family.fuseKey first
  second_mem : ∃ y ∈ entries, family.fuseKey y = family.fuseKey second
  lt : ∀ (i j : Nat) (x y : ε), entries[i]? = some x → entries[j]? = some y →
    family.fuseKey x = family.fuseKey first → family.fuseKey y = family.fuseKey second → i < j

theorem StandsBefore.not_flip {family : Family ε κ} {entries : List ε} {first second : ε}
    (h : family.StandsBefore entries first second) :
    ¬family.StandsBefore entries second first := by
  intro hflip
  obtain ⟨x, hx, hfirst⟩ := h.first_mem
  obtain ⟨y, hy, hsecond⟩ := h.second_mem
  obtain ⟨i, hi⟩ := List.mem_iff_getElem?.mp hx
  obtain ⟨j, hj⟩ := List.mem_iff_getElem?.mp hy
  have hlt : i < j := h.lt i j x y hi hj hfirst hsecond
  have hgt : j < i := hflip.lt j i y x hj hi hsecond hfirst
  omega

/-- In ordered entries those with a smaller sort key stand before those with a larger one. -/
theorem standsBefore_of_ordered {family : Family ε κ} (hcoherent : family.Coherent)
    (entries : List ε) (first second : ε) (hordered : family.Ordered entries)
    (hfirst : ∃ x ∈ entries, family.fuseKey x = family.fuseKey first)
    (hsecond : ∃ y ∈ entries, family.fuseKey y = family.fuseKey second)
    (hlt : family.inOrder second first = false) : family.StandsBefore entries first second := by
  refine ⟨hfirst, hsecond, fun i j x y hx hy hxkey hykey => ?_⟩
  have hyx : family.inOrder y x = false := by
    rw [inOrder, hcoherent x first hxkey, hcoherent y second hykey]
    exact hlt
  obtain ⟨hi, rfl⟩ := List.getElem?_eq_some_iff.mp hx
  obtain ⟨hj, rfl⟩ := List.getElem?_eq_some_iff.mp hy
  by_contra hle
  have hinorder : family.inOrder entries[j] entries[i] = true := by
    rcases Nat.lt_or_eq_of_le (Nat.not_lt.mp hle) with hji | rfl
    · exact List.pairwise_iff_getElem.mp hordered j i hj hi hji
    · exact keysInOrder_refl _
  rw [hyx] at hinorder
  cases hinorder

/-- Neighbours with different sort keys may change places. -/
theorem sameOrder_swap (family : Family ε κ) (first second : ε) (rest : List ε)
    (h : family.sortKey first ≠ family.sortKey second) :
    family.SameOrder (first :: second :: rest) (second :: first :: rest) := by
  intro key
  by_cases hfirst : family.sortKey first = key
  · have hsecond : family.sortKey second ≠ key := fun heq => h (hfirst.trans heq.symm)
    simp [atSortKey, hfirst, hsecond]
  · simp [atSortKey, hfirst, List.filter_cons]

variable [DecidableEq κ] [Hashable κ]

/-- What stands for an entry is found among the assembled ones. -/
theorem exists_mem_assemble {family : Family ε κ} (hcoherent : family.Coherent)
    (batches : List (List ε)) (entry : ε) (hentry : entry ∈ batches.flatten) :
    ∃ found ∈ family.assemble batches, family.fuseKey found = family.fuseKey entry := by
  match batches with
  | [] => cases hentry
  | [batch] =>
    have hbatch : entry ∈ batch := by simpa using hentry
    exact ⟨entry, hbatch, rfl⟩
  | first :: second :: rest =>
    have hkey : family.fuseKey entry ∈
        ((second :: rest).flatten.foldl family.absorb first).map family.fuseKey := by
      rw [mem_map_fuseKey_foldl_absorb]
      exact List.mem_map_of_mem hentry
    obtain ⟨found, hfound, heq⟩ := List.mem_map.mp hkey
    refine ⟨found, ?_, heq⟩
    rw [assemble_eq_sort_fuse hcoherent, fuse_eq_foldl_absorb]
    exact (family.sort_perm _).mem_iff.mpr hfound

/-- Two batches or more are assembled in order. -/
theorem ordered_assemble {family : Family ε κ} (hcoherent : family.Coherent)
    (batches : List (List ε)) (hseveral : 2 ≤ batches.length) :
    family.Ordered (family.assemble batches) := by
  match batches, hseveral with
  | first :: second :: rest, _ =>
    rw [assemble_eq_sort_fuse hcoherent]
    exact family.ordered_sort _

theorem standsBefore_assemble {family : Family ε κ} (hcoherent : family.Coherent)
    (batches : List (List ε)) (hseveral : 2 ≤ batches.length) (first second : ε)
    (hfirst : first ∈ batches.flatten) (hsecond : second ∈ batches.flatten)
    (hlt : family.inOrder second first = false) :
    family.StandsBefore (family.assemble batches) first second :=
  standsBefore_of_ordered hcoherent _ first second (ordered_assemble hcoherent batches hseveral)
    (exists_mem_assemble hcoherent batches first hfirst)
    (exists_mem_assemble hcoherent batches second hsecond) hlt

end Family

namespace Cpuid

theorem Register.rank_lt (register : Option Register) (h : register ≠ none) :
    Register.rank register < Register.rank none := by
  cases register with
  | none => exact absurd rfl h
  | some register => cases register <;> decide

/-- Entries of one leaf stand in the order of what follows it in their sort keys. -/
theorem inOrder_of_leaf_eq (first second : Entry) (h : first.leaf = second.leaf) :
    family.inOrder first second = keysInOrder first.sortKey.tail second.sortKey.tail := by
  show keysInOrder first.sortKey second.sortKey = _
  rw [Entry.sortKey, Entry.sortKey, Entry.leafValue?, Entry.leafValue?, h, keysInOrder_cons_self]
  rfl

/-- A field of the marker's sub-leaf has a smaller sort key than the marker. -/
theorem inOrder_marker_field (marker field : Entry) (hleaf : field.leaf = marker.leaf)
    (hsubleaf : field.subleaf = marker.subleaf) (hfield : field.register ≠ none)
    (hmarker : marker.register = none) : family.inOrder marker field = false := by
  have hrank := Register.rank_lt field.register hfield
  rw [inOrder_of_leaf_eq marker field hleaf.symm, Entry.sortKey, Entry.sortKey, List.tail_cons,
    List.tail_cons, Entry.subleafValue?, Entry.subleafValue?, hsubleaf, hmarker,
    keysInOrder_cons_self]
  exact keysInOrder_cons_of_lt _ _ _ _ (by omega)

/-- Of entries of one leaf, one with a smaller sub-leaf has a smaller sort key. -/
theorem inOrder_of_subleaf_lt (first second : Entry) (low high : Nat)
    (hleaf : first.leaf = second.leaf) (hfirst : Numeral.readHex first.subleaf = .ok low)
    (hsecond : Numeral.readHex second.subleaf = .ok high) (hlt : low < high) :
    family.inOrder second first = false := by
  rw [inOrder_of_leaf_eq second first hleaf.symm, Entry.sortKey, Entry.sortKey, List.tail_cons,
    List.tail_cons, Entry.subleafValue?, Entry.subleafValue?, hfirst, hsecond]
  simp only [Except.toOption, Option.getD_some]
  exact keysInOrder_cons_of_lt _ _ _ _ (by omega)

/-- The first sub-leaf of a group is a number below all others, if there are others. -/
theorem LeafGroup.subleaves_ascend (name : String) (group : LeafGroup)
    (h : LeafGroup.ofName name = .ok (some group)) :
    ∃ first others, group.subleaves = first :: others ∧
      ∀ subleaf ∈ others, ∃ low high, Numeral.readHex first = .ok low ∧
        Numeral.readHex subleaf = .ok high ∧ low < high := by
  have hsubleaves := ((ofName_eq_ok_some_iff name group).mp h).2
  unfold subleavesOf at hsubleaves
  split at hsubleaves
  · rename_i first last hrange
    obtain ⟨low, high, hspans, hexpansion⟩ := (expandRange_eq_ok_iff _ _ _).mp hsubleaves
    have hword := hspans.lt_wordBound
    refine ⟨Numeral.hexText low, (List.range' (low + 1) (high - low)).map Numeral.hexText, ?_, ?_⟩
    · rw [hexpansion.eq_hexTexts, hexTexts_eq_map, List.range'_succ, List.map_cons]
    · rw [List.forall_mem_map]
      intro number hnumber
      have hbounds := List.mem_range'_1.mp hnumber
      exact ⟨low, number, Numeral.readHex_hexText low (by omega),
        Numeral.readHex_hexText number (by omega), by omega⟩
  · split at hsubleaves
    · exact ⟨_, [], (Except.ok.inj hsubleaves).symm, by simp⟩
    · exact ⟨_, [], (Except.ok.inj hsubleaves).symm, by simp⟩

/-- The contexts of a part of the rows are those of the part read from where it begins. -/
theorem exists_inContextFrom_of_append (start : Option LeafGroup) (rows : List Row)
    (front back : List (Option LeafGroup × Row)) (h : inContextFrom start rows = front ++ back) :
    ∃ first second, front = inContextFrom start first ∧
      back = inContextFrom (leafContextFrom start first) second := by
  induction front generalizing start rows with
  | nil => exact ⟨[], rows, rfl, h.symm⟩
  | cons located others ih =>
    cases rows with
    | nil => cases h
    | cons row rest =>
      rw [inContextFrom_cons, List.cons_append] at h
      obtain ⟨rfl, hrest⟩ := List.cons.inj h
      obtain ⟨first, second, rfl, rfl⟩ := ih _ rest hrest
      exact ⟨row :: first, second, (inContextFrom_cons _ _ _).symm, by rw [leafContextFrom_cons]⟩

/-- Rows that say nothing of the leaf context all stand in the one before them. -/
theorem inContextFrom_of_silent (start : Option LeafGroup) (rows : List Row)
    (h : ∀ located ∈ inContextFrom start rows, located.2.announced? = none) :
    ∀ located ∈ inContextFrom start rows, located.1 = start := by
  induction rows with
  | nil => simp [inContextFrom]
  | cons row rest ih =>
    rw [inContextFrom_cons] at h ⊢
    obtain ⟨hrow, hrest⟩ := List.forall_mem_cons.mp h
    rw [hrow, Option.getD_none] at hrest ⊢
    exact List.forall_mem_cons.mpr ⟨rfl, ih hrest⟩

theorem Row.announced?_of_caption? (row : Row) (h : row.caption? = none) :
    row.announced? = none := by
  unfold Row.caption? at h
  unfold Row.announced?
  split at h
  · rename_i hregister
    simp [hregister, h]
  · rename_i register hregister
    simp [hregister]

/-- The rows below a header stand in one leaf context. -/
theorem IsDivision.exists_context {rows : List Row} {above : List (Option LeafGroup × Row)}
    {passages : List Passage} (h : IsDivision (inContext rows) above passages)
    (passage : Passage) (hpassage : passage ∈ passages) :
    ∃ context, ∀ located ∈ passage.below, located.1 = context := by
  obtain ⟨earlier, later, rfl⟩ := List.append_of_mem hpassage
  have hrows : inContext rows =
      (above ++ earlier.flatMap Passage.rows ++ [passage.header]) ++
        (passage.below ++ later.flatMap Passage.rows) := by
    rw [h.rows_eq, List.flatMap_append, List.flatMap_cons, Passage.rows]
    simp only [List.append_assoc, List.cons_append, List.nil_append]
  obtain ⟨before, behind, -, hbehind⟩ := exists_inContextFrom_of_append none rows _ _ hrows
  obtain ⟨below, -, hbelow, -⟩ := exists_inContextFrom_of_append _ behind _ _ hbehind.symm
  refine ⟨_, hbelow ▸ inContextFrom_of_silent _ below ?_⟩
  rw [← hbelow]
  exact fun located hlocated =>
    located.2.announced?_of_caption? (h.below passage hpassage located hlocated)

/-- The entries are fields of the group, and the first ones go through its sub-leaves. -/
structure CoverGroup (group : LeafGroup) (entries : List Entry) : Prop where
  register : ∀ entry ∈ entries, entry.register ≠ none
  leaf : ∀ entry ∈ entries, entry.leaf = group.leaf
  subleaf : ∀ entry ∈ entries, entry.subleaf ∈ group.subleaves
  subleaves : entries ≠ [] → group.subleaves <+: entries.map Entry.subleaf

theorem coverGroup_nil (group : LeafGroup) : CoverGroup group [] :=
  ⟨by simp, by simp, by simp, by simp⟩

theorem CoverGroup.append {group : LeafGroup} {block others : List Entry}
    (h : CoverGroup group block) (h' : CoverGroup group others) :
    CoverGroup group (block ++ others) where
  register := List.forall_mem_append.mpr ⟨h.register, h'.register⟩
  leaf := List.forall_mem_append.mpr ⟨h.leaf, h'.leaf⟩
  subleaf := List.forall_mem_append.mpr ⟨h.subleaf, h'.subleaf⟩
  subleaves hne := by
    by_cases hblock : block = []
    · subst hblock
      exact h'.subleaves hne
    · rw [List.map_append]
      exact (h.subleaves hblock).trans (List.prefix_append _ _)

theorem coverGroup_of_areFieldCases (source : Source) (group : LeafGroup) (row : Row)
    (entries : List Entry) (h : AreFieldCases source (some group) row entries) :
    CoverGroup group entries := by
  simp only [AreFieldCases] at h
  split at h
  · have hsubleaves : group.subleaves = entries.map Entry.subleaf := by
      rw [← List.forall₂_eq_eq_eq, List.forall₂_map_right_iff]
      exact h.imp fun _ _ hcase => hcase.subleaf.symm
    refine ⟨?_, ?_, ?_, fun _ => hsubleaves ▸ List.prefix_rfl⟩
    · intro entry hentry
      obtain ⟨subleaf, -, hcase⟩ := exists_of_forall₂ h entry hentry
      exact hcase.register_ne_none
    · intro entry hentry
      obtain ⟨subleaf, -, hcase⟩ := exists_of_forall₂ h entry hentry
      exact hcase.leaf
    · intro entry hentry
      rw [hsubleaves]
      exact List.mem_map_of_mem hentry
  · subst h
    exact coverGroup_nil group

/-- The cases of rows in one leaf group cover it. -/
theorem coverGroup_of_areCasesOfRows (source : Source) (group : LeafGroup)
    (rows : List (Option LeafGroup × Row)) (entries : List Entry)
    (hcontext : ∀ located ∈ rows, located.1 = some group)
    (h : AreCasesOfRows source rows entries) : CoverGroup group entries := by
  induction rows generalizing entries with
  | nil =>
    obtain ⟨_, hblocks, rfl⟩ := h
    cases hblocks
    exact coverGroup_nil group
  | cons located rest ih =>
    obtain ⟨hlocated, hrest⟩ := List.forall_mem_cons.mp hcontext
    obtain ⟨block, others, rfl, hblock, hothers⟩ := exists_of_areCasesOfRows_cons h
    rw [hlocated] at hblock
    exact (coverGroup_of_areFieldCases source group located.2 block hblock).append
      (ih others hrest hothers)

/-- Rows outside any leaf group have no cases. -/
theorem eq_nil_of_areCasesOfRows (source : Source) (rows : List (Option LeafGroup × Row))
    (entries : List Entry) (hcontext : ∀ located ∈ rows, located.1 = none)
    (h : AreCasesOfRows source rows entries) : entries = [] := by
  obtain ⟨blocks, hblocks, rfl⟩ := h
  apply List.flatten_eq_nil_iff.mpr
  intro block hblock
  obtain ⟨located, hlocated, hcases⟩ := exists_of_forall₂ hblocks block hblock
  rwa [hcontext located hlocated] at hcases

structure SheetBatch where
  columns : Columns
  version : String
  sheet : Sheet
  rows : List Row
  build : Build Entry
  rows_eq : rowsOf columns sheet = .ok rows
  build_eq : (read columns version sheet).attempt.outcome = .ok build

def SheetBatch.source (batch : SheetBatch) : Source :=
  ⟨batch.sheet.path, SpecVersion.constant batch.version⟩

def assembled (batches : List SheetBatch) : List Entry :=
  family.assemble (batches.map (·.build.entries))

/-- Where the marker of a group stands among the fields below its header: behind those of its own
sub-leaf and before those of all others. -/
structure MarkerStands (result : List Entry) (group : LeafGroup) (marker : Entry)
    (fields : List Entry) : Prop where
  covers : CoverGroup group fields
  subleaf : marker.subleaf = group.firstSubleaf
  behind : ∀ field ∈ fields, field.subleaf = marker.subleaf →
    family.StandsBefore result field marker
  before : ∀ field ∈ fields, field.subleaf ≠ marker.subleaf →
    family.StandsBefore result marker field
  behind_all_iff : (∀ field ∈ fields, family.StandsBefore result field marker) ↔
    group.subleaves.length = 1

/-- What a passage comes to, if anything, is a marker that stands so and the fields of its group. -/
def MarkerStandsIn (result : List Entry) (passage : Passage) (share : List Entry) : Prop :=
  ∀ marker fields, share = marker :: fields → marker.register = none ∧
    ∃ group, (∀ located ∈ passage.below, located.1 = some group) ∧
      MarkerStands result group marker fields

/-- A sheet that can be read comes to what its passages come to. -/
theorem SheetBatch.exists_shares (batch : SheetBatch) :
    ∃ above passages shares, IsDivision (inContext batch.rows) above passages ∧
      List.Forall₂ (PassageGives batch.source) passages shares ∧
      batch.build.entries = shares.flatten := by
  obtain ⟨hfault, hbuilt⟩ := (Reading.outcome_attempt_eq_ok_iff _ _).mp batch.build_eq
  simp only [read, batch.rows_eq] at hfault hbuilt
  obtain ⟨above, passages, cases, shares, hdivision, -, hnone, hshares, hentries⟩ :=
    dividesInto_built _ ⟨none, none⟩ batch.rows (by simp [Context.HasSubleaves]) hfault
  obtain rfl := hnone rfl
  refine ⟨above, passages, shares, hdivision, hshares, ?_⟩
  rw [← hbuilt]
  exact hentries

section Assembled

variable {batches : List SheetBatch} (hseveral : 2 ≤ batches.length) {marker field : Entry}
  (hmarker : marker ∈ (batches.map (·.build.entries)).flatten)
  (hfield : field ∈ (batches.map (·.build.entries)).flatten)

include hseveral hmarker hfield

theorem field_standsBefore_marker (hleaf : field.leaf = marker.leaf)
    (hsubleaf : field.subleaf = marker.subleaf) (hregister : field.register ≠ none)
    (hnone : marker.register = none) :
    family.StandsBefore (assembled batches) field marker := by
  apply Family.standsBefore_assemble family_coherent _ _ field marker hfield hmarker
  · exact inOrder_marker_field marker field hleaf hsubleaf hregister hnone
  · rwa [List.length_map]

theorem marker_standsBefore_field (low high : Nat) (hleaf : field.leaf = marker.leaf)
    (hlow : Numeral.readHex marker.subleaf = .ok low)
    (hhigh : Numeral.readHex field.subleaf = .ok high) (hlt : low < high) :
    family.StandsBefore (assembled batches) marker field := by
  apply Family.standsBefore_assemble family_coherent _ _ marker field hmarker hfield
  · exact inOrder_of_subleaf_lt marker field low high hleaf.symm hlow hhigh hlt
  · rwa [List.length_map]

end Assembled

/-- Markers of a group with one sub-leaf stand behind it, any other amid it. -/
theorem markerStands_of_covers (name : String) (group : LeafGroup) (batches : List SheetBatch)
    (hseveral : 2 ≤ batches.length) (first : Entry) (rest : List Entry) (caption version : String)
    (hname : LeafGroup.ofName name = .ok (some group)) (hcovers : CoverGroup group (first :: rest))
    (hmem : ∀ entry ∈ Entry.marker first.leaf first.subleaf caption version :: first :: rest,
      entry ∈ (batches.map (·.build.entries)).flatten) :
    MarkerStands (assembled batches) group
      (Entry.marker first.leaf first.subleaf caption version) (first :: rest) := by
  obtain ⟨least, others, hsubleaves, hascend⟩ := group.subleaves_ascend name hname
  have hprefix := hcovers.subleaves (List.cons_ne_nil first rest)
  rw [hsubleaves, List.map_cons, List.cons_prefix_cons] at hprefix
  obtain ⟨rfl, hothers⟩ := hprefix
  obtain ⟨hmarker, hfields⟩ := List.forall_mem_cons.mp hmem
  have hleaf : ∀ field ∈ first :: rest, field.leaf = first.leaf := fun field hfield =>
    (hcovers.leaf field hfield).trans (hcovers.leaf first List.mem_cons_self).symm
  have hbehind : ∀ field ∈ first :: rest, field.subleaf = first.subleaf →
      family.StandsBefore (assembled batches) field
        (Entry.marker first.leaf first.subleaf caption version) := fun field hfield hsame =>
    field_standsBefore_marker hseveral hmarker (hfields field hfield) (hleaf field hfield) hsame
      (hcovers.register field hfield) rfl
  have hbefore : ∀ field ∈ first :: rest, field.subleaf ∈ others →
      family.StandsBefore (assembled batches)
        (Entry.marker first.leaf first.subleaf caption version) field := by
    intro field hfield hother
    obtain ⟨low, high, hlow, hhigh, hlt⟩ := hascend field.subleaf hother
    exact marker_standsBefore_field hseveral hmarker (hfields field hfield) low high
      (hleaf field hfield) hlow hhigh hlt
  refine ⟨hcovers, ?_, hbehind, ?_, ?_⟩
  · simp [LeafGroup.firstSubleaf, hsubleaves, Entry.marker]
  · intro field hfield hne
    have hsubleaf := hcovers.subleaf field hfield
    rw [hsubleaves, List.mem_cons] at hsubleaf
    exact hbefore field hfield (hsubleaf.resolve_left hne)
  · rw [hsubleaves, List.length_cons, Nat.add_eq_right, List.length_eq_zero_iff]
    constructor
    · intro hall
      by_contra hne
      -- Some field belongs to the second sub-leaf.
      obtain ⟨second, hsecond⟩ := List.exists_mem_of_ne_nil others hne
      obtain ⟨field, hfield, rfl⟩ := List.mem_map.mp (hothers.subset hsecond)
      have hinside := List.mem_cons_of_mem first hfield
      exact (hall field hinside).not_flip (hbefore field hinside hsecond)
    · rintro rfl field hfield
      have hsubleaf := hcovers.subleaf field hfield
      rw [hsubleaves, List.mem_singleton] at hsubleaf
      exact hbehind field hfield hsubleaf

/-- The group below a header with fields is one that some header announces. -/
theorem IsDivision.exists_ofName {rows : List Row} {above : List (Option LeafGroup × Row)}
    {passages : List Passage} (h : IsDivision (inContext rows) above passages)
    (passage : Passage) (hpassage : passage ∈ passages) (group : LeafGroup)
    (located : Option LeafGroup × Row) (hlocated : located ∈ passage.below)
    (hgroup : located.1 = some group) : ∃ name, LeafGroup.ofName name = .ok (some group) := by
  apply exists_ofName_of_mem_inContext rows group located.2
  rw [h.rows_eq, ← hgroup]
  apply List.mem_append_right
  exact List.mem_flatMap.mpr ⟨passage, hpassage, List.mem_cons_of_mem _ hlocated⟩

theorem markerStandsIn_of_gives (batches : List SheetBatch) (hseveral : 2 ≤ batches.length)
    (source : Source) (rows : List Row) (above : List (Option LeafGroup × Row))
    (passages : List Passage) (hdivision : IsDivision (inContext rows) above passages)
    (passage : Passage) (hpassage : passage ∈ passages) (share : List Entry)
    (hmem : ∀ entry ∈ share, entry ∈ (batches.map (·.build.entries)).flatten)
    (h : PassageGives source passage share) :
    MarkerStandsIn (assembled batches) passage share := by
  rintro marker fields rfl
  cases h with
  | marked first rest hcases hregisters hversion hleaf =>
    refine ⟨rfl, ?_⟩
    obtain ⟨context, hcontext⟩ := hdivision.exists_context passage hpassage
    cases context with
    | none => cases eq_nil_of_areCasesOfRows source _ _ hcontext hcases
    | some group =>
      have hcovers := coverGroup_of_areCasesOfRows source group _ _ hcontext hcases
      have hrows : passage.below ≠ [] := by
        intro hnil
        rw [hnil] at hcases
        obtain ⟨_, hblocks, hentries⟩ := hcases
        cases hblocks
        cases hentries
      obtain ⟨located, hlocated⟩ := List.exists_mem_of_ne_nil _ hrows
      obtain ⟨name, hname⟩ := hdivision.exists_ofName passage hpassage group located hlocated
        (hcontext located hlocated)
      exact ⟨group, hcontext, markerStands_of_covers name group batches hseveral first rest _ _
        hname hcovers hmem⟩

/-- Two sheets or more are assembled so that the marker of every passage of every sheet stands
behind the fields of the first sub-leaf of its group and before those of all others. It stands
behind all fields of its group exactly when that has a single sub-leaf. -/
theorem markers_stand_in_assembled (batches : List SheetBatch) (hseveral : 2 ≤ batches.length)
    (batch : SheetBatch) (hbatch : batch ∈ batches) :
    ∃ above passages shares, IsDivision (inContext batch.rows) above passages ∧
      List.Forall₂ (PassageGives batch.source) passages shares ∧
      batch.build.entries = shares.flatten ∧
      List.Forall₂ (MarkerStandsIn (assembled batches)) passages shares := by
  obtain ⟨above, passages, shares, hdivision, hshares, hentries⟩ := batch.exists_shares
  refine ⟨above, passages, shares, hdivision, hshares, hentries, ?_⟩
  have hgives := List.forall₂_iff_zip.mp hshares
  refine List.forall₂_iff_zip.mpr ⟨hgives.1, fun {passage share} hpair => ?_⟩
  obtain ⟨hpassage, hshare⟩ := List.of_mem_zip hpair
  apply markerStandsIn_of_gives batches hseveral batch.source batch.rows above passages hdivision
    passage hpassage share _ (hgives.2 hpair)
  intro entry hentry
  apply List.mem_flatten.mpr
  refine ⟨batch.build.entries, List.mem_map_of_mem hbatch, ?_⟩
  rw [hentries]
  exact List.mem_flatten.mpr ⟨share, hshare, hentry⟩

def twoSubleavesSheet : Sheet where
  path := "cpuid.csv"
  columns := ["Field Name", "Reg.", "MSB", "LSB", "Field Size", "Virtualization Type",
    "Virtualization Details"]
  rows := [
    ⟨["Leaf 0x4, Sub-Leaves 0x0-0x1", "", "", "", "", "", ""], 2⟩,
    ⟨["Masks", "EBX", "31", "0", "32", "Fixed", "0x6"], 3⟩]

def twoSubleavesMarker : Entry :=
  .marker "0x4" "0x0" "Leaf 0x4, Sub-Leaves 0x0-0x1" "VER1_0"

def twoSubleavesField (subleaf : String) : Entry :=
  ⟨"0x4", subleaf, some .ebx, 31, 0, 32, "Masks", "0x6", "VER1_0"⟩

def twoSubleaves : SheetBatch where
  columns := ⟨"Field Name", ["Virtualization Type"], ["Virtualization Details"]⟩
  version := "1.0"
  sheet := twoSubleavesSheet
  rows := [
    ⟨2, some "Leaf 0x4, Sub-Leaves 0x0-0x1", none, none, none, none, none, none⟩,
    ⟨3, some "Masks", some "EBX", some "31", some "0", some "32", some "Fixed", some "0x6"⟩]
  build := ⟨[twoSubleavesMarker, twoSubleavesField "0x0", twoSubleavesField "0x1"], []⟩
  rows_eq := by decide +kernel
  build_eq := by decide +kernel

theorem markers_stand_in_assembled_twice :
    2 ≤ [twoSubleaves, twoSubleaves].length ∧ twoSubleaves ∈ [twoSubleaves, twoSubleaves] ∧
      ∃ above passages shares, IsDivision (inContext twoSubleaves.rows) above passages ∧
        List.Forall₂ (PassageGives twoSubleaves.source) passages shares ∧
        [twoSubleavesMarker, twoSubleavesField "0x0", twoSubleavesField "0x1"] = shares.flatten ∧
        List.Forall₂ (MarkerStandsIn (assembled [twoSubleaves, twoSubleaves])) passages shares := by
  have hbatch : twoSubleaves ∈ [twoSubleaves, twoSubleaves] := by simp
  exact ⟨by simp, hbatch,
    markers_stand_in_assembled [twoSubleaves, twoSubleaves] (by simp) twoSubleaves hbatch⟩

theorem assembled_twoSubleaves :
    assembled [twoSubleaves, twoSubleaves] =
      [twoSubleavesField "0x0", twoSubleavesMarker, twoSubleavesField "0x1"] := by
  have hfuse : family.fuse twoSubleaves.build.entries twoSubleaves.build.entries =
      [twoSubleavesMarker, twoSubleavesField "0x0", twoSubleavesField "0x1"] := by
    rw [Family.fuse_eq_foldl_absorb]
    decide +kernel
  have hswap := family.sameOrder_swap twoSubleavesMarker (twoSubleavesField "0x0")
    [twoSubleavesField "0x1"] (by decide +kernel)
  have hordered : family.Ordered
      [twoSubleavesField "0x0", twoSubleavesMarker, twoSubleavesField "0x1"] := by
    unfold Family.Ordered
    decide +kernel
  have hassemble : assembled [twoSubleaves, twoSubleaves] =
      family.sort (family.fuse twoSubleaves.build.entries twoSubleaves.build.entries) :=
    Family.assemble_eq_sort_fuse family_coherent _ _ []
  rw [hassemble, hfuse, hswap.sort_eq, family.sort_of_ordered _ hordered]

def twoSubleavesPassage : Passage where
  header := (none, ⟨2, some "Leaf 0x4, Sub-Leaves 0x0-0x1", none, none, none, none, none, none⟩)
  caption := "Leaf 0x4, Sub-Leaves 0x0-0x1"
  below := [(some ⟨"0x4", ["0x0", "0x1"]⟩,
    ⟨3, some "Masks", some "EBX", some "31", some "0", some "32", some "Fixed", some "0x6"⟩)]

/-- The marker of a group with two sub-leaves stands before a field of the second one. -/
theorem marker_amid_two_subleaves :
    let fields := [twoSubleavesField "0x0", twoSubleavesField "0x1"]
    IsDivision (inContext twoSubleaves.rows) [] [twoSubleavesPassage] ∧
      PassageGives twoSubleaves.source twoSubleavesPassage (twoSubleavesMarker :: fields) ∧
      twoSubleaves.build.entries = twoSubleavesMarker :: fields ∧
      assembled [twoSubleaves, twoSubleaves] =
        [twoSubleavesField "0x0", twoSubleavesMarker, twoSubleavesField "0x1"] ∧
      ¬∀ field ∈ fields, family.StandsBefore (assembled [twoSubleaves, twoSubleaves]) field
        twoSubleavesMarker := by
  intro fields
  have hdivision : IsDivision (inContext twoSubleaves.rows) [] [twoSubleavesPassage] :=
    ⟨by decide +kernel, by simp, by decide, by decide⟩
  have hcases : AreCasesOfRows twoSubleaves.source twoSubleavesPassage.below fields := by
    have hfields := forall₂_fieldEntries twoSubleaves.source ⟨"0x4", ["0x0", "0x1"]⟩
      ⟨3, some "Masks", some "EBX", some "31", some "0", some "32", some "Fixed", some "0x6"⟩
      ⟨.ebx, 31, 0, 32⟩ "EBX" "0x6" rfl (by decide +kernel) rfl
    exact ⟨[fields], .cons hfields .nil, rfl⟩
  have hgives : PassageGives twoSubleaves.source twoSubleavesPassage
      (twoSubleavesMarker :: fields) :=
    .marked _ _ hcases (by decide) (by decide) ⟨_, rfl⟩
  refine ⟨hdivision, hgives, rfl, assembled_twoSubleaves, ?_⟩
  intro hall
  have hlast := hall (twoSubleavesField "0x1") (by simp [fields])
  rw [assembled_twoSubleaves] at hlast
  have hlt : 2 < 1 := hlast.lt 2 1 _ _ rfl rfl rfl rfl
  omega

end Cpuid

end GuestCases
