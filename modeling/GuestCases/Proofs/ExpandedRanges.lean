import GuestCases.Proofs.DecodedLines
import GuestCases.Proofs.GroupMarkers
import GuestCases.Proofs.LeafPhrases

/-!
Ranges of sub-leaves. A range is expanded when its bounds are numbers in ascending order and at most
256 numbers lie from one to the other, both included; otherwise the first thing that is wrong with
it is the fault. The sub-leaves are then these numbers in normal form, up to the largest word. So a
fixed field below a header with a range has one case for each number of it.
-/

namespace GuestCases.Cpuid

structure SpansRange (first last : String) (low high : Nat) : Prop where
  reads_first : Numeral.readHex first = .ok low
  reads_last : Numeral.readHex last = .ok high
  ordered : low ≤ high
  narrow : high - low < 0x100

structure IsExpansion (low high : Nat) (subleaves : List String) : Prop where
  length : subleaves.length = high - low + 1
  bounded : 1 ≤ subleaves.length ∧ subleaves.length ≤ 256
  texts : ∀ i < subleaves.length, subleaves[i]? = some (Numeral.hexText (low + i))
  normal : ∀ subleaf ∈ subleaves, Numeral.IsNormal subleaf
  numbers : subleaves.map Numeral.readHex = (List.range' low (high - low + 1)).map .ok

inductive IsRangeFault (first last : String) : LeafFault → Prop where
  | firstBound (hfirst : ∀ low, Numeral.readHex first ≠ .ok low) :
    IsRangeFault first last (.invalidBound first)
  | lastBound (low : Nat) (hfirst : Numeral.readHex first = .ok low)
    (hlast : ∀ high, Numeral.readHex last ≠ .ok high) :
    IsRangeFault first last (.invalidBound last)
  | inverted (low high : Nat) (hfirst : Numeral.readHex first = .ok low)
    (hlast : Numeral.readHex last = .ok high) (horder : high < low) :
    IsRangeFault first last (.invertedRange first last)
  | tooWide (low high : Nat) (hfirst : Numeral.readHex first = .ok low)
    (hlast : Numeral.readHex last = .ok high) (horder : low ≤ high)
    (hwidth : 0x100 ≤ high - low) : IsRangeFault first last (.rangeTooWide first last)

def AreCasesOfRange (source : Source) (group : LeafGroup) (row : Row) (low high : Nat)
    (entries : List Entry) : Prop :=
  List.Forall₂ (fun number entry => IsFieldCase source group row (Numeral.hexText number) entry ∧
      entry.subleafValue? = some number)
    (List.range' low (high - low + 1)) entries

/-- The row is a fixed field with a value. The header above it has a leaf phrase, its first range is
the given one, and no row in between says anything of the leaf context. -/
structure IsFieldUnderRange (header : Row) (between : List Row) (row : Row) (name : String)
    (first last : List Char) : Prop where
  no_register : header.register = none
  named : header.name = some name
  leaf : HasLeafPhrase name.toList
  range : StandsFirst RangePhrase name.toList (first, last)
  between : ∀ other ∈ between, other.announced? = none
  register : row.register ≠ none
  fixed : row.virtType = some fixedType
  value : row.virtDetail ≠ none

/-- The entries of the row at the position are its cases at the numbers from `low` to `high`, and
all others are those of the rows before it and of the rows behind it. -/
def GivesRangeAt (source : Source) (rows : List Row) (position : Nat) (group : LeafGroup)
    (row : Row) (low high : Nat) (entries : List Entry) : Prop :=
  ∃ front block back, entries = front ++ (block ++ back) ∧
    AreCasesOfRows source ((inContext rows).take position) front ∧
    AreCasesOfRange source group row low high block ∧
    AreCasesOfRows source ((inContext rows).drop (position + 1)) back

theorem SpansRange.lt_wordBound {first last : String} {low high : Nat}
    (h : SpansRange first last low high) : high < Numeral.wordBound :=
  Numeral.readHex_lt last high h.reads_last

theorem hexTexts_eq_map (low count : Nat) :
    hexTexts low count = (List.range' low count).map Numeral.hexText := by
  rw [hexTexts, List.range'_eq_map_range, List.map_map]
  rfl

theorem isExpansion_hexTexts (low high : Nat) (hwidth : high - low < 0x100)
    (hword : high < Numeral.wordBound) (horder : low ≤ high) :
    IsExpansion low high (hexTexts low (high - low + 1)) where
  length := by simp [hexTexts]
  bounded := by
    simp only [hexTexts, List.length_map, List.length_range]
    omega
  texts i hi := by
    have hlt : i < high - low + 1 := by simpa [hexTexts] using hi
    simp [hexTexts, hlt]
  normal subleaf hsubleaf := by
    obtain ⟨i, -, rfl⟩ := List.mem_map.mp hsubleaf
    exact Numeral.isNormal_hexText _
  numbers := by
    rw [hexTexts_eq_map, List.map_map]
    apply List.map_congr_left
    intro number hnumber
    have hbounds := List.mem_range'_1.mp hnumber
    exact Numeral.readHex_hexText number (by omega)

theorem IsExpansion.eq_hexTexts {low high : Nat} {subleaves : List String}
    (h : IsExpansion low high subleaves) : subleaves = hexTexts low (high - low + 1) := by
  apply List.ext_getElem?
  intro i
  by_cases hi : i < subleaves.length
  · have hlt : i < high - low + 1 := h.length ▸ hi
    rw [h.texts i hi]
    simp [hexTexts, hlt]
  · have hle : high - low + 1 ≤ i := by
      rw [← h.length]
      omega
    rw [List.getElem?_eq_none (by omega), List.getElem?_eq_none (by simpa [hexTexts] using hle)]

theorem expandRange_eq_ok_iff (first last : String) (subleaves : List String) :
    expandRange first last = .ok subleaves ↔
      ∃ low high, SpansRange first last low high ∧ IsExpansion low high subleaves := by
  constructor
  · intro h
    unfold expandRange at h
    split at h
    · cases h
    · rename_i low hfirst
      split at h
      · cases h
      · rename_i high hlast
        split at h
        · cases h
        · rename_i horder
          split at h
          · cases h
          · rename_i hwidth
            obtain rfl := Except.ok.inj h
            have hspans : SpansRange first last low high :=
              ⟨hfirst, hlast, Nat.not_lt.mp horder, Nat.not_le.mp hwidth⟩
            exact ⟨low, high, hspans,
              isExpansion_hexTexts low high hspans.narrow hspans.lt_wordBound hspans.ordered⟩
  · rintro ⟨low, high, hspans, hexpansion⟩
    have horder : ¬high < low := Nat.not_lt.mpr hspans.ordered
    have hwidth : ¬maxSpan ≤ high - low := Nat.not_le.mpr hspans.narrow
    simp only [expandRange, hspans.reads_first, hspans.reads_last, if_neg horder, if_neg hwidth,
      hexpansion.eq_hexTexts]

theorem expandRange_eq_error_iff (first last : String) (fault : LeafFault) :
    expandRange first last = .error fault ↔ IsRangeFault first last fault := by
  unfold expandRange
  constructor
  · intro h
    split at h
    · rename_i cause hfirst
      obtain rfl := Except.error.inj h
      exact .firstBound (by simp [hfirst])
    · rename_i low hfirst
      split at h
      · rename_i cause hlast
        obtain rfl := Except.error.inj h
        exact .lastBound low hfirst (by simp [hlast])
      · rename_i high hlast
        split at h
        · rename_i horder
          obtain rfl := Except.error.inj h
          exact .inverted low high hfirst hlast horder
        · rename_i horder
          split at h
          · rename_i hwidth
            obtain rfl := Except.error.inj h
            exact .tooWide low high hfirst hlast (Nat.not_lt.mp horder) hwidth
          · cases h
  · rintro (⟨hfirst⟩ | ⟨low, hfirst, hlast⟩ | ⟨low, high, hfirst, hlast, horder⟩ |
      ⟨low, high, hfirst, hlast, horder, hwidth⟩)
    · cases hread : Numeral.readHex first with
      | error cause => rfl
      | ok low => exact absurd hread (hfirst low)
    · cases hread : Numeral.readHex last with
      | error cause => simp only [hfirst]
      | ok high => exact absurd hread (hlast high)
    · simp only [hfirst, hlast, if_pos horder]
    · have hwide : maxSpan ≤ high - low := hwidth
      simp only [hfirst, hlast, if_neg (Nat.not_lt.mpr horder), if_pos hwide]

theorem leafContextFrom_append (start : Option LeafGroup) (first second : List Row) :
    leafContextFrom start (first ++ second) =
      leafContextFrom (leafContextFrom start first) second := by
  induction first generalizing start with
  | nil => rfl
  | cons row rest ih => rw [List.cons_append, leafContextFrom_cons, ih, ← leafContextFrom_cons]

/-- Rows that say nothing of the leaf context leave it as it is. -/
theorem leafContextFrom_of_silent (start : Option LeafGroup) (rows : List Row)
    (h : ∀ row ∈ rows, row.announced? = none) : leafContextFrom start rows = start := by
  induction rows with
  | nil => rfl
  | cons row rest ih =>
    obtain ⟨hrow, hrest⟩ := List.forall_mem_cons.mp h
    rw [leafContextFrom_cons, hrow, Option.getD_none, ih hrest]

theorem inContextFrom_append (start : Option LeafGroup) (first second : List Row) :
    inContextFrom start (first ++ second) =
      inContextFrom start first ++ inContextFrom (leafContextFrom start first) second := by
  induction first generalizing start with
  | nil => rfl
  | cons row rest ih =>
    rw [List.cons_append, inContextFrom_cons, ih, inContextFrom_cons start, leafContextFrom_cons,
      List.cons_append]

theorem length_inContextFrom (start : Option LeafGroup) (rows : List Row) :
    (inContextFrom start rows).length = rows.length :=
  List.length_mapIdx

theorem exists_of_areCasesOfRows_cons {source : Source} {row : Option LeafGroup × Row}
    {rows : List (Option LeafGroup × Row)} {entries : List Entry}
    (h : AreCasesOfRows source (row :: rows) entries) :
    ∃ block others, entries = block ++ others ∧ AreFieldCases source row.1 row.2 block ∧
      AreCasesOfRows source rows others := by
  obtain ⟨blocks, hblocks, rfl⟩ := h
  cases hblocks with
  | @cons _ block _ more hrow hrest => exact ⟨block, more.flatten, rfl, hrow, more, hrest, rfl⟩

theorem exists_of_areCasesOfRows_append {source : Source}
    {first second : List (Option LeafGroup × Row)} {entries : List Entry}
    (h : AreCasesOfRows source (first ++ second) entries) :
    ∃ front back, entries = front ++ back ∧ AreCasesOfRows source first front ∧
      AreCasesOfRows source second back := by
  induction first generalizing entries with
  | nil => exact ⟨[], entries, rfl, areCasesOfRows_nil source, h⟩
  | cons row rest ih =>
    obtain ⟨block, others, rfl, hrow, hothers⟩ := exists_of_areCasesOfRows_cons h
    obtain ⟨front, back, rfl, hfront, hback⟩ := ih hothers
    exact ⟨block ++ front, back, (List.append_assoc _ _ _).symm, hfront.cons hrow, hback⟩

/-- A header with a leaf phrase and a range that can be expanded announces its numbers. -/
theorem exists_group_of_spansRange (name : String) (first last : List Char) (low high : Nat)
    (hleaf : HasLeafPhrase name.toList) (hrange : StandsFirst RangePhrase name.toList (first, last))
    (hspans : SpansRange (String.ofList first) (String.ofList last) low high) :
    ∃ group, LeafGroup.ofName name = .ok (some group) ∧
      IsExpansion low high group.subleaves := by
  have hexpansion := isExpansion_hexTexts low high hspans.narrow hspans.lt_wordBound hspans.ordered
  have hexpand := (expandRange_eq_ok_iff _ _ _).mpr ⟨low, high, hspans, hexpansion⟩
  have hsubleaves := (namesSubleaves_iff name.toList _).mp (.range first last hrange)
  cases hfound : leafFrom? true name.toList with
  | none =>
    have hnone := (leafFrom?_eq_none_iff name.toList).mp hfound
    exact absurd hleaf ((standsNowhere_leafPhrase_iff name.toList).mp hnone)
  | some leaf =>
    refine ⟨⟨String.ofList leaf, hexTexts low (high - low + 1)⟩, ?_, hexpansion⟩
    apply (ofName_eq_ok_some_iff name _).mpr
    exact ⟨by rw [hfound, String.toList_ofList], hsubleaves.trans hexpand⟩

/-- The cases of a field in a group of numbered sub-leaves are those at these numbers. -/
theorem areCasesOfRange_of_areFieldCases (source : Source) (group : LeafGroup) (row : Row)
    (low high : Nat) (entries : List Entry) (hword : high < Numeral.wordBound)
    (horder : low ≤ high) (hexpansion : IsExpansion low high group.subleaves)
    (hregister : row.register ≠ none) (hfixed : row.virtType = some fixedType)
    (hvalue : row.virtDetail ≠ none) (h : AreFieldCases source (some group) row entries) :
    AreCasesOfRange source group row low high entries := by
  simp only [AreFieldCases, if_pos (And.intro hregister (And.intro hfixed hvalue))] at h
  rw [hexpansion.eq_hexTexts, hexTexts_eq_map, List.forall₂_map_left_iff] at h
  have hbound : ∀ number ∈ List.range' low (high - low + 1), number < Numeral.wordBound := by
    intro number hnumber
    have hbounds := List.mem_range'_1.mp hnumber
    omega
  unfold AreCasesOfRange
  -- The numbers vary in the induction, of which only the bound is needed.
  generalize List.range' low (high - low + 1) = numbers at h hbound ⊢
  induction h with
  | nil => exact .nil
  | @cons number entry rest others hcase _ ih =>
    obtain ⟨hnumber, hrest⟩ := List.forall_mem_cons.mp hbound
    refine .cons ⟨hcase, ?_⟩ (ih hrest)
    rw [Entry.subleafValue?, hcase.subleaf, Numeral.readHex_hexText number hnumber]
    rfl

/-- The field below a header stands in the group that the header announces. -/
theorem inContext_of_silent (earlier between later : List Row) (header row : Row)
    (group : LeafGroup) (hheader : header.announced? = some (some group))
    (hbetween : ∀ other ∈ between, other.announced? = none) :
    inContext (earlier ++ header :: (between ++ row :: later)) =
      inContext (earlier ++ header :: between) ++
        (some group, row) :: inContextFrom (row.announced?.getD (some group)) later := by
  have hcontext : leafContextFrom none (earlier ++ header :: between) = some group := by
    rw [leafContextFrom_append, leafContextFrom_cons, hheader, Option.getD_some,
      leafContextFrom_of_silent _ _ hbetween]
  have hrows : earlier ++ header :: (between ++ row :: later) =
      (earlier ++ header :: between) ++ row :: later := by simp
  rw [inContext, inContext, hrows, inContextFrom_append, hcontext, inContextFrom_cons]

theorem givesRangeAt_of_accounts (source : Source) (earlier between later : List Row)
    (header row : Row) (name : String) (first last : List Char) (low high : Nat)
    (group : LeafGroup) (build : Build Entry)
    (hfield : IsFieldUnderRange header between row name first last)
    (hspans : SpansRange (String.ofList first) (String.ofList last) low high)
    (hgroup : LeafGroup.ofName name = .ok (some group))
    (hexpansion : IsExpansion low high group.subleaves)
    (h : Accounts source (inContext (earlier ++ header :: (between ++ row :: later))) build) :
    GivesRangeAt source (earlier ++ header :: (between ++ row :: later))
      (earlier.length + 1 + between.length) group row low high
      (build.entries.filter (·.register.isSome)) := by
  have hheader : header.announced? = some (some group) := by
    simp [Row.announced?, hfield.no_register, hfield.named, hgroup]
  have hlocated := inContext_of_silent earlier between later header row group hheader hfield.between
  have hlength : (inContext (earlier ++ header :: between)).length =
      earlier.length + 1 + between.length := by
    rw [inContext, length_inContextFrom, List.length_append, List.length_cons]
    omega
  have hcases : AreCasesOfRows source _ (build.entries.filter (·.register.isSome)) := h.fields
  rw [hlocated] at hcases
  obtain ⟨front, others, hentries, hfront, hothers⟩ := exists_of_areCasesOfRows_append hcases
  obtain ⟨block, back, rfl, hblock, hback⟩ := exists_of_areCasesOfRows_cons hothers
  refine ⟨front, block, back, hentries, ?_, ?_, ?_⟩
  · rwa [hlocated, ← hlength, List.take_left]
  · exact areCasesOfRange_of_areFieldCases source group row low high block hspans.lt_wordBound
      hspans.ordered hexpansion hfield.register hfield.fixed hfield.value hblock
  · rwa [hlocated, ← hlength, ← List.drop_drop, List.drop_left]

/-- A range can be expanded exactly when its bounds are ordered numbers and it holds at most 256 of
them, and it is expanded to these; otherwise its fault is the first thing that is wrong with it.
Every fixed field below a header with such a range has one case for each number of the range. -/
theorem ranges_expand :
    (∀ first last : String,
      (∀ subleaves, expandRange first last = .ok subleaves ↔
        ∃ low high, SpansRange first last low high ∧ IsExpansion low high subleaves) ∧
      ((∃ subleaves, expandRange first last = .ok subleaves) ↔
        ∃ low high, SpansRange first last low high) ∧
      ∀ fault, expandRange first last = .error fault ↔ IsRangeFault first last fault) ∧
    ∀ columns version sheet rows build, rowsOf columns sheet = .ok rows →
      (read columns version sheet).attempt.outcome = .ok build →
      ∀ earlier header between row later name first last low high,
        rows = earlier ++ header :: (between ++ row :: later) →
        IsFieldUnderRange header between row name first last →
        SpansRange (String.ofList first) (String.ofList last) low high →
        ∃ group, LeafGroup.ofName name = .ok (some group) ∧
          IsExpansion low high group.subleaves ∧
          GivesRangeAt ⟨sheet.path, SpecVersion.constant version⟩ rows
            (earlier.length + 1 + between.length) group row low high
            (build.entries.filter (·.register.isSome)) := by
  refine ⟨fun first last => ⟨expandRange_eq_ok_iff first last, ⟨?_, ?_⟩,
    expandRange_eq_error_iff first last⟩, ?_⟩
  · rintro ⟨subleaves, hsubleaves⟩
    obtain ⟨low, high, hspans, -⟩ := (expandRange_eq_ok_iff first last subleaves).mp hsubleaves
    exact ⟨low, high, hspans⟩
  · rintro ⟨low, high, hspans⟩
    exact ⟨_, (expandRange_eq_ok_iff first last _).mpr ⟨low, high, hspans,
      isExpansion_hexTexts low high hspans.narrow hspans.lt_wordBound hspans.ordered⟩⟩
  · intro columns version sheet rows build hrows hbuild earlier header between row later name first
      last low high hdivision hfield hspans
    obtain ⟨hfault, hbuilt⟩ := (Reading.outcome_attempt_eq_ok_iff _ _).mp hbuild
    simp only [read, hrows] at hfault hbuilt
    subst hdivision hbuilt
    obtain ⟨group, hgroup, hexpansion⟩ :=
      exists_group_of_spansRange name first last low high hfield.leaf hfield.range hspans
    exact ⟨group, hgroup, hexpansion, givesRangeAt_of_accounts _ earlier between later header row
      name first last low high group _ hfield hspans hgroup hexpansion
      (accounts_built _ ⟨none, none⟩ _ hfault)⟩

/-- A field at the last two sub-leaves that a word can number, with a caption above it. -/
def lastWordsSheet : Sheet where
  path := "cpuid.csv"
  columns := ["Field", "Reg.", "MSB", "LSB", "Field Size", "Type", "Detail"]
  rows := [
    ⟨["Leaf 7, Sub-Leaves 0xfffffffffffffffe-FFFFFFFFFFFFFFFF", "", "", "", "", "", ""], 2⟩,
    ⟨["Feature Flags", "", "", "", "", "", ""], 3⟩,
    ⟨["Masks", "EBX", "31", "0", "32", "Fixed", "0x6"], 4⟩]

theorem ranges_expand_last_words :
    let name := "Leaf 7, Sub-Leaves 0xfffffffffffffffe-FFFFFFFFFFFFFFFF"
    let header : Row := ⟨2, some name, none, none, none, none, none, none⟩
    let caption : Row := ⟨3, some "Feature Flags", none, none, none, none, none, none⟩
    let row : Row := ⟨4, some "Masks", some "EBX", some "31", some "0", some "32", some "Fixed",
      some "0x6"⟩
    ∃ build group, rowsOf ⟨"Field", ["Type"], ["Detail"]⟩ lastWordsSheet =
        .ok [header, caption, row] ∧
      (read ⟨"Field", ["Type"], ["Detail"]⟩ "1.5" lastWordsSheet).attempt.outcome = .ok build ∧
      IsFieldUnderRange header [caption] row name "0xfffffffffffffffe".toList
        "FFFFFFFFFFFFFFFF".toList ∧
      SpansRange "0xfffffffffffffffe" "FFFFFFFFFFFFFFFF" 0xfffffffffffffffe 0xffffffffffffffff ∧
      GivesRangeAt ⟨"cpuid.csv", "VER1_5"⟩ [header, caption, row] 2 group row 0xfffffffffffffffe
        0xffffffffffffffff (build.entries.filter (·.register.isSome)) := by
  intro name header caption row
  have hleaf : HasLeafPhrase name.toList :=
    ⟨[], '7', ", Sub-Leaves 0xfffffffffffffffe-FFFFFFFFFFFFFFFF".toList, by decide,
      by simp [MayNameLeaf], by decide +kernel⟩
  have hrange : StandsFirst RangePhrase name.toList
      ("0xfffffffffffffffe".toList, "FFFFFFFFFFFFFFFF".toList) :=
    (firstRange?_eq_some_iff name.toList _).mp (by decide +kernel)
  have hsilent : caption.announced? = none := by decide +kernel
  have hfield : IsFieldUnderRange header [caption] row name "0xfffffffffffffffe".toList
      "FFFFFFFFFFFFFFFF".toList :=
    ⟨rfl, rfl, hleaf, hrange, by simpa using hsilent, by simp [row], rfl, by simp [row]⟩
  have hspans : SpansRange "0xfffffffffffffffe" "FFFFFFFFFFFFFFFF" 0xfffffffffffffffe
      0xffffffffffffffff :=
    ⟨by decide +kernel, by decide +kernel, by decide, by decide⟩
  have hrows : rowsOf ⟨"Field", ["Type"], ["Detail"]⟩ lastWordsSheet =
      .ok [header, caption, row] := rfl
  obtain ⟨build, hbuild⟩ : ∃ build, (read ⟨"Field", ["Type"], ["Detail"]⟩ "1.5"
      lastWordsSheet).attempt.outcome = .ok build := ⟨_, rfl⟩
  obtain ⟨group, -, -, hgives⟩ := ranges_expand.2 ⟨"Field", ["Type"], ["Detail"]⟩ "1.5"
    lastWordsSheet _ build hrows hbuild [] header [caption] row [] name _ _ _ _ rfl hfield hspans
  exact ⟨build, group, hrows, hbuild, hfield, hspans, hgives⟩

end GuestCases.Cpuid
