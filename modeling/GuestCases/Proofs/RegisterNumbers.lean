import GuestCases.Proofs.DecodedLines
import GuestCases.Proofs.FusedMarkers

/-!
The numbers of MSR cases. First index and size of every case are words in normal form, so that cases
fuse exactly when their numbers are equal and are ordered by these numbers. An absent size is the
number of registers from the first to the last, but for all of them, which are one more than a word
can count.
-/

namespace GuestCases

namespace Numeral

structure Spells (text : String) (value : Nat) : Prop where
  text_eq : text = hexText value
  normal : IsNormal text
  reads : readHex text = .ok value
  lt : value < wordBound

theorem spells_hexText (value : Nat) (h : value < wordBound) : Spells (hexText value) value where
  text_eq := rfl
  normal := isNormal_hexText value
  reads := readHex_hexText value h
  lt := h

theorem Spells.eq_iff {first second : String} {low high : Nat} (h : Spells first low)
    (h' : Spells second high) : first = second ↔ low = high := by
  constructor
  · intro heq
    have hreads := h.reads
    rw [heq, h'.reads] at hreads
    exact (Except.ok.inj hreads).symm
  · intro heq
    rw [h.text_eq, h'.text_eq, heq]

end Numeral

namespace Family

variable {ε κ : Type} [DecidableEq κ]

theorem count_fuseKey_absorb_self (family : Family ε κ) (entries : List ε) (entry : ε) :
    ((family.absorb entries entry).map family.fuseKey).count (family.fuseKey entry) =
      max 1 ((entries.map family.fuseKey).count (family.fuseKey entry)) := by
  rw [map_fuseKey_absorb]
  by_cases hold : family.fuseKey entry ∈ entries.map family.fuseKey
  · have hpos := List.count_pos_iff.mpr hold
    rw [if_pos hold]
    omega
  · have hzero := List.count_eq_zero.mpr hold
    rw [if_neg hold, List.count_append, List.count_singleton_self]
    omega

theorem count_fuseKey_absorb_of_ne (family : Family ε κ) (entries : List ε) (entry : ε) (key : κ)
    (h : key ≠ family.fuseKey entry) :
    ((family.absorb entries entry).map family.fuseKey).count key =
      (entries.map family.fuseKey).count key := by
  rw [map_fuseKey_absorb]
  split
  · rfl
  · have hnone : [family.fuseKey entry].count key = 0 := List.count_eq_zero.mpr (by simpa using h)
    rw [List.count_append, hnone, Nat.add_zero]

/-- A key that comes in has one entry afterwards, or as many as it had before. -/
theorem count_fuseKey_foldl_absorb (family : Family ε κ) (base incoming : List ε) (key : κ) :
    ((incoming.foldl family.absorb base).map family.fuseKey).count key =
      if key ∈ incoming.map family.fuseKey then max 1 ((base.map family.fuseKey).count key)
      else (base.map family.fuseKey).count key := by
  induction incoming generalizing base with
  | nil => simp
  | cons entry rest ih =>
    rw [List.foldl_cons, ih]
    by_cases hentry : key = family.fuseKey entry
    · have hmem : key ∈ (entry :: rest).map family.fuseKey := by simp [hentry]
      rw [if_pos hmem, hentry, count_fuseKey_absorb_self]
      split <;> omega
    · have hmem : key ∈ (entry :: rest).map family.fuseKey ↔ key ∈ rest.map family.fuseKey := by
        rw [List.map_cons, List.mem_cons, or_iff_right hentry]
      simp only [hmem, count_fuseKey_absorb_of_ne family base entry key hentry]

variable [Hashable κ]

/-- A key that comes in with a later batch has one entry afterwards, or those of the first batch. -/
theorem count_fuseKey_assemble {family : Family ε κ} (hcoherent : family.Coherent)
    (first second : List ε) (rest : List (List ε)) (key : κ)
    (h : key ∈ (second :: rest).flatten.map family.fuseKey) :
    ((family.assemble (first :: second :: rest)).map family.fuseKey).count key =
      max 1 ((first.map family.fuseKey).count key) := by
  rw [assemble_eq_sort_fuse hcoherent, fuse_eq_foldl_absorb,
    ((family.sort_perm _).map family.fuseKey).count_eq, count_fuseKey_foldl_absorb, if_pos h]

end Family

namespace Msr

structure Entry.HasNumbers (entry : Entry) (first size : Nat) : Prop where
  first : Numeral.Spells entry.first first
  size : Numeral.Spells entry.size size

def Entry.Coincides (entry other : Entry) : Prop :=
  entry.firstValue? = other.firstValue? ∧ entry.sizeValue? = other.sizeValue? ∧
    entry.outcome = other.outcome ∧ entry.direction = other.direction

instance (entry other : Entry) : Decidable (entry.Coincides other) :=
  inferInstanceAs (Decidable (_ ∧ _ ∧ _ ∧ _))

def Entry.MayPrecede (entry other : Entry) : Prop :=
  ∃ first size otherFirst otherSize, entry.HasNumbers first size ∧
    other.HasNumbers otherFirst otherSize ∧
    (first < otherFirst ∨ first = otherFirst ∧
      (size < otherSize ∨ size = otherSize ∧
        (entry.direction = .read ∨ other.direction = .write)))

/-- The entry has the numbers of the row, of which the size follows from the indices when its cell
is empty. -/
structure Entry.Measures (entry : Entry) (row : Row) (first last size : Nat) : Prop where
  cells : row.HasNumbers first last size
  numbers : entry.HasNumbers first size
  derived : row.size = none →
    (size : Int) = if first = 0 ∧ last = 0xffffffffffffffff then 0xffffffffffffffff
      else (last : Int) - first + 1

/-- The sheet of the source can be read, each of its rows comes to its share, and the entries of a
share have the numbers of its row. -/
def SourceMeasures (files : Files.Tree) (resolver : Resolver) (source : Settings.MsrSource)
    (shares : List (Build Entry)) : Prop :=
  ∃ sheet rows, Sheet.read files source.csvPath source.bias = .ok sheet ∧
    rowsOf ⟨source.read, source.write⟩ sheet = .ok rows ∧
    List.Forall₂
      (fun row share =>
        RowGives ⟨sheet.path, SpecVersion.constant source.version, resolver⟩ row share ∧
          ∀ entry ∈ share.entries, ∃ first last size, entry.Measures row first last size)
      rows shares

structure KeepsNumbers (batches : List (List Entry)) (entries : List Entry) : Prop where
  /-- Every entry has numbers, and they make up its sort key. -/
  numbers : ∀ entry ∈ batches.flatten ++ entries, ∃ first size : Nat,
    entry.HasNumbers first size ∧ entry.sortKey = [(first : Int), size, entry.direction.rank]
  /-- Equal numbers have equal texts, so entries fuse by their numbers. -/
  texts : ∀ entry ∈ batches.flatten ++ entries, ∀ other ∈ batches.flatten ++ entries,
    (entry.first = other.first ↔ entry.firstValue? = other.firstValue?) ∧
    (entry.size = other.size ↔ entry.sizeValue? = other.sizeValue?) ∧
    (entry.fuseKey = other.fuseKey ↔ entry.Coincides other)
  /-- Every entry of a batch is found again, and no other one. -/
  found : ∀ entry ∈ batches.flatten, ∃ other ∈ entries, other.Coincides entry
  given : ∀ entry ∈ entries, ∃ other ∈ batches.flatten, other.Coincides entry
  /-- Later entries that coincide become one, or fuse into those of the first batch. -/
  fused : ∀ first later, batches = first :: later → ∀ entry ∈ later.flatten,
    entries.countP (·.Coincides entry) = max 1 (first.countP (·.Coincides entry))
  ordered : 2 ≤ batches.length → entries.Pairwise Entry.MayPrecede

/-- The size that follows from the indices, of which the largest word stands for one number more. -/
theorem spanOf_eq (first last : Nat) (horder : first ≤ last) (hword : last < Numeral.wordBound) :
    (spanOf first last : Int) = if first = 0 ∧ last = 0xffffffffffffffff then 0xffffffffffffffff
      else (last : Int) - first + 1 := by
  simp only [spanOf, Numeral.maxWord, Numeral.wordBound] at hword ⊢
  split
  · omega
  · omega

theorem Row.HasNumbers.last_lt {row : Row} {first last size : Nat}
    (h : row.HasNumbers first last size) : last < Numeral.wordBound := by
  have hlast := h.reads_last
  cases hcell : row.last with
  | none =>
    rw [hcell] at hlast
    obtain rfl := Except.ok.inj hlast
    exact Numeral.readHex_lt _ _ h.reads_first
  | some cell =>
    rw [hcell] at hlast
    exact Numeral.readHex_lt cell last hlast

theorem Row.HasNumbers.size_lt {row : Row} {first last size : Nat}
    (h : row.HasNumbers first last size) : size < Numeral.wordBound := by
  have hsize := h.reads_size
  cases hcell : row.size with
  | none =>
    rw [hcell] at hsize
    obtain rfl := Except.ok.inj hsize
    simp only [spanOf, Numeral.maxWord, Numeral.wordBound]
    omega
  | some cell =>
    rw [hcell] at hsize
    exact Numeral.readHex_lt cell size hsize

/-- A case has the numbers of its row. -/
theorem IsCase.measures {source : Source} {row : Row} {geometry : Geometry}
    {direction : Direction} {entry : Entry} {first last size : Nat}
    (h : IsCase source row geometry direction entry) (hrow : row.HasNumbers first last size)
    (hgeometry : geometry = ⟨Numeral.hexText first, Numeral.hexText size⟩) :
    entry.Measures row first last size where
  cells := hrow
  numbers := by
    have hfirst : entry.first = Numeral.hexText first := by rw [h.first, hgeometry]
    have hsize : entry.size = Numeral.hexText size := by rw [h.size, hgeometry]
    have hword : first < Numeral.wordBound := Numeral.readHex_lt _ _ hrow.reads_first
    exact ⟨hfirst ▸ Numeral.spells_hexText first hword,
      hsize ▸ Numeral.spells_hexText size hrow.size_lt⟩
  derived hcell := by
    have hsize := hrow.reads_size
    rw [hcell] at hsize
    rw [← Except.ok.inj hsize]
    exact spanOf_eq first last hrow.ordered hrow.last_lt

theorem exists_measures_of_rowGives (source : Source) (row : Row) (share : Build Entry)
    (h : RowGives source row share) (entry : Entry) (hentry : entry ∈ share.entries) :
    ∃ first last size, entry.Measures row first last size := by
  obtain ⟨geometry, direction, ⟨first, last, size, hnumbers, hgeometry⟩, hcase⟩ :=
    h.exists_isCase entry hentry
  exact ⟨first, last, size, hcase.measures hnumbers hgeometry⟩

theorem SourceGives.measures {files : Files.Tree} {resolver : Resolver}
    {source : Settings.MsrSource} {shares : List (Build Entry)}
    (h : SourceGives files resolver source shares) :
    SourceMeasures files resolver source shares := by
  obtain ⟨sheet, rows, hsheet, hrows, hshares⟩ := h
  refine ⟨sheet, rows, hsheet, hrows, hshares.imp fun row share hshare => ⟨hshare.1, ?_⟩⟩
  exact exists_measures_of_rowGives _ row share hshare.1

namespace Entry

variable {entry other : Entry} {first size otherFirst otherSize : Nat}

theorem HasNumbers.firstValue?_eq (h : entry.HasNumbers first size) :
    entry.firstValue? = some first := by
  rw [firstValue?, h.first.reads]
  rfl

theorem HasNumbers.sizeValue?_eq (h : entry.HasNumbers first size) :
    entry.sizeValue? = some size := by
  rw [sizeValue?, h.size.reads]
  rfl

theorem HasNumbers.sortKey_eq (h : entry.HasNumbers first size) :
    entry.sortKey = [(first : Int), size, entry.direction.rank] := by
  rw [sortKey, h.firstValue?_eq, h.sizeValue?_eq]
  rfl

/-- An outcome is determined by its trap and its hook. -/
theorem outcome_eq_iff : entry.outcome = other.outcome ↔
    entry.outcome.trap? = other.outcome.trap? ∧ entry.outcome.hook? = other.outcome.hook? := by
  cases entry.outcome <;> cases other.outcome <;> simp [Outcome.trap?, Outcome.hook?]

theorem HasNumbers.fuseKey_eq_iff (h : entry.HasNumbers first size)
    (h' : other.HasNumbers otherFirst otherSize) :
    entry.fuseKey = other.fuseKey ↔ entry.Coincides other := by
  rw [Coincides, h.firstValue?_eq, h.sizeValue?_eq, h'.firstValue?_eq, h'.sizeValue?_eq,
    Option.some.injEq, Option.some.injEq, ← h.first.eq_iff h'.first, ← h.size.eq_iff h'.size,
    outcome_eq_iff, fuseKey, fuseKey, FuseKey.mk.injEq]
  simp only [and_assoc]

/-- The order of the sort keys is that of the numbers. -/
theorem HasNumbers.mayPrecede (h : entry.HasNumbers first size)
    (h' : other.HasNumbers otherFirst otherSize) (horder : family.inOrder entry other = true) :
    entry.MayPrecede other := by
  refine ⟨first, size, otherFirst, otherSize, h, h', ?_⟩
  have hkeys : keysInOrder entry.sortKey other.sortKey = true := horder
  rw [h.sortKey_eq, h'.sortKey_eq] at hkeys
  simp only [keysInOrder, Bool.or_eq_true, Bool.and_eq_true, decide_eq_true_eq] at hkeys
  have hdirection : entry.direction.rank ≤ other.direction.rank →
      entry.direction = .read ∨ other.direction = .write := by
    cases entry.direction <;> cases other.direction <;> decide
  rcases hkeys with hfirst | ⟨hfirst, hsize | ⟨hsize, hrank⟩⟩
  · exact Or.inl (by omega)
  · exact Or.inr ⟨by omega, Or.inl (by omega)⟩
  · exact Or.inr ⟨by omega, Or.inr ⟨by omega, hdirection (by omega)⟩⟩

theorem HasNumbers.of_extends (h : entry.HasNumbers first size)
    (hextends : mergeable.Extends entry other) : other.HasNumbers first size := by
  have hfirst : other.first = entry.first :=
    (congrArg Entry.first hextends.bare_eq : (mergeable.bare other).first = _)
  have hsize : other.size = entry.size :=
    (congrArg Entry.size hextends.bare_eq : (mergeable.bare other).size = _)
  exact ⟨hfirst ▸ h.first, hsize ▸ h.size⟩

end Entry

def HaveNumbers (entries : List Entry) : Prop :=
  ∀ entry ∈ entries, ∃ first size, entry.HasNumbers first size

/-- The entries that coincide with one are those with its key. -/
theorem countP_coincides (entries : List Entry) (entry : Entry) (first size : Nat)
    (hentries : HaveNumbers entries) (hentry : entry.HasNumbers first size) :
    entries.countP (·.Coincides entry) =
      (entries.map family.fuseKey).count (family.fuseKey entry) := by
  rw [List.count_eq_countP, List.countP_map]
  apply List.countP_congr
  intro other hother
  obtain ⟨otherFirst, otherSize, hnumbers⟩ := hentries other hother
  have hkey := hnumbers.fuseKey_eq_iff hentry
  simp [← hkey, family]

section Assembling

variable {batches : List (List Entry)} (h : HaveNumbers batches.flatten)

include h

theorem haveNumbers_assemble : HaveNumbers (family.assemble batches) := by
  intro entry hentry
  obtain ⟨original, horiginal, hextends⟩ :=
    Family.exists_extends_of_mem_assemble mergeable batches entry hentry
  obtain ⟨first, size, hnumbers⟩ := h original horiginal
  exact ⟨first, size, hnumbers.of_extends hextends⟩

theorem exists_assembled_coincides (entry : Entry) (hentry : entry ∈ batches.flatten) :
    ∃ other ∈ family.assemble batches, other.Coincides entry := by
  obtain ⟨other, hother, hkey⟩ := Family.exists_mem_assemble family_coherent batches entry hentry
  obtain ⟨first, size, hnumbers⟩ := h entry hentry
  obtain ⟨otherFirst, otherSize, hothers⟩ := haveNumbers_assemble h other hother
  exact ⟨other, hother, (hothers.fuseKey_eq_iff hnumbers).mp hkey⟩

theorem exists_given_coincides (entry : Entry) (hentry : entry ∈ family.assemble batches) :
    ∃ other ∈ batches.flatten, other.Coincides entry := by
  obtain ⟨original, horiginal, hextends⟩ :=
    Family.exists_extends_of_mem_assemble mergeable batches entry hentry
  obtain ⟨first, size, hnumbers⟩ := h original horiginal
  have hkey : original.fuseKey = entry.fuseKey := hextends.fuseKey_eq.symm
  exact ⟨original, horiginal, (hnumbers.fuseKey_eq_iff (hnumbers.of_extends hextends)).mp hkey⟩

/-- An entry of a later batch is alone among those that coincide with it, or it has fused into what
the first batch has of them. -/
theorem countP_assemble (first : List Entry) (later : List (List Entry))
    (hbatches : batches = first :: later) (entry : Entry) (hentry : entry ∈ later.flatten) :
    (family.assemble batches).countP (·.Coincides entry) =
      max 1 (first.countP (·.Coincides entry)) := by
  have hassembled := haveNumbers_assemble h
  subst hbatches
  obtain ⟨second, rest, rfl⟩ : ∃ second rest, later = second :: rest := by
    apply List.exists_cons_of_ne_nil
    rintro rfl
    cases hentry
  have hfirst : HaveNumbers first := fun other hother => h other (List.mem_append_left _ hother)
  obtain ⟨index, size, hnumbers⟩ := h entry (List.mem_append_right first hentry)
  rw [countP_coincides _ entry index size hassembled hnumbers,
    countP_coincides first entry index size hfirst hnumbers]
  exact Family.count_fuseKey_assemble family_coherent first second rest _
    (List.mem_map_of_mem hentry)

theorem pairwise_mayPrecede_assemble (hseveral : 2 ≤ batches.length) :
    (family.assemble batches).Pairwise Entry.MayPrecede := by
  refine (Family.ordered_assemble family_coherent batches hseveral).imp_of_mem ?_
  intro entry other hentry hother horder
  obtain ⟨first, size, hnumbers⟩ := haveNumbers_assemble h entry hentry
  obtain ⟨otherFirst, otherSize, hothers⟩ := haveNumbers_assemble h other hother
  exact hnumbers.mayPrecede hothers horder

/-- Assembling entries with numbers keeps the numbers. -/
theorem keepsNumbers_assemble : KeepsNumbers batches (family.assemble batches) := by
  have hall : HaveNumbers (batches.flatten ++ family.assemble batches) :=
    List.forall_mem_append.mpr ⟨h, haveNumbers_assemble h⟩
  refine ⟨?_, ?_, exists_assembled_coincides h, exists_given_coincides h, countP_assemble h,
    pairwise_mayPrecede_assemble h⟩
  · intro entry hentry
    obtain ⟨first, size, hnumbers⟩ := hall entry hentry
    exact ⟨first, size, hnumbers, hnumbers.sortKey_eq⟩
  · intro entry hentry other hother
    obtain ⟨first, size, hnumbers⟩ := hall entry hentry
    obtain ⟨otherFirst, otherSize, hothers⟩ := hall other hother
    refine ⟨?_, ?_, hnumbers.fuseKey_eq_iff hothers⟩
    · rw [hnumbers.firstValue?_eq, hothers.firstValue?_eq, Option.some.injEq]
      exact hnumbers.first.eq_iff hothers.first
    · rw [hnumbers.sizeValue?_eq, hothers.sizeValue?_eq, Option.some.injEq]
      exact hnumbers.size.eq_iff hothers.size

end Assembling

/-- The entries that the sources come to have numbers. -/
theorem haveNumbers_of_sourceGives (files : Files.Tree) (resolver : Resolver)
    (sources : List Settings.MsrSource) (shares : List (List (Build Entry)))
    (h : List.Forall₂ (SourceGives files resolver) sources shares) :
    HaveNumbers (shares.map fun rows => (Build.concat rows).entries).flatten := by
  intro entry hentry
  obtain ⟨path, version, row, share, hrow, hmem⟩ :=
    exists_rowGives_of_mem files resolver sources shares h entry hentry
  obtain ⟨first, last, size, hmeasures⟩ := exists_measures_of_rowGives _ row share hrow entry hmem
  exact ⟨first, size, hmeasures.numbers⟩

end Msr

/-- When the MSR cases can be collected, every entry of a row has the numbers of the row, and the
assembled entries keep them: each number in normal form and below the bound of words, coinciding
entries fused, and several sources in the order of the numbers. -/
theorem collectMsr_keeps_numbers (settings : Settings) (files : Files.Tree)
    (build : Build Msr.Entry) (h : (collectMsr settings files).outcome = .ok build) :
    ∃ msr resolver shares, settings.msr = .ok msr ∧
      (Msr.loadResolver files msr).outcome = .ok resolver ∧
      List.Forall₂ (Msr.SourceMeasures files resolver) msr.sources shares ∧
      Msr.KeepsNumbers (shares.map fun rows => (Build.concat rows).entries) build.entries := by
  obtain ⟨msr, hsection⟩ := (outcome_collectMsr_eq_ok_iff settings files build).mp h
  obtain ⟨hmsr, resolver, hresolver, hcollect⟩ :=
    (Msr.outcome_collectSection_eq_ok_iff settings files msr build).mp hsection
  obtain ⟨shares, hshares, hentries, -⟩ :=
    Msr.exists_shares_of_collect files resolver msr.sources build hcollect
  refine ⟨msr, resolver, shares, hmsr, hresolver,
    hshares.imp fun source rows hsource => hsource.measures, ?_⟩
  rw [hentries]
  exact Msr.keepsNumbers_assemble
    (Msr.haveNumbers_of_sourceGives files resolver msr.sources shares hshares)

/-- A tree with two sheets that spell the numbers of one register differently. The first has a row
on all registers as well. -/
def twoSpellings : Files.Tree :=
  let columns := "MSR Architectural Name,First (H),Last (H),Size (H),Read,Write\n"
  let file (text : String) : Files.Node := .file text.toUTF8
  Files.Tree.empty
    |>.put "hooks.h" (file "")
    |>.put "old.csv" (file (columns ++ "TSC,10,,,Native,Native\nAll,0,FFFFFFFFFFFFFFFF,,Native,\n"))
    |>.put "new.csv" (file (columns ++ "TSC,0X0010,10,01,Native,Native\n"))

def twoSpellingsSettings : Settings where
  path := "config.json"
  directory := ""
  sections := [
    ("msr", .object [("header_path", .text "cases.h"), ("precondition_header", .text "hooks.h"),
      ("sources", .array [
        .object [("csv_path", .text "old.csv"), ("rdname", .text "Read"),
          ("wrname", .text "Write"), ("version", .text "1.0")],
        .object [("csv_path", .text "new.csv"), ("rdname", .text "Read"),
          ("wrname", .text "Write"), ("version", .text "1.5")]])])]

theorem collectMsr_keeps_numbers_two_spellings :
    ∃ build, (collectMsr twoSpellingsSettings twoSpellings).outcome = .ok build ∧
      build.skipped = [⟨"old.csv", 3, .unresolved .write .empty⟩] ∧
      ∃ msr resolver shares, twoSpellingsSettings.msr = .ok msr ∧
        (Msr.loadResolver twoSpellings msr).outcome = .ok resolver ∧
        List.Forall₂ (Msr.SourceMeasures twoSpellings resolver) msr.sources shares ∧
        Msr.KeepsNumbers (shares.map fun rows => (Build.concat rows).entries) build.entries := by
  have hskipped : (collectMsr twoSpellingsSettings twoSpellings).outcome.map Build.skipped =
      .ok [⟨"old.csv", 3, .unresolved .write .empty⟩] := by
    decide +kernel
  cases hbuild : (collectMsr twoSpellingsSettings twoSpellings).outcome with
  | error fault =>
    rw [hbuild] at hskipped
    cases hskipped
  | ok build =>
    rw [hbuild] at hskipped
    exact ⟨build, rfl, Except.ok.inj hskipped,
      collectMsr_keeps_numbers twoSpellingsSettings twoSpellings build hbuild⟩

end GuestCases
