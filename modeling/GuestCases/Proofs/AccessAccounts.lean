import GuestCases.Proofs.BoundColumns

/-!
What the rows of an MSR sheet come to. A row on registers gives, for reads and then for writes,
either one case or one skip that says why there is none, and any other row gives one skip. No row
depends on another, so a sheet comes to what its rows come to, unless some row on registers has a
cell without the number it needs; then the first such cell is the fault.
-/

namespace GuestCases

def Build.concat {ε : Type} (builds : List (Build ε)) : Build ε :=
  ⟨builds.flatMap Build.entries, builds.flatMap Build.skipped⟩

def SkipReason.isUnresolved : SkipReason → Bool
  | .unresolved _ _ => true
  | _ => false

namespace Msr

inductive Row.IsSpecial (row : Row) : SkipReason → Prop where
  | blank (hname : row.name = none) (hfirst : row.first = none) : row.IsSpecial .blank
  | reserved (hname : row.name = some reservedName) : row.IsSpecial .reserved
  | default (hname : row.name ≠ some reservedName) (hfirst : row.first = some defaultFirst) :
    row.IsSpecial .default

def Row.IsOrdinary (row : Row) : Prop :=
  ∀ reason, ¬row.IsSpecial reason

def readHexOr (absent : Nat) : Option String → Except Numeral.CellFault Nat
  | some cell => Numeral.readHex cell
  | none => .ok absent

/-- The cells of the row hold a first index, a last one and a size. An absent last index stands for
the first, and an absent size follows from the two. -/
structure Row.HasNumbers (row : Row) (first last size : Nat) : Prop where
  reads_first : Numeral.readHex (row.first.getD "") = .ok first
  reads_last : readHexOr first row.last = .ok last
  ordered : first ≤ last
  reads_size : readHexOr (spanOf first last) row.size = .ok size

def Row.HasGeometry (row : Row) (geometry : Geometry) : Prop :=
  ∃ first last size, row.HasNumbers first last size ∧
    geometry = ⟨Numeral.hexText first, Numeral.hexText size⟩

structure IsCase (source : Source) (row : Row) (geometry : Geometry) (direction : Direction)
    (entry : Entry) : Prop where
  name : entry.name = row.name.getD ""
  first : entry.first = geometry.first
  size : entry.size = geometry.size
  outcome : source.resolver.classify (row.description direction) = .ok entry.outcome
  direction : entry.direction = direction
  specVersion : entry.specVersion = source.version

inductive DirectionGives (source : Source) (row : Row) (geometry : Geometry)
    (direction : Direction) : Build Entry → Prop where
  | entry (made : Entry) (h : IsCase source row geometry direction made) :
    DirectionGives source row geometry direction ⟨[made], []⟩
  | skip (why : Unresolved)
    (h : source.resolver.classify (row.description direction) = .error why) :
    DirectionGives source row geometry direction
      ⟨[], [⟨source.path, row.line, .unresolved direction why⟩]⟩

/-- What the row comes to: one skip, or what its two directions come to, reads first. -/
inductive RowGives (source : Source) (row : Row) : Build Entry → Prop where
  | special (reason : SkipReason) (h : row.IsSpecial reason) :
    RowGives source row ⟨[], [⟨source.path, row.line, reason⟩]⟩
  | ordinary (geometry : Geometry) (shares : Direction → Build Entry) (hrow : row.IsOrdinary)
    (hgeometry : row.HasGeometry geometry)
    (hshares : ∀ direction, DirectionGives source row geometry direction (shares direction)) :
    RowGives source row (.concat (Direction.both.map shares))

def RowsGive (source : Source) (rows : List Row) (build : Build Entry) : Prop :=
  ∃ shares, List.Forall₂ (RowGives source) rows shares ∧ build = .concat shares

def hexFault? (cell : String) : Option BadCell :=
  match Numeral.readHex cell with
  | .error fault => some (.numeral fault)
  | .ok _ => none

/-- What is wrong with the last index, if anything. It cannot be below a first index that is no
number. -/
def Row.lastFault? (row : Row) : Option BadCell :=
  row.last.bind fun cell =>
    match Numeral.readHex (row.first.getD ""), Numeral.readHex cell with
    | _, .error fault => some (.numeral fault)
    | .ok first, .ok last => if last < first then some (.belowFirst last first) else none
    | .error _, .ok _ => none

def Row.badCell? (row : Row) : Option (String × BadCell) :=
  [(firstColumn, hexFault? (row.first.getD "")), (lastColumn, row.lastFault?),
    (sizeColumn, row.size.bind hexFault?)].findSome? fun (column, fault?) =>
      fault?.map fun fault => (column, fault)

def IsFirstBadCell (source : Source) (rows : List Row) (fault : SheetFault) : Prop :=
  ∃ earlier row later column cause, rows = earlier ++ row :: later ∧
    (∀ other ∈ earlier, other.IsOrdinary → other.badCell? = none) ∧
    row.IsOrdinary ∧ row.badCell? = some (column, cause) ∧
    fault = .invalidCell source.path row.line column cause

theorem special?_eq_some_iff (row : Row) (reason : SkipReason) :
    row.special? = some reason ↔ row.IsSpecial reason := by
  unfold Row.special?
  constructor
  · intro h
    split at h
    · rename_i hblank
      cases h
      exact .blank hblank.1 hblank.2
    · split at h
      · rename_i hreserved
        cases h
        exact .reserved hreserved
      · rename_i hname
        split at h
        · rename_i hdefault
          cases h
          exact .default hname hdefault
        · cases h
  · intro h
    cases h with
    | blank hname hfirst => rw [if_pos ⟨hname, hfirst⟩]
    | reserved hname => rw [if_neg (by simp [hname]), if_pos hname]
    | default hname hfirst => rw [if_neg (by simp [hfirst]), if_neg hname, if_pos hfirst]

theorem special?_eq_none_iff (row : Row) : row.special? = none ↔ row.IsOrdinary := by
  rw [Option.eq_none_iff_forall_ne_some]
  exact forall_congr' fun reason => not_congr (special?_eq_some_iff row reason)

theorem hexFault?_eq_none_iff (cell : String) :
    hexFault? cell = none ↔ ∃ value, Numeral.readHex cell = .ok value := by
  unfold hexFault?
  cases Numeral.readHex cell <;> simp

theorem hexFault?_eq_some_iff (cell : String) (cause : BadCell) :
    hexFault? cell = some cause ↔
      ∃ fault, Numeral.readHex cell = .error fault ∧ cause = .numeral fault := by
  unfold hexFault?
  cases Numeral.readHex cell <;> simp [eq_comm]

/-- A last index with nothing wrong is a number that is not below the first. -/
theorem exists_last (row : Row) (first : Nat)
    (hfirst : Numeral.readHex (row.first.getD "") = .ok first) (h : row.lastFault? = none) :
    ∃ last, readHexOr first row.last = .ok last ∧ first ≤ last := by
  cases hcell : row.last with
  | none => exact ⟨first, rfl, Nat.le_refl first⟩
  | some cell =>
    cases hread : Numeral.readHex cell with
    | error fault => simp [Row.lastFault?, hcell, hfirst, hread] at h
    | ok last => exact ⟨last, hread, by simpa [Row.lastFault?, hcell, hfirst, hread] using h⟩

theorem exists_hasGeometry (row : Row) (h : row.badCell? = none) :
    ∃ geometry, row.HasGeometry geometry := by
  have hcells : hexFault? (row.first.getD "") = none ∧ row.lastFault? = none ∧
      row.size.bind hexFault? = none := by
    simpa [Row.badCell?] using h
  obtain ⟨hfirst, hlast, hsize⟩ := hcells
  obtain ⟨first, hfirst⟩ := (hexFault?_eq_none_iff _).mp hfirst
  obtain ⟨last, hlast, hordered⟩ := exists_last row first hfirst hlast
  have hsizes : ∃ size, readHexOr (spanOf first last) row.size = .ok size := by
    cases hcell : row.size with
    | none => exact ⟨_, rfl⟩
    | some cell =>
      rw [hcell] at hsize
      exact (hexFault?_eq_none_iff cell).mp hsize
  obtain ⟨size, hsize⟩ := hsizes
  exact ⟨_, first, last, size, ⟨hfirst, hlast, hordered, hsize⟩, rfl⟩

theorem readGeometry_of_hasGeometry (source : Source) (row : Row) (geometry : Geometry)
    (h : row.HasGeometry geometry) : readGeometry source row = .ok geometry := by
  obtain ⟨first, last, size, ⟨hfirst, hlast, hordered, hsize⟩, rfl⟩ := h
  have hbelow : ¬last < first := Nat.not_lt.mpr hordered
  unfold readGeometry
  cases hlastCell : row.last <;> cases hsizeCell : row.size <;>
    simp_all [readHexOr, bind, Except.bind, Except.mapError, pure, Except.pure]

/-- Of the three columns the first with a bad cell decides. -/
theorem badCell?_cases (row : Row) (column : String) (cause : BadCell)
    (h : row.badCell? = some (column, cause)) :
    (column = firstColumn ∧ hexFault? (row.first.getD "") = some cause) ∨
    (column = lastColumn ∧ hexFault? (row.first.getD "") = none ∧
      row.lastFault? = some cause) ∨
    (column = sizeColumn ∧ hexFault? (row.first.getD "") = none ∧ row.lastFault? = none ∧
      row.size.bind hexFault? = some cause) := by
  unfold Row.badCell? at h
  cases hfirst : hexFault? (row.first.getD "") <;> cases hlast : row.lastFault? <;>
    cases hsize : row.size.bind hexFault? <;> simp_all

theorem readGeometry_of_badCell? (source : Source) (row : Row) (column : String)
    (cause : BadCell) (h : row.badCell? = some (column, cause)) :
    readGeometry source row = .error (.invalidCell source.path row.line column cause) := by
  obtain ⟨rfl, hfirst⟩ | ⟨rfl, hfirst, hlast⟩ | ⟨rfl, hfirst, hlast, hsize⟩ :=
    badCell?_cases row column cause h
  · obtain ⟨fault, hfirst, rfl⟩ := (hexFault?_eq_some_iff _ _).mp hfirst
    unfold readGeometry
    simp_all [bind, Except.bind, Except.mapError]
  · obtain ⟨first, hfirst⟩ := (hexFault?_eq_none_iff _).mp hfirst
    obtain ⟨cell, hcell, hlast⟩ := Option.bind_eq_some_iff.mp hlast
    unfold readGeometry
    cases hread : Numeral.readHex cell with
    | error fault => simp_all [bind, Except.bind, Except.mapError]
    | ok last =>
      simp_all [bind, Except.bind, Except.mapError, throw, throwThe, MonadExceptOf.throw]
  · obtain ⟨first, hfirst⟩ := (hexFault?_eq_none_iff _).mp hfirst
    obtain ⟨last, hlast, hordered⟩ := exists_last row first hfirst hlast
    obtain ⟨cell, hcell, hsize⟩ := Option.bind_eq_some_iff.mp hsize
    obtain ⟨fault, hfault, rfl⟩ := (hexFault?_eq_some_iff _ _).mp hsize
    have hbelow : ¬last < first := Nat.not_lt.mpr hordered
    unfold readGeometry
    cases hlastCell : row.last with
    | none =>
      rw [hlastCell] at hlast
      obtain rfl := Except.ok.inj hlast
      simp [hfirst, hcell, hfault, bind, Except.bind, Except.mapError, pure, Except.pure]
    | some text =>
      have hread : Numeral.readHex text = .ok last := by
        rwa [hlastCell] at hlast
      simp [hfirst, hread, if_neg hbelow, hcell, hfault, bind, Except.bind, Except.mapError]

theorem readGeometry_eq_ok_iff (source : Source) (row : Row) (geometry : Geometry) :
    readGeometry source row = .ok geometry ↔ row.HasGeometry geometry := by
  refine ⟨fun h => ?_, readGeometry_of_hasGeometry source row geometry⟩
  cases hcell : row.badCell? with
  | none =>
    obtain ⟨found, hfound⟩ := exists_hasGeometry row hcell
    rw [readGeometry_of_hasGeometry source row found hfound] at h
    exact Except.ok.inj h ▸ hfound
  | some cell =>
    rw [readGeometry_of_badCell? source row cell.1 cell.2 hcell] at h
    cases h

theorem readGeometry_eq_error_iff (source : Source) (row : Row) (fault : SheetFault) :
    readGeometry source row = .error fault ↔
      ∃ column cause, row.badCell? = some (column, cause) ∧
        fault = .invalidCell source.path row.line column cause := by
  constructor
  · intro h
    cases hcell : row.badCell? with
    | none =>
      obtain ⟨geometry, hgeometry⟩ := exists_hasGeometry row hcell
      rw [readGeometry_of_hasGeometry source row geometry hgeometry] at h
      cases h
    | some cell =>
      rw [readGeometry_of_badCell? source row cell.1 cell.2 hcell] at h
      exact ⟨cell.1, cell.2, rfl, (Except.error.inj h).symm⟩
  · rintro ⟨column, cause, hcell, rfl⟩
    exact readGeometry_of_badCell? source row column cause hcell

def builtOf (events : List (Event Entry)) : Build Entry :=
  ⟨events.filterMap Event.asCase?, events.filterMap Event.asSkip?⟩

theorem builtOf_append (events more : List (Event Entry)) :
    builtOf (events ++ more) = .concat [builtOf events, builtOf more] := by
  simp [builtOf, Build.concat]

theorem builtOf_remarks (source : Source) (row : Row) (direction : Direction)
    (why : Unresolved) (events : List (Event Entry)) :
    builtOf (remarks source row direction why ++ events) = builtOf events := by
  cases why <;> rfl

/-- A direction comes to what its own description says. -/
theorem directionGives_iff (source : Source) (row : Row) (geometry : Geometry)
    (direction : Direction) (share : Build Entry) :
    DirectionGives source row geometry direction share ↔
      builtOf (readDirection source row geometry direction) = share := by
  unfold readDirection
  cases hclassify : source.resolver.classify (row.description direction) with
  | ok outcome =>
    constructor
    · rintro (⟨made, hmade⟩ | ⟨why, hwhy⟩)
      · obtain ⟨name, first, size, found, access, version⟩ := made
        obtain ⟨rfl, rfl, rfl, hfound, rfl, rfl⟩ := hmade
        cases hclassify.symm.trans hfound
        rfl
      · cases hclassify.symm.trans hwhy
    · rintro rfl
      exact .entry _ ⟨rfl, rfl, rfl, hclassify, rfl, rfl⟩
  | error why =>
    rw [builtOf_remarks]
    constructor
    · rintro (⟨made, hmade⟩ | ⟨found, hfound⟩)
      · cases hclassify.symm.trans hmade.outcome
      · cases hclassify.symm.trans hfound
        rfl
    · rintro rfl
      exact .skip why hclassify

theorem builtOf_flatMap_readDirection (source : Source) (row : Row) (geometry : Geometry) :
    builtOf (Direction.both.flatMap (readDirection source row geometry)) =
      .concat (Direction.both.map fun direction =>
        builtOf (readDirection source row geometry direction)) := by
  simp [Direction.both, builtOf, Build.concat]

/-- A row comes to something exactly when it can be read. -/
theorem rowGives_iff (source : Source) (row : Row) (share : Build Entry) :
    RowGives source row share ↔
      ∃ events, readRow source row = .ok events ∧ builtOf events = share := by
  unfold readRow
  constructor
  · rintro (⟨reason, hreason⟩ | ⟨geometry, shares, hrow, hgeometry, hshares⟩)
    · rw [(special?_eq_some_iff row reason).mpr hreason]
      exact ⟨_, rfl, rfl⟩
    · have hshare : shares = fun direction =>
          builtOf (readDirection source row geometry direction) := by
        funext direction
        exact ((directionGives_iff _ _ _ _ _).mp (hshares direction)).symm
      rw [(special?_eq_none_iff row).mpr hrow,
        (readGeometry_eq_ok_iff source row geometry).mpr hgeometry, hshare]
      exact ⟨_, rfl, builtOf_flatMap_readDirection source row geometry⟩
  · rintro ⟨events, hevents, rfl⟩
    cases hspecial : row.special? with
    | some reason =>
      simp only [hspecial, Except.ok.injEq] at hevents
      subst hevents
      exact .special reason ((special?_eq_some_iff row reason).mp hspecial)
    | none =>
      cases hgeometry : readGeometry source row with
      | error fault => simp [hspecial, hgeometry, Except.map] at hevents
      | ok geometry =>
        simp only [hspecial, hgeometry, Except.map, Except.ok.injEq] at hevents
        subst hevents
        rw [builtOf_flatMap_readDirection]
        exact .ordinary geometry _ ((special?_eq_none_iff row).mp hspecial)
          ((readGeometry_eq_ok_iff source row geometry).mp hgeometry)
          fun direction => (directionGives_iff _ _ _ _ _).mpr rfl

/-- An entry that a row gives is the case of one of its directions. -/
theorem RowGives.exists_isCase {source : Source} {row : Row} {share : Build Entry}
    (h : RowGives source row share) (entry : Entry) (hentry : entry ∈ share.entries) :
    ∃ geometry direction, row.HasGeometry geometry ∧
      IsCase source row geometry direction entry := by
  cases h with
  | special reason _ => cases hentry
  | ordinary geometry shares _ hgeometry hshares =>
    obtain ⟨share, hshare, hmem⟩ := List.mem_flatMap.mp hentry
    obtain ⟨direction, -, rfl⟩ := List.mem_map.mp hshare
    have hgives := hshares direction
    generalize shares direction = share at hgives hmem
    cases hgives with
    | skip why _ => cases hmem
    | entry made hmade =>
      obtain rfl := List.mem_singleton.mp hmem
      exact ⟨geometry, direction, hgeometry, hmade⟩

theorem readRow_eq_error_iff (source : Source) (row : Row) (fault : SheetFault) :
    readRow source row = .error fault ↔ row.IsOrdinary ∧
      ∃ column cause, row.badCell? = some (column, cause) ∧
        fault = .invalidCell source.path row.line column cause := by
  rw [← special?_eq_none_iff, ← readGeometry_eq_error_iff, readRow]
  cases row.special? with
  | some reason => simp
  | none => cases readGeometry source row <;> simp [Except.map]

theorem readAll_cons_of_ok (source : Source) (row : Row) (rest : List Row)
    (events : List (Event Entry)) (h : readRow source row = .ok events) :
    readAll source (row :: rest) =
      ⟨events ++ (readAll source rest).events, (readAll source rest).fault?⟩ := by
  simp [readAll, readRows, h, Except.map]

theorem readAll_cons_of_error (source : Source) (row : Row) (rest : List Row)
    (fault : SheetFault) (h : readRow source row = .error fault) :
    readAll source (row :: rest) = ⟨[], some fault⟩ := by
  simp [readAll, readRows, h, Except.map]

theorem rowsGive_cons_iff (source : Source) (row : Row) (rest : List Row)
    (build : Build Entry) :
    RowsGive source (row :: rest) build ↔
      ∃ share others, RowGives source row share ∧ RowsGive source rest others ∧
        build = .concat [share, others] := by
  constructor
  · rintro ⟨shares, hshares, rfl⟩
    cases hshares with
    | @cons _ share _ others hrow hrest =>
      exact ⟨share, .concat others, hrow, ⟨others, hrest, rfl⟩, by simp [Build.concat]⟩
  · rintro ⟨share, others, hrow, ⟨shares, hrest, rfl⟩, rfl⟩
    exact ⟨share :: shares, .cons hrow hrest, by simp [Build.concat]⟩

/-- Rows come to something exactly when all of them can be read, and then to what is built. -/
theorem rowsGive_iff (source : Source) (rows : List Row) (build : Build Entry) :
    RowsGive source rows build ↔
      (readAll source rows).fault? = none ∧ (readAll source rows).built = build := by
  induction rows generalizing build with
  | nil =>
    constructor
    · rintro ⟨shares, hshares, rfl⟩
      cases hshares
      exact ⟨rfl, rfl⟩
    · rintro ⟨-, rfl⟩
      exact ⟨[], .nil, rfl⟩
  | cons row rest ih =>
    rw [rowsGive_cons_iff]
    simp only [rowGives_iff, ih]
    cases hread : readRow source row with
    | error fault => simp [readAll_cons_of_error source row rest fault hread]
    | ok events =>
      rw [readAll_cons_of_ok source row rest events hread]
      constructor
      · rintro ⟨share, others, ⟨found, hfound, rfl⟩, ⟨hfault, rfl⟩, rfl⟩
        cases hfound
        exact ⟨hfault, builtOf_append _ _⟩
      · rintro ⟨hfault, rfl⟩
        exact ⟨_, _, ⟨events, rfl, rfl⟩, ⟨hfault, rfl⟩, builtOf_append _ _⟩

theorem isFirstBadCell_cons_iff (source : Source) (row : Row) (rest : List Row)
    (fault : SheetFault) :
    IsFirstBadCell source (row :: rest) fault ↔
      (row.IsOrdinary ∧ ∃ column cause, row.badCell? = some (column, cause) ∧
        fault = .invalidCell source.path row.line column cause) ∨
      (row.IsOrdinary → row.badCell? = none) ∧ IsFirstBadCell source rest fault := by
  constructor
  · rintro ⟨earlier, bad, later, column, cause, hrows, hearlier, hbad, hcell, rfl⟩
    cases earlier with
    | nil =>
      obtain ⟨rfl, rfl⟩ := List.cons.inj hrows
      exact .inl ⟨hbad, column, cause, hcell, rfl⟩
    | cons first others =>
      obtain ⟨rfl, rfl⟩ := List.cons.inj hrows
      obtain ⟨hfirst, hothers⟩ := List.forall_mem_cons.mp hearlier
      exact .inr ⟨hfirst, others, bad, later, column, cause, rfl, hothers, hbad, hcell, rfl⟩
  · rintro (⟨hrow, column, cause, hcell, rfl⟩ | ⟨hrow, earlier, bad, later, column, cause,
      rfl, hearlier, hbad, hcell, rfl⟩)
    · exact ⟨[], row, rest, column, cause, rfl, by simp, hrow, hcell, rfl⟩
    · exact ⟨row :: earlier, bad, later, column, cause, rfl,
        List.forall_mem_cons.mpr ⟨hrow, hearlier⟩, hbad, hcell, rfl⟩

/-- A fault that ends the reading is that of the first bad cell. -/
theorem fault?_readAll_eq_some_iff (source : Source) (rows : List Row) (fault : SheetFault) :
    (readAll source rows).fault? = some fault ↔ IsFirstBadCell source rows fault := by
  induction rows with
  | nil =>
    constructor
    · intro h
      cases h
    · rintro ⟨earlier, row, later, column, cause, hrows, -⟩
      simp at hrows
  | cons row rest ih =>
    rw [isFirstBadCell_cons_iff, ← readRow_eq_error_iff, ← ih]
    cases hread : readRow source row with
    | error found =>
      obtain ⟨hrow, column, cause, hcell, -⟩ := (readRow_eq_error_iff source row found).mp hread
      rw [readAll_cons_of_error source row rest found hread]
      simp [hrow, hcell]
    | ok events =>
      have hrow : row.IsOrdinary → row.badCell? = none := by
        intro hordinary
        apply Option.eq_none_iff_forall_ne_some.mpr
        rintro ⟨column, cause⟩ hcell
        have herror := (readRow_eq_error_iff source row _).mpr
          ⟨hordinary, column, cause, hcell, rfl⟩
        rw [hread] at herror
        cases herror
      rw [readAll_cons_of_ok source row rest events hread]
      simpa using fun _ => hrow

theorem count_of_directionGives (source : Source) (row : Row) (geometry : Geometry)
    (direction : Direction) (share : Build Entry)
    (h : DirectionGives source row geometry direction share) :
    share.entries.length + share.skipped.countP (·.reason.isUnresolved) = 1 ∧
      share.skipped.countP (!·.reason.isUnresolved) = 0 := by
  cases h <;> simp [SkipReason.isUnresolved]

theorem count_of_rowGives (source : Source) (row : Row) (share : Build Entry)
    (h : RowGives source row share) :
    share.entries.length + share.skipped.countP (·.reason.isUnresolved) +
      2 * share.skipped.countP (!·.reason.isUnresolved) = 2 := by
  cases h with
  | special reason hreason => cases hreason <;> simp [SkipReason.isUnresolved]
  | ordinary geometry shares hrow hgeometry hshares =>
    obtain ⟨hread, hreads⟩ := count_of_directionGives _ _ _ _ _ (hshares .read)
    obtain ⟨hwrite, hwrites⟩ := count_of_directionGives _ _ _ _ _ (hshares .write)
    simp [Direction.both, Build.concat]
    omega

theorem count_of_rowsGive (source : Source) (rows : List Row) (build : Build Entry)
    (h : RowsGive source rows build) :
    build.entries.length + build.skipped.countP (·.reason.isUnresolved) +
      2 * build.skipped.countP (!·.reason.isUnresolved) = 2 * rows.length := by
  obtain ⟨shares, hshares, rfl⟩ := h
  induction hshares with
  | nil => rfl
  | @cons row share rest others hrow hrest ih =>
    have hcount := count_of_rowGives source row share hrow
    simp only [Build.concat, List.flatMap_cons, List.length_append, List.countP_append,
      List.length_cons] at ih ⊢
    omega

/-- Some row is the first with a bad cell when any row has one. -/
theorem exists_isFirstBadCell_iff (source : Source) (rows : List Row) :
    (∃ fault, IsFirstBadCell source rows fault) ↔
      ∃ row ∈ rows, row.IsOrdinary ∧ row.badCell? ≠ none := by
  induction rows with
  | nil => simp [IsFirstBadCell]
  | cons row rest ih =>
    constructor
    · rintro ⟨fault, hfault⟩
      rcases (isFirstBadCell_cons_iff source row rest fault).mp hfault with
        ⟨hrow, column, cause, hcell, -⟩ | ⟨-, hrest⟩
      · exact ⟨row, List.mem_cons_self, hrow, by simp [hcell]⟩
      · obtain ⟨bad, hmem, hbad⟩ := ih.mp ⟨fault, hrest⟩
        exact ⟨bad, List.mem_cons_of_mem row hmem, hbad⟩
    · rintro ⟨bad, hmem, hordinary, hbad⟩
      by_cases hrow : row.IsOrdinary → row.badCell? = none
      · have hne : bad ≠ row := fun heq => hbad (heq ▸ hrow (heq ▸ hordinary))
        have hrest : bad ∈ rest := (List.mem_cons.mp hmem).resolve_left hne
        obtain ⟨fault, hfault⟩ := ih.mpr ⟨bad, hrest, hordinary, hbad⟩
        exact ⟨fault, (isFirstBadCell_cons_iff _ _ _ _).mpr (.inr ⟨hrow, hfault⟩)⟩
      · obtain ⟨hrow, hcell⟩ := Classical.not_imp.mp hrow
        obtain ⟨⟨column, cause⟩, hcell⟩ := Option.ne_none_iff_exists'.mp hcell
        exact ⟨_, (isFirstBadCell_cons_iff _ _ _ _).mpr
          (.inl ⟨hrow, column, cause, hcell, rfl⟩)⟩

/-- A sheet with its columns has rows, whose cells are those of its records in these columns. It
comes to what its rows come to one by one, and every row on registers to two cases or skips of
directions. The only fault is the first bad cell of a row on registers. -/
theorem read_gives_rows_or_first_bad_cell (columns : Columns) (version : String)
    (resolver : Resolver) (sheet : Sheet) (hbind : columns.Bind sheet) :
    let source : Source := ⟨sheet.path, SpecVersion.constant version, resolver⟩
    let outcome := (read columns version resolver sheet).attempt.outcome
    ∃ rows, rowsOf columns sheet = .ok rows ∧
      List.Forall₂ (IsRowOf columns sheet) sheet.rows rows ∧
      (∀ build, outcome = .ok build ↔ RowsGive source rows build) ∧
      (∀ build, outcome = .ok build →
        build.entries.length + build.skipped.countP (·.reason.isUnresolved) +
          2 * build.skipped.countP (!·.reason.isUnresolved) = 2 * rows.length) ∧
      ((∃ fault, outcome = .error fault) ↔ ∃ row ∈ rows, row.IsOrdinary ∧ row.badCell? ≠ none) ∧
      ∀ fault, outcome = .error fault ↔ IsFirstBadCell source rows fault := by
  intro source outcome
  obtain ⟨rows, hrows⟩ := exists_rowsOf columns sheet hbind
  have hread : read columns version resolver sheet = readAll source rows := by
    simp only [read, hrows]
    rfl
  have hok : ∀ build, outcome = .ok build ↔ RowsGive source rows build := by
    intro build
    rw [rowsGive_iff, ← hread]
    exact Reading.outcome_attempt_eq_ok_iff _ _
  have herror : ∀ fault, outcome = .error fault ↔ IsFirstBadCell source rows fault := by
    intro fault
    rw [← fault?_readAll_eq_some_iff, ← hread]
    exact Reading.outcome_attempt_eq_error_iff _ _
  refine ⟨rows, hrows, ((rowsOf_eq_ok_iff columns sheet rows).mp hrows).2, hok,
    fun build hbuild => ?_, ?_, herror⟩
  · exact count_of_rowsGive source rows build ((hok build).mp hbuild)
  · rw [← exists_isFirstBadCell_iff source]
    exact exists_congr herror

def mixedSheet (more : List Csv.TextRecord) : Sheet where
  path := "msr.csv"
  columns := [nameColumn, firstColumn, lastColumn, sizeColumn, "Read", "Write"]
  rows := [
    ⟨["TSC", "10", "", "", "Native", "#GP(0)"], 2⟩,
    ⟨["", "", "11", "", "Native", "Native"], 3⟩,
    ⟨["Reserved", "Default", "", "none", "", ""], 4⟩,
    ⟨["Other", "Default", "", "", "", ""], 5⟩,
    ⟨["PMC", "0xC1", "0xc8", "", "Inject_GP(PERFMON)", "Inject_GP(~LBR)"], 6⟩] ++ more

def perfmonResolver : Resolver :=
  ⟨.ofList [("PERFMON", "pre_perfmon")], .ofNames ["pre_perfmon"]⟩

theorem read_gives_rows_or_first_bad_cell_mixed :
    let columns : Columns := ⟨["Read"], ["Write"]⟩
    let source : Source := ⟨"msr.csv", "VER1_5", perfmonResolver⟩
    let broken := mixedSheet [⟨["BAD", "20", "1F", "none", "Native", "Native"], 7⟩]
    columns.Bind (mixedSheet []) ∧ columns.Bind broken ∧
    (∃ rows build, rowsOf columns (mixedSheet []) = .ok rows ∧
      List.Forall₂ (IsRowOf columns (mixedSheet [])) (mixedSheet []).rows rows ∧
      (read columns "1.5" perfmonResolver (mixedSheet [])).attempt.outcome = .ok build ∧
      RowsGive source rows build ∧ build.entries.length = 3) ∧
    ∃ rows, rowsOf columns broken = .ok rows ∧
      IsFirstBadCell source rows
        (.invalidCell "msr.csv" 7 lastColumn (.belowFirst 0x1F 0x20)) := by
  intro columns source broken
  have hbind : ∀ more, columns.Bind (mixedSheet more) := fun more => {
    name := by simp [mixedSheet]
    first := by simp [mixedSheet]
    last := by simp [mixedSheet]
    size := by simp [mixedSheet]
    read := ⟨"Read", by simp [columns], by simp [mixedSheet]⟩
    write := ⟨"Write", by simp [columns], by simp [mixedSheet]⟩ }
  obtain ⟨rows, hrows, hcells, hok, -⟩ :=
    read_gives_rows_or_first_bad_cell columns "1.5" perfmonResolver (mixedSheet []) (hbind [])
  obtain ⟨others, hothers, -, -, -, -, herror⟩ :=
    read_gives_rows_or_first_bad_cell columns "1.5" perfmonResolver broken (hbind _)
  exact ⟨hbind _, hbind _, ⟨rows, _, hrows, hcells, rfl, (hok _).mp rfl, rfl⟩, others, hothers,
    (herror _).mp rfl⟩

end Msr

end GuestCases
