import GuestCases.Proofs.FieldAttribution
import GuestCases.Proofs.WrittenRecords

/-!
Which CPUID sheets cannot be read. Only the cells of a fixed field in a leaf group are checked: the
register first, then the bounds and the size. The reading fails exactly when some checked field has
a bad cell, and the fault is that of the first bad cell of the first such field.
-/

namespace GuestCases.Cpuid

def IsChecked (context : Option LeafGroup) (row : Row) : Prop :=
  row.register ≠ none ∧ row.virtType = some fixedType ∧ context ≠ none

instance (context : Option LeafGroup) (row : Row) : Decidable (IsChecked context row) :=
  inferInstanceAs (Decidable (_ ∧ _ ∧ _))

def NamesRegister (text : String) : Prop :=
  ∃ register ∈ Register.all, Text.lower text = register.name

instance (text : String) : Decidable (NamesRegister text) :=
  inferInstanceAs (Decidable (∃ register ∈ Register.all, _))

def HoldsInt32 (cell : Option String) : Prop :=
  ∃ text value, cell = some text ∧ Numeral.readInteger text = .ok value ∧
    -0x80000000 ≤ value ∧ value < 0x80000000

def Row.HasBadCell (row : Row) : Prop :=
  (∃ text, row.register = some text ∧ ¬NamesRegister text) ∨ ¬HoldsInt32 row.msb ∨
    ¬HoldsInt32 row.lsb ∨ ¬HoldsInt32 row.size

def registerFault? (text : String) : Option BadCell :=
  if NamesRegister text then none else some (.register ⟨text⟩)

def int32Fault? : Option String → Option BadCell
  | none => some (.numeral .empty)
  | some text =>
    match Numeral.readInteger text with
    | .error fault => some (.numeral fault)
    | .ok value =>
      if value < -0x80000000 then some .belowInt32
      else if value < 0x80000000 then none
      else some .aboveInt32

def Row.badCell? (row : Row) : Option (String × BadCell) :=
  [(registerColumn, row.register.bind registerFault?), (msbColumn, int32Fault? row.msb),
    (lsbColumn, int32Fault? row.lsb), (sizeColumn, int32Fault? row.size)].findSome?
      fun (column, fault?) => fault?.map fun fault => (column, fault)

def IsFirstBadField (source : Source) (located : List (Option LeafGroup × Row))
    (fault : SheetFault) : Prop :=
  ∃ earlier context row later column cause, located = earlier ++ (context, row) :: later ∧
    (∀ other ∈ earlier, IsChecked other.1 other.2 → ¬other.2.HasBadCell) ∧
    IsChecked context row ∧ row.badCell? = some (column, cause) ∧
    fault = .invalidCell source.path row.line column cause

def fieldFault? (source : Source) (located : Option LeafGroup × Row) : Option SheetFault :=
  if IsChecked located.1 located.2 then
    located.2.badCell?.map fun (column, cause) =>
      .invalidCell source.path located.2.line column cause
  else none

theorem registerFault?_eq_none_iff (text : String) :
    registerFault? text = none ↔ NamesRegister text := by
  simp [registerFault?]

theorem int32Fault?_eq_none_iff (cell : Option String) :
    int32Fault? cell = none ↔ HoldsInt32 cell := by
  cases cell with
  | none => simp [HoldsInt32, int32Fault?]
  | some text =>
    cases hread : Numeral.readInteger text with
    | error fault => simp [HoldsInt32, int32Fault?, hread]
    | ok value =>
      have hholds : HoldsInt32 (some text) ↔ -0x80000000 ≤ value ∧ value < 0x80000000 := by
        simp [HoldsInt32, hread]
      rw [hholds]
      simp only [int32Fault?, hread]
      split
      · exact iff_of_false (by simp) (by omega)
      · split
        · exact iff_of_true rfl (by omega)
        · exact iff_of_false (by simp) (by omega)

theorem badCell?_ne_none_iff (row : Row) : row.badCell? ≠ none ↔ row.HasBadCell := by
  have hregister : (∃ text, row.register = some text ∧ ¬NamesRegister text) ↔
      row.register.bind registerFault? ≠ none := by
    cases row.register <;> simp [registerFault?_eq_none_iff]
  unfold Row.HasBadCell
  rw [hregister, ← int32Fault?_eq_none_iff row.msb, ← int32Fault?_eq_none_iff row.lsb,
    ← int32Fault?_eq_none_iff row.size]
  unfold Row.badCell?
  cases row.register.bind registerFault? <;> cases int32Fault? row.msb <;>
    cases int32Fault? row.lsb <;> cases int32Fault? row.size <;> simp

/-- A trimmed register cell is bad when it cannot be read. -/
theorem registerFault?_eq (text : String) (htrim : Text.trim text = text) :
    registerFault? text =
      match Register.ofText text with
      | .ok _ => none
      | .error fault => some (.register fault) := by
  have hfound : NamesRegister text ↔ (Register.all.find? fun register =>
      register.name == Text.lower text).isSome := by
    rw [List.find?_isSome]
    exact exists_congr fun register => and_congr_right fun _ => eq_comm.trans beq_iff_eq.symm
  unfold registerFault? Register.ofText
  simp only [hfound, htrim]
  cases Register.all.find? fun register => register.name == Text.lower text <;> simp

theorem int32Fault?_eq (cell : Option String) :
    int32Fault? cell =
      match readInt32 cell with
      | .ok _ => none
      | .error cause => some cause := by
  have hempty : Numeral.readInteger "" = .error .empty := rfl
  cases cell with
  | none => simp [int32Fault?, readInt32, hempty]
  | some text =>
    cases hread : Numeral.readInteger text with
    | error fault => simp [int32Fault?, readInt32, hread]
    | ok value =>
      simp only [int32Fault?, readInt32, hread, Option.getD_some]
      by_cases hlow : value < -0x80000000
      · have hnot : ¬0x80000000 ≤ value := by omega
        simp [hlow, hnot]
      · by_cases hhigh : value < 0x80000000
        · have hnot : ¬0x80000000 ≤ value := by omega
          simp [hlow, hhigh, hnot]
        · have hle : 0x80000000 ≤ value := by omega
          simp [hlow, hhigh, hle]

/-- Of the columns the first with a bad cell decides. -/
theorem readGeometry_eq_error_iff (source : Source) (row : Row) (text : String)
    (fault : SheetFault) (hregister : row.register = some text) (htrim : Text.trim text = text) :
    readGeometry source row text = .error fault ↔
      row.badCell?.map (fun (column, cause) =>
        SheetFault.invalidCell source.path row.line column cause) = some fault := by
  unfold readGeometry Row.badCell?
  simp only [hregister, Option.bind_some, registerFault?_eq text htrim, int32Fault?_eq]
  cases Register.ofText text <;> cases readInt32 row.msb <;> cases readInt32 row.lsb <;>
    cases readInt32 row.size <;>
    simp [bind, Except.bind, Except.mapError, pure, Except.pure]

theorem readRow_eq_error_iff_fieldFault? (source : Source) (context : Context) (row : Row)
    (fault : SheetFault) (htrim : ∀ text ∈ row.register, Text.trim text = text) :
    readRow source context row = .error fault ↔
      fieldFault? source (context.group, row) = some fault := by
  rw [readRow_eq_error_iff]
  unfold fieldFault?
  constructor
  · rintro ⟨text, group, hregister, hfixed, hgroup, hgeometry⟩
    rw [if_pos ⟨by simp [hregister], hfixed, by simp [hgroup]⟩]
    exact (readGeometry_eq_error_iff source row text fault hregister (htrim text hregister)).mp
      hgeometry
  · intro h
    obtain ⟨⟨hregister, hfixed, hgroup⟩, hbad⟩ := Option.ite_none_right_eq_some.mp h
    obtain ⟨text, hregister⟩ := Option.ne_none_iff_exists'.mp hregister
    obtain ⟨group, hgroup⟩ := Option.ne_none_iff_exists'.mp hgroup
    exact ⟨text, group, hregister, hfixed, hgroup,
      (readGeometry_eq_error_iff source row text fault hregister (htrim text hregister)).mpr hbad⟩

/-- The fault of a reading is the first that a row has in its leaf context. -/
theorem fault?_readRows (source : Source) (context : Context) (rows : List Row)
    (htrim : ∀ row ∈ rows, ∀ text ∈ row.register, Text.trim text = text) :
    (readRows (readRow source) context rows).fault? =
      (inContextFrom context.group rows).findSome? (fieldFault? source) := by
  -- The rows behind a row stand in the context that it leaves, so the context varies.
  induction rows generalizing context with
  | nil => rfl
  | cons row rest ih =>
    obtain ⟨hrow, hrest⟩ := List.forall_mem_cons.mp htrim
    have hiff := readRow_eq_error_iff_fieldFault? source context row
    rw [inContextFrom_cons, List.findSome?_cons]
    cases hread : readRow source context row with
    | error fault => simp [readRows, hread, (hiff fault hrow).mp hread]
    | ok made =>
      obtain ⟨next, events⟩ := made
      have hnone : fieldFault? source (context.group, row) = none := by
        apply Option.eq_none_iff_forall_ne_some.mpr
        intro fault hfault
        rw [(hiff fault hrow).mpr hfault] at hread
        cases hread
      rw [hnone, ← (readsRow_readRow source context next row events hread).group, ← ih next hrest]
      simp [readRows, hread]

/-- The register cells of the rows of a sheet are trimmed. -/
theorem trim_register_of_rowsOf (columns : Columns) (sheet : Sheet) (rows : List Row)
    (h : rowsOf columns sheet = .ok rows) :
    ∀ row ∈ rows, ∀ text ∈ row.register, Text.trim text = text := by
  intro row hrow text htext
  obtain ⟨record, -, hrecord⟩ :=
    exists_of_forall₂ ((rowsOf_eq_ok_iff columns sheet rows).mp h).2 row hrow
  obtain ⟨position, -, hcell⟩ := hrecord.register
  rw [Option.mem_def.mp htext] at hcell
  obtain ⟨cell, -, rfl, -⟩ := hcell
  simp [Text.trim, Text.trimChars_trimChars]

theorem findSome?_fieldFault?_eq_some_iff (source : Source)
    (located : List (Option LeafGroup × Row)) (fault : SheetFault) :
    located.findSome? (fieldFault? source) = some fault ↔
      IsFirstBadField source located fault := by
  have hnone : ∀ other : Option LeafGroup × Row, fieldFault? source other = none ↔
      (IsChecked other.1 other.2 → ¬other.2.HasBadCell) := by
    intro other
    simp [fieldFault?, ← badCell?_ne_none_iff]
  rw [List.findSome?_eq_some_iff]
  constructor
  · rintro ⟨earlier, ⟨context, row⟩, later, hlocated, hfault, hearlier⟩
    obtain ⟨hchecked, hbad⟩ := Option.ite_none_right_eq_some.mp hfault
    obtain ⟨⟨column, cause⟩, hcell, rfl⟩ := Option.map_eq_some_iff.mp hbad
    exact ⟨earlier, context, row, later, column, cause, hlocated,
      fun other hother => (hnone other).mp (hearlier other hother), hchecked, hcell, rfl⟩
  · rintro ⟨earlier, context, row, later, column, cause, hlocated, hearlier, hchecked, hcell, rfl⟩
    refine ⟨earlier, (context, row), later, hlocated, ?_,
      fun other hother => (hnone other).mpr (hearlier other hother)⟩
    rw [fieldFault?, if_pos hchecked, hcell]
    rfl

theorem exists_isFirstBadField_iff (source : Source) (located : List (Option LeafGroup × Row)) :
    (∃ fault, IsFirstBadField source located fault) ↔
      ∃ context row, (context, row) ∈ located ∧ IsChecked context row ∧ row.HasBadCell := by
  simp only [← findSome?_fieldFault?_eq_some_iff, ← Option.isSome_iff_exists,
    List.isSome_findSome?, List.any_eq_true, fieldFault?, ← badCell?_ne_none_iff]
  simp [Option.isSome_iff_ne_none]

/-- A sheet with its columns cannot be read exactly when some fixed field in a leaf group has a bad
cell. The fault is that of the first such field and of its first bad column, and other rows never
cause one. -/
theorem read_fails_at_first_bad_field (columns : Columns) (version : String) (sheet : Sheet)
    (rows : List Row) (hrows : rowsOf columns sheet = .ok rows) :
    let source : Source := ⟨sheet.path, SpecVersion.constant version⟩
    let outcome := (read columns version sheet).attempt.outcome
    ((∃ fault, outcome = .error fault) ↔
      ∃ context row, (context, row) ∈ inContext rows ∧ IsChecked context row ∧ row.HasBadCell) ∧
    ∀ fault, outcome = .error fault ↔ IsFirstBadField source (inContext rows) fault := by
  intro source outcome
  have houtcome : outcome = (readAll source rows).attempt.outcome := by
    simp only [outcome, read, hrows]
    rfl
  have herror : ∀ fault, outcome = .error fault ↔
      IsFirstBadField source (inContext rows) fault := by
    intro fault
    rw [← findSome?_fieldFault?_eq_some_iff, inContext,
      ← fault?_readRows source ⟨none, none⟩ rows (trim_register_of_rowsOf columns sheet rows hrows)]
    rw [houtcome]
    exact Reading.outcome_attempt_eq_error_iff _ _
  refine ⟨?_, herror⟩
  rw [← exists_isFirstBadField_iff source]
  exact exists_congr herror

def brokenSheet : Sheet where
  path := "cpuid.csv"
  columns := ["Field", "Reg.", "MSB", "LSB", "Field Size", "Type", "Detail"]
  rows := [
    ⟨["Early", "RAX", "high", "", "", "Fixed", "1"], 2⟩,
    ⟨["Leaf 0x1", "", "", "", "", "", ""], 3⟩,
    ⟨["Free", "RAX", "high", "", "", "Configured", "1"], 4⟩,
    ⟨["SSE3", "eCx", "0.0", "0", "1.00", "Fixed", ""], 5⟩,
    ⟨["Wide", "EAX", "31", "-2147483649", "", "Fixed", "1"], 6⟩,
    ⟨["Late", "RAX", "0", "0", "1", "Fixed", "1"], 7⟩]

theorem read_fails_at_first_bad_field_broken :
    ∃ rows, rowsOf ⟨"Field", ["Type"], ["Detail"]⟩ brokenSheet = .ok rows ∧
      IsFirstBadField ⟨"cpuid.csv", "VER1_5"⟩ (inContext rows)
        (.invalidCell "cpuid.csv" 6 lsbColumn .belowInt32) := by
  have hbroken := read_fails_at_first_bad_field ⟨"Field", ["Type"], ["Detail"]⟩ "1.5" brokenSheet _
    rfl
  exact ⟨_, rfl, (hbroken.2 _).mp (by decide +kernel)⟩

end GuestCases.Cpuid
