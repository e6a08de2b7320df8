import GuestCases.Proofs.BoundColumns

/-!
Which leaf group a field of a CPUID sheet belongs to. The context of a row is decided by the last
header row before it that names a leaf, well or badly. The entries and the skips of a sheet are
then what each row gives in its own context, in row order.
-/

namespace GuestCases.Cpuid

/-- What a row says of the leaf context: the group that its header announces, or that there is
none when the header is malformed. Any other row says nothing. -/
def Row.announced? (row : Row) : Option (Option LeafGroup) :=
  match row.register, row.name with
  | none, some name =>
    match LeafGroup.ofName name with
    | .ok (some group) => some (some group)
    | .ok none => none
    | .error _ => some none
  | _, _ => none

/-- The leaf context behind the rows: what the last of them that says anything says of it, else
the one before them. -/
def leafContextFrom (start : Option LeafGroup) (before : List Row) : Option LeafGroup :=
  (before.reverse.findSome? Row.announced?).getD start

def inContextFrom (start : Option LeafGroup) (rows : List Row) :
    List (Option LeafGroup × Row) :=
  rows.mapIdx fun position row => (leafContextFrom start (rows.take position), row)

def inContext (rows : List Row) : List (Option LeafGroup × Row) :=
  inContextFrom none rows

structure IsFieldCase (source : Source) (group : LeafGroup) (row : Row) (subleaf : String)
    (entry : Entry) : Prop where
  leaf : entry.leaf = group.leaf
  subleaf : entry.subleaf = subleaf
  register : ∃ text register, row.register = some text ∧
    Register.ofText text = .ok register ∧ entry.register = some register
  msb : readInt32 row.msb = .ok entry.msb
  lsb : readInt32 row.lsb = .ok entry.lsb
  size : readInt32 row.size = .ok entry.size
  fieldName : entry.fieldName = row.name.getD ""
  expectedValue : row.virtDetail = some entry.expectedValue
  specVersion : entry.specVersion = source.version

/-- The entries are the cases of the row: one for each sub-leaf of its context in order when the
row is a fixed field with a value, none otherwise. -/
def AreFieldCases (source : Source) (context : Option LeafGroup) (row : Row)
    (entries : List Entry) : Prop :=
  match context with
  | none => entries = []
  | some group =>
    if row.register ≠ none ∧ row.virtType = some fixedType ∧ row.virtDetail ≠ none then
      List.Forall₂ (IsFieldCase source group row) group.subleaves entries
    else entries = []

def Row.lost? (context : Option LeafGroup) (row : Row) : Option SkipReason :=
  match row.register, row.name with
  | none, none => some .blank
  | none, some name =>
    match LeafGroup.ofName name with
    | .ok _ => none
    | .error fault => some (.malformedLeaf fault)
  | some _, _ =>
    if row.virtType ≠ some fixedType then some (.notFixed (row.virtType.getD ""))
    else if context = none then some .noLeaf
    else if row.virtDetail = none then some .noExpectedValue
    else none

def headerEvents (source : Source) (row : Row) (caption : String) : List (Event Entry) :=
  match LeafGroup.ofName caption with
  | .ok _ => []
  | .error fault =>
    [source.warn row (.malformedHeader caption fault), source.skip row (.malformedLeaf fault)]

def lossRemarks (source : Source) (row : Row) : SkipReason → List (Event Entry)
  | .noExpectedValue => [source.warn row (.valueMissing (row.name.getD ""))]
  | _ => []

inductive RowStep (source : Source) (context : Context) (row : Row) :
    Context → List (Event Entry) → Prop where
  | blank (hregister : row.register = none) (hname : row.name = none) :
    RowStep source context row context [source.skip row .blank]
  | header (caption : String) (hregister : row.register = none)
    (hname : row.name = some caption) :
    RowStep source context row ⟨row.announced?.getD context.group, some caption⟩
      (headerEvents source row caption)
  | lost (register : String) (reason : SkipReason) (hregister : row.register = some register)
    (hreason : row.lost? context.group = some reason) :
    RowStep source context row context (lossRemarks source row reason ++ [source.skip row reason])
  | field (register value : String) (group : LeafGroup) (geometry : Geometry)
    (hregister : row.register = some register) (hfixed : row.virtType = some fixedType)
    (hgroup : context.group = some group)
    (hgeometry : readGeometry source row register = .ok geometry)
    (hvalue : row.virtDetail = some value) :
    RowStep source context row ⟨some group, none⟩
      ((pendingMarker source group context.caption ++
        fieldEntries source group row geometry value).map .entry)

theorem exists_ofName_of_announced? (row : Row) (group : LeafGroup)
    (h : row.announced? = some (some group)) :
    ∃ name, LeafGroup.ofName name = .ok (some group) := by
  unfold Row.announced? at h
  split at h
  · rename_i name hregister hname
    refine ⟨name, ?_⟩
    cases hof : LeafGroup.ofName name with
    | error fault => simp [hof] at h
    | ok announced => cases announced <;> simp_all
  · cases h

theorem getD_virtType_eq_iff (row : Row) :
    row.virtType.getD "" = fixedType ↔ row.virtType = some fixedType := by
  cases row.virtType with
  | none => simp [fixedType]
  | some virtType => simp

theorem rowStep_readHeader (source : Source) (context : Context) (row : Row)
    (h : row.register = none) :
    RowStep source context row (readHeader source context row).1
      (readHeader source context row).2 := by
  unfold readHeader
  cases hname : row.name with
  | none => exact .blank h hname
  | some name =>
    have hstep : RowStep source context row _ _ := .header name h hname
    rcases hof : LeafGroup.ofName name with fault | (_ | group) <;>
      simpa [headerEvents, Row.announced?, h, hname, hof] using hstep

theorem rowStep_readField (source : Source) (context next : Context) (row : Row)
    (register : String) (events : List (Event Entry)) (h : row.register = some register)
    (hread : readField source context row register = .ok (next, events)) :
    RowStep source context row next events := by
  simp only [readField] at hread
  split at hread
  · rename_i htype
    have hother : row.virtType ≠ some fixedType := fun hfixed =>
      htype ((getD_virtType_eq_iff row).mpr hfixed)
    cases hread
    exact .lost register (.notFixed _) h (by simp [Row.lost?, h, hother])
  · rename_i htype
    have hfixed := (getD_virtType_eq_iff row).mp (Decidable.not_not.mp htype)
    split at hread
    · rename_i hgroup
      cases hread
      exact .lost register .noLeaf h (by simp [Row.lost?, h, hfixed, hgroup])
    · rename_i group hgroup
      cases hgeometry : readGeometry source row register with
      | error fault => simp [hgeometry, bind, Except.bind] at hread
      | ok geometry =>
        simp only [hgeometry, bind, Except.bind] at hread
        split at hread
        · rename_i hvalue
          cases hread
          exact .lost register .noExpectedValue h (by simp [Row.lost?, h, hfixed, hgroup, hvalue])
        · rename_i value hvalue
          cases hread
          exact .field register value group geometry h hfixed hgroup hgeometry hvalue

theorem rowStep_of_readRow (source : Source) (context next : Context) (row : Row)
    (events : List (Event Entry)) (hread : readRow source context row = .ok (next, events)) :
    RowStep source context row next events := by
  unfold readRow at hread
  split at hread
  · rename_i hregister
    have hheader := rowStep_readHeader source context row hregister
    rwa [Except.ok.inj hread] at hheader
  · rename_i register hregister
    exact rowStep_readField source context next row register events hregister hread

/-- Only a fixed field in a leaf group gives entries: its own, behind the marker that waits. -/
theorem RowStep.mem_of_entry_mem {source : Source} {context next : Context} {row : Row}
    {events : List (Event Entry)} (h : RowStep source context row next events) (made : Entry)
    (hmade : .entry made ∈ events) :
    ∃ register group geometry value, context.group = some group ∧
      readGeometry source row register = .ok geometry ∧
      (made ∈ pendingMarker source group context.caption ∨
        made ∈ fieldEntries source group row geometry value) := by
  cases h with
  | blank => simp [Source.skip] at hmade
  | header caption =>
    cases hof : LeafGroup.ofName caption <;>
      simp [headerEvents, hof, Source.skip, Source.warn] at hmade
  | lost register reason =>
    cases reason <;> simp [lossRemarks, Source.skip, Source.warn] at hmade
  | field register value group geometry _ _ hgroup hgeometry =>
    obtain ⟨entry, hentry, heq⟩ := List.mem_map.mp hmade
    obtain rfl := Event.entry.inj heq
    exact ⟨register, group, geometry, value, hgroup, hgeometry, List.mem_append.mp hentry⟩

/-- What every row keeps of the context and has in its entries holds of all entries of a sheet. -/
theorem forall_entries_of_read (Keeps : Context → Prop) (Gives : Entry → Prop)
    (hstart : Keeps ⟨none, none⟩)
    (hstep : ∀ source context next row events, Keeps context →
      RowStep source context row next events →
      Keeps next ∧ ∀ made, .entry made ∈ events → Gives made)
    (columns : Columns) (version : String) (sheet : Sheet) (build : Build Entry)
    (h : (read columns version sheet).attempt.outcome = .ok build) (entry : Entry)
    (hentry : entry ∈ build.entries) : Gives entry := by
  obtain ⟨-, rfl⟩ := (Reading.outcome_attempt_eq_ok_iff _ _).mp h
  obtain ⟨event, hevent, hcase⟩ := List.mem_filterMap.mp hentry
  unfold read at hevent
  split at hevent
  · cases hevent
  · rename_i rows hrows
    refine forall_events_readRows _ Keeps (fun event => ∀ made, event = .entry made → Gives made)
      rows ?_ ⟨none, none⟩ hstart event hevent entry ?_
    · intro row _ context next events hcontext hread
      obtain ⟨hnext, hmade⟩ := hstep _ context next row events hcontext
        (rowStep_of_readRow _ context next row events hread)
      exact ⟨hnext, fun event hevent made heq => hmade made (heq ▸ hevent)⟩
    · cases event with
      | entry made => rw [Option.some.inj hcase]
      | skip lost => cases hcase
      | remark said => cases hcase

/-- Only the cells of a fixed field in a leaf group can be wrong. -/
theorem readRow_eq_error_iff (source : Source) (context : Context) (row : Row)
    (fault : SheetFault) :
    readRow source context row = .error fault ↔
      ∃ register group, row.register = some register ∧ row.virtType = some fixedType ∧
        context.group = some group ∧ readGeometry source row register = .error fault := by
  unfold readRow
  cases hregister : row.register with
  | none => simp
  | some register =>
    simp only [readField, ne_eq, getD_virtType_eq_iff]
    by_cases hfixed : row.virtType = some fixedType
    · cases hgroup : context.group with
      | none => simp [hfixed]
      | some group =>
        cases hgeometry : readGeometry source row register with
        | error cause => simp [hfixed, hgeometry, bind, Except.bind]
        | ok geometry => cases hvalue : row.virtDetail <;>
            simp [hfixed, hgeometry, bind, Except.bind, pure, Except.pure]
    · simp [hfixed]

/-- The entries with a register and the skips of the build are those of the rows in their
contexts, in row order. -/
structure Accounts (source : Source) (located : List (Option LeafGroup × Row))
    (build : Build Entry) : Prop where
  fields : ∃ blocks, List.Forall₂ (fun row block => AreFieldCases source row.1 row.2 block)
    located blocks ∧ build.entries.filter (·.register.isSome) = blocks.flatten
  skips : build.skipped = located.filterMap fun row =>
    (row.2.lost? row.1).map (⟨source.path, row.2.line, ·⟩)

def fieldsOf (events : List (Event Entry)) : List Entry :=
  (events.filterMap Event.asCase?).filter (·.register.isSome)

structure ReadsRow (source : Source) (context : Context) (row : Row) (next : Context)
    (events : List (Event Entry)) : Prop where
  group : next.group = row.announced?.getD context.group
  fields : AreFieldCases source context.group row (fieldsOf events)
  skips : events.filterMap Event.asSkip? =
    ((row.lost? context.group).map (⟨source.path, row.line, ·⟩)).toList

theorem areFieldCases_nil (source : Source) (context : Option LeafGroup) (row : Row)
    (h : ¬(row.register ≠ none ∧ row.virtType = some fixedType ∧ row.virtDetail ≠ none)) :
    AreFieldCases source context row [] := by
  unfold AreFieldCases
  split
  · rfl
  · rw [if_neg h]

/-- A row that is skipped has no cases. -/
theorem areFieldCases_nil_of_lost (source : Source) (context : Option LeafGroup) (row : Row)
    (reason : SkipReason) (h : row.lost? context = some reason) :
    AreFieldCases source context row [] := by
  cases context with
  | none => rfl
  | some group =>
    apply areFieldCases_nil
    rintro ⟨hregister, hfixed, hvalue⟩
    obtain ⟨register, hregister⟩ := Option.ne_none_iff_exists'.mp hregister
    simp [Row.lost?, hregister, hfixed, hvalue] at h

/-- A skipped row that announces nothing leaves the context as it is. -/
theorem readsRow_of_lost (source : Source) (context : Context) (row : Row) (reason : SkipReason)
    (events : List (Event Entry)) (hannounced : row.announced? = none)
    (hlost : row.lost? context.group = some reason) (hfields : fieldsOf events = [])
    (hskips : events.filterMap Event.asSkip? = [⟨source.path, row.line, reason⟩]) :
    ReadsRow source context row context events where
  group := by rw [hannounced, Option.getD_none]
  fields := by
    rw [hfields]
    exact areFieldCases_nil_of_lost source context.group row reason hlost
  skips := by rw [hskips, hlost, Option.map_some, Option.toList_some]

theorem readsRow_headerEvents (source : Source) (context : Context) (row : Row) (caption : String)
    (hregister : row.register = none) (hname : row.name = some caption) :
    ReadsRow source context row ⟨row.announced?.getD context.group, some caption⟩
      (headerEvents source row caption) where
  group := rfl
  fields := by
    have hnil : AreFieldCases source context.group row [] :=
      areFieldCases_nil source context.group row fun hfield => hfield.1 hregister
    cases hof : LeafGroup.ofName caption <;>
      simpa [headerEvents, hof, fieldsOf, List.filterMap_cons, Source.skip, Source.warn,
        Event.asCase?]
  skips := by
    cases hof : LeafGroup.ofName caption <;>
      simp [headerEvents, Row.lost?, hregister, hname, hof, List.filterMap_cons, Source.skip,
        Source.warn, Event.asSkip?]

theorem readGeometry_eq_ok_iff (source : Source) (row : Row) (register : String)
    (geometry : Geometry) :
    readGeometry source row register = .ok geometry ↔
      Register.ofText register = .ok geometry.register ∧ readInt32 row.msb = .ok geometry.msb ∧
        readInt32 row.lsb = .ok geometry.lsb ∧ readInt32 row.size = .ok geometry.size := by
  obtain ⟨found, msb, lsb, size⟩ := geometry
  unfold readGeometry
  cases Register.ofText register <;> cases readInt32 row.msb <;> cases readInt32 row.lsb <;>
    cases readInt32 row.size <;>
    simp [bind, Except.bind, Except.mapError, pure, Except.pure]

theorem filter_pendingMarker (source : Source) (group : LeafGroup) (caption : Option String) :
    (pendingMarker source group caption).filter (·.register.isSome) = [] := by
  cases caption <;> simp [pendingMarker, Entry.marker]

theorem forall₂_fieldEntries (source : Source) (group : LeafGroup) (row : Row)
    (geometry : Geometry) (register value : String) (hregister : row.register = some register)
    (hgeometry : readGeometry source row register = .ok geometry)
    (hvalue : row.virtDetail = some value) :
    List.Forall₂ (IsFieldCase source group row) group.subleaves
      (fieldEntries source group row geometry value) := by
  obtain ⟨hfound, hmsb, hlsb, hsize⟩ := (readGeometry_eq_ok_iff _ _ _ _).mp hgeometry
  rw [fieldEntries, List.forall₂_map_right_iff]
  apply List.forall₂_same.mpr
  intro subleaf _
  exact {
    leaf := rfl
    subleaf := rfl
    register := ⟨register, geometry.register, hregister, hfound, rfl⟩
    msb := hmsb
    lsb := hlsb
    size := hsize
    fieldName := rfl
    expectedValue := hvalue
    specVersion := rfl
  }

theorem fieldsOf_map_entry (entries : List Entry) :
    fieldsOf (entries.map .entry) = entries.filter (·.register.isSome) := by
  rw [fieldsOf, List.filterMap_map]
  congr 1
  exact List.filterMap_some

theorem filter_fieldEntries (source : Source) (group : LeafGroup) (row : Row)
    (geometry : Geometry) (value : String) :
    (fieldEntries source group row geometry value).filter (·.register.isSome) =
      fieldEntries source group row geometry value := by
  apply List.filter_eq_self.mpr
  intro entry hentry
  obtain ⟨subleaf, -, rfl⟩ := List.mem_map.mp hentry
  rfl

/-- The entries of a field stand behind the marker that waits for them. -/
theorem readsRow_fieldEntries (source : Source) (context : Context) (group : LeafGroup)
    (row : Row) (geometry : Geometry) (register value : String)
    (hregister : row.register = some register) (hfixed : row.virtType = some fixedType)
    (hgroup : context.group = some group)
    (hgeometry : readGeometry source row register = .ok geometry)
    (hvalue : row.virtDetail = some value) :
    ReadsRow source context row ⟨some group, none⟩
      ((pendingMarker source group context.caption ++
        fieldEntries source group row geometry value).map .entry) where
  group := by simp [Row.announced?, hregister, hgroup]
  fields := by
    have hcases := forall₂_fieldEntries source group row geometry register value hregister
      hgeometry hvalue
    rw [fieldsOf_map_entry, List.filter_append, filter_pendingMarker, filter_fieldEntries,
      List.nil_append, hgroup]
    simpa [AreFieldCases, hregister, hfixed, hvalue] using hcases
  skips := by
    have hnone : ∀ entries : List Entry,
        (entries.map Event.entry).filterMap Event.asSkip? = [] := by
      simp [Event.asSkip?]
    rw [hnone]
    simp [Row.lost?, hregister, hfixed, hgroup, hvalue]

theorem readsRow_readRow (source : Source) (context next : Context) (row : Row)
    (events : List (Event Entry)) (hread : readRow source context row = .ok (next, events)) :
    ReadsRow source context row next events := by
  cases rowStep_of_readRow source context next row events hread with
  | blank hregister hname =>
    exact readsRow_of_lost source context row .blank _
      (by simp [Row.announced?, hregister, hname]) (by simp [Row.lost?, hregister, hname]) rfl rfl
  | header caption hregister hname =>
    exact readsRow_headerEvents source context row caption hregister hname
  | lost register reason hregister hreason =>
    refine readsRow_of_lost source context row reason _ (by simp [Row.announced?, hregister])
      hreason ?_ ?_
    · cases reason <;> rfl
    · cases reason <;> rfl
  | field register value group geometry hregister hfixed hgroup hgeometry hvalue =>
    exact readsRow_fieldEntries source context group row geometry register value hregister hfixed
      hgroup hgeometry hvalue

theorem leafContextFrom_cons (start : Option LeafGroup) (row : Row) (rest : List Row) :
    leafContextFrom start (row :: rest) = leafContextFrom (row.announced?.getD start) rest := by
  unfold leafContextFrom
  rw [List.reverse_cons, List.findSome?_append, Option.getD_or]
  cases hannounced : row.announced? <;> simp [List.findSome?, hannounced]

theorem inContextFrom_cons (start : Option LeafGroup) (row : Row) (rest : List Row) :
    inContextFrom start (row :: rest) =
      (start, row) :: inContextFrom (row.announced?.getD start) rest := by
  rw [inContextFrom, List.mapIdx_cons]
  simp only [List.take_succ_cons, leafContextFrom_cons]
  rfl

/-- Reading rows in order gives what each row gives in its leaf context. -/
theorem accounts_built (source : Source) (context : Context) (rows : List Row)
    (h : (readRows (readRow source) context rows).fault? = none) :
    Accounts source (inContextFrom context.group rows)
      (readRows (readRow source) context rows).built := by
  -- The group that a row leaves behind is where the rows after it start, so the context varies.
  induction rows generalizing context with
  | nil => exact ⟨⟨[], .nil, rfl⟩, rfl⟩
  | cons row rest ih =>
    obtain ⟨next, events, hread, hrest, hevents⟩ := exists_of_readRows_cons _ _ _ _ h
    have hrow := readsRow_readRow source context next row events hread
    obtain ⟨⟨blocks, hblocks, hfields⟩, hskips⟩ := ih next hrest
    rw [hrow.group] at hblocks hskips
    simp only [Reading.built] at hfields hskips
    rw [inContextFrom_cons]
    refine ⟨⟨fieldsOf events :: blocks, .cons hrow.fields hblocks, ?_⟩, ?_⟩
    · simp only [Reading.built, hevents, List.filterMap_append, List.filter_append]
      rw [hfields, List.flatten_cons, fieldsOf]
    · simp only [Reading.built, hevents, List.filterMap_append]
      rw [hrow.skips, hskips, List.filterMap_cons]
      cases row.lost? context.group <;> rfl

/-- A sheet that can be read has rows, whose cells are those of its records in the columns that the
header names, and accounts for them. -/
theorem accounts_of_read (columns : Columns) (version : String) (sheet : Sheet)
    (build : Build Entry) (hbuild : (read columns version sheet).attempt.outcome = .ok build) :
    columns.Bind sheet ∧ ∃ rows, rowsOf columns sheet = .ok rows ∧
      List.Forall₂ (IsRowOf columns sheet) sheet.rows rows ∧
      Accounts ⟨sheet.path, SpecVersion.constant version⟩ (inContext rows) build := by
  obtain ⟨hfault, hbuilt⟩ := (Reading.outcome_attempt_eq_ok_iff _ _).mp hbuild
  cases hrows : rowsOf columns sheet with
  | error fault => simp [read, hrows] at hfault
  | ok rows =>
    obtain ⟨hbind, hcells⟩ := (rowsOf_eq_ok_iff columns sheet rows).mp hrows
    simp only [read, hrows] at hfault hbuilt
    refine ⟨hbind, rows, rfl, hcells, ?_⟩
    rw [← hbuilt]
    exact accounts_built ⟨sheet.path, SpecVersion.constant version⟩ ⟨none, none⟩ rows hfault

/-- Fields before, in and after a group that a malformed header ends. -/
def interruptedSheet : Sheet where
  path := "cpuid.csv"
  columns := ["Field", "Reg.", "MSB", "LSB", "Field Size", "Type", "Detail"]
  rows := [
    ⟨["Early", "EAX", "0", "0", "1", "Fixed", "1"], 2⟩,
    ⟨["Leaf 0x4, Sub-Leaves 0x0-0x1", "", "", "", "", "", ""], 3⟩,
    ⟨["Cache Type", " EAX ", "4", "0", "5", "Fixed", "0x1"], 4⟩,
    ⟨["", "", "", "", "", "", ""], 5⟩,
    ⟨["Remarks", "", "", "", "", "", ""], 6⟩,
    ⟨["Ways", "EBX", "31", "22", "10", "Fixed", ""], 7⟩,
    ⟨["Sets", "ECX", "31", "0", "32", "Fixed", "0x3F"], 8⟩,
    ⟨["Leaf 0x5, Sub-Leaves 0x2-0x1", "", "", "", "", "", ""], 9⟩,
    ⟨["Late", "EDX", "0", "0", "1", "Fixed", "1"], 10⟩]

theorem accounts_of_read_interrupted :
    ∃ build, (read ⟨"Field", ["Type"], ["Detail"]⟩ "1.5" interruptedSheet).attempt.outcome =
        .ok build ∧
      Columns.Bind ⟨"Field", ["Type"], ["Detail"]⟩ interruptedSheet ∧
      ∃ rows, rowsOf ⟨"Field", ["Type"], ["Detail"]⟩ interruptedSheet = .ok rows ∧
        List.Forall₂ (IsRowOf ⟨"Field", ["Type"], ["Detail"]⟩ interruptedSheet)
          interruptedSheet.rows rows ∧
        Accounts ⟨"cpuid.csv", "VER1_5"⟩ (inContext rows) build :=
  ⟨_, rfl, accounts_of_read ⟨"Field", ["Type"], ["Detail"]⟩ "1.5" interruptedSheet _ rfl⟩

end GuestCases.Cpuid
