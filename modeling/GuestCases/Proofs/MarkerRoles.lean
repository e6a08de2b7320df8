import GuestCases.Proofs.CaseLines
import GuestCases.Proofs.CollectedEntries
import GuestCases.Proofs.FieldAttribution

/-!
Which entries of a CPUID sheet act as markers. The markers of header rows do: they are printed as
comments and told apart by their captions. A field does as well when its size cell holds the size of
a marker, and otherwise it is printed as a macro call and has no caption. So only header rows make
markers exactly when no field with cases has that size.
-/

namespace GuestCases.Cpuid

structure HasCases (context : Option LeafGroup) (row : Row) : Prop where
  group : context ≠ none
  register : row.register ≠ none
  fixed : row.virtType = some fixedType
  value : row.virtDetail ≠ none

def IsHeaderMarker (source : Source) (rows : List Row) (entry : Entry) : Prop :=
  ∃ row ∈ rows, ∃ caption, ∃ group : LeafGroup, row.register = none ∧ row.name = some caption ∧
    entry = Entry.marker group.leaf group.firstSubleaf caption source.version

structure Entry.ActsAsMarker (entry : Entry) : Prop where
  isMarker : entry.isMarker = true
  line : entry.line = "\n\t// " ++ entry.fieldName
  caption : entry.fuseKey.caption = some entry.fieldName

structure Entry.ActsAsCase (entry : Entry) : Prop where
  not_isMarker : entry.isMarker = false
  line : CallsMacro statementMacros entry.line
  caption : entry.fuseKey.caption = none

theorem Entry.isMarker_iff (entry : Entry) : entry.isMarker = true ↔ entry.size = markerSize :=
  beq_iff_eq

theorem Entry.actsAsMarker (entry : Entry) (h : entry.isMarker = true) : entry.ActsAsMarker where
  isMarker := h
  line := entry.line_of_isMarker h
  caption := by simp [Entry.fuseKey, h]

theorem Entry.actsAsCase (entry : Entry) (h : entry.isMarker = false) : entry.ActsAsCase where
  not_isMarker := h
  line := entry.callsMacro_line h
  caption := by simp [Entry.fuseKey, h]

/-- A field acts as a marker exactly when its size cell holds the size of one. -/
theorem IsFieldCase.isMarker_iff {source : Source} {group : LeafGroup} {row : Row}
    {subleaf : String} {entry : Entry} (h : IsFieldCase source group row subleaf entry) :
    entry.isMarker = true ↔ readInt32 row.size = .ok markerSize := by
  rw [entry.isMarker_iff, h.size, Except.ok.injEq]

theorem IsFieldCase.register_ne_none {source : Source} {group : LeafGroup} {row : Row}
    {subleaf : String} {entry : Entry} (h : IsFieldCase source group row subleaf entry) :
    entry.register ≠ none := by
  obtain ⟨text, register, -, -, hregister⟩ := h.register
  simp [hregister]

/-- A range of sub-leaves that can be expanded has a first one. -/
theorem ne_nil_of_expandRange (first last : String) (subleaves : List String)
    (h : expandRange first last = .ok subleaves) : subleaves ≠ [] := by
  unfold expandRange at h
  split at h
  · cases h
  · split at h
    · cases h
    · split at h
      · cases h
      · split at h
        · cases h
        · obtain rfl := Except.ok.inj h
          simp [hexTexts]

theorem LeafGroup.subleaves_ne_nil (name : String) (group : LeafGroup)
    (h : LeafGroup.ofName name = .ok (some group)) : group.subleaves ≠ [] := by
  simp only [ofName] at h
  split at h
  · cases h
  · cases hsubleaves : subleavesOf name.toList with
    | error fault => simp [hsubleaves, Except.map] at h
    | ok subleaves =>
      simp only [hsubleaves, Except.map, Except.ok.injEq, Option.some.injEq] at h
      subst h
      unfold subleavesOf at hsubleaves
      split at hsubleaves
      · exact ne_nil_of_expandRange _ _ subleaves hsubleaves
      · split at hsubleaves <;> simp [← Except.ok.inj hsubleaves]

/-- The group of a row is one that some header announces. -/
theorem exists_ofName_of_mem_inContext (rows : List Row) (group : LeafGroup) (row : Row)
    (h : (some group, row) ∈ inContext rows) :
    ∃ name, LeafGroup.ofName name = .ok (some group) := by
  obtain ⟨position, hposition, heq⟩ := List.mem_mapIdx.mp h
  have hcontext : leafContextFrom none (rows.take position) = some group := congrArg Prod.fst heq
  unfold leafContextFrom at hcontext
  cases hfound : (rows.take position).reverse.findSome? Row.announced? with
  | none => simp [hfound] at hcontext
  | some announced =>
    obtain rfl : announced = some group := by simpa [hfound] using hcontext
    obtain ⟨header, -, hheader⟩ := List.exists_of_findSome?_eq_some hfound
    exact exists_ofName_of_announced? header group hheader

/-- Every caption that waits is that of a header row. -/
def Context.HasCaption (rows : List Row) (context : Context) : Prop :=
  ∀ caption ∈ context.caption, ∃ row ∈ rows, row.register = none ∧ row.name = some caption

def MarksHeader (source : Source) (rows : List Row) (event : Event Entry) : Prop :=
  ∀ made, event = .entry made → made.register = none → IsHeaderMarker source rows made

theorem isHeaderMarker_of_mem_pendingMarker (source : Source) (rows : List Row) (group : LeafGroup)
    (context : Context) (h : context.HasCaption rows) :
    ∀ made ∈ pendingMarker source group context.caption, IsHeaderMarker source rows made := by
  intro made hmade
  obtain ⟨caption, hcaption, rfl⟩ := List.mem_map.mp hmade
  obtain ⟨row, hrow, hregister, hname⟩ := h caption (Option.mem_toList.mp hcaption)
  exact ⟨row, hrow, caption, group, hregister, hname, rfl⟩

/-- A step leaves no caption behind but that of its own row. -/
theorem hasCaption_of_rowStep (source : Source) (rows : List Row) (row : Row) (hrow : row ∈ rows)
    (context next : Context) (events : List (Event Entry)) (h : context.HasCaption rows)
    (hstep : RowStep source context row next events) : next.HasCaption rows := by
  cases hstep with
  | blank => exact h
  | header caption hregister hname =>
    intro waiting hwaiting
    obtain rfl := Option.some.inj hwaiting
    exact ⟨row, hrow, hregister, hname⟩
  | lost => exact h
  | field => simp [Context.HasCaption]

theorem marksHeader_of_rowStep (source : Source) (rows : List Row) (row : Row)
    (context next : Context) (events : List (Event Entry)) (h : context.HasCaption rows)
    (hstep : RowStep source context row next events) :
    ∀ event ∈ events, MarksHeader source rows event := by
  rintro event hevent made rfl hnone
  obtain ⟨-, group, geometry, value, -, -, hmarker | hfield⟩ := hstep.mem_of_entry_mem made hevent
  · exact isHeaderMarker_of_mem_pendingMarker source rows group context h made hmarker
  · obtain ⟨subleaf, -, rfl⟩ := List.mem_map.mp hfield
    cases hnone

theorem isHeaderMarker_of_mem_readAll (source : Source) (rows : List Row) (entry : Entry)
    (hentry : entry ∈ (readAll source rows).built.entries) (hregister : entry.register = none) :
    IsHeaderMarker source rows entry := by
  obtain ⟨event, hevent, hcase⟩ := List.mem_filterMap.mp hentry
  have hmade : event = .entry entry := by
    cases event <;> simp_all [Event.asCase?]
  refine forall_events_readRows (readRow source) (Context.HasCaption rows)
    (MarksHeader source rows) rows ?_ ⟨none, none⟩ (by simp [Context.HasCaption]) event hevent
    entry hmade hregister
  intro row hrow context next events hcontext hread
  have hstep := rowStep_of_readRow source context next row events hread
  exact ⟨hasCaption_of_rowStep source rows row hrow context next events hcontext hstep,
    marksHeader_of_rowStep source rows row context next events hcontext hstep⟩

def IsCaseOfField (source : Source) (rows : List Row) (row : Row) (entry : Entry) : Prop :=
  ∃ group subleaf, (some group, row) ∈ inContext rows ∧ HasCases (some group) row ∧
    IsFieldCase source group row subleaf entry

/-- The cases of a row are those of a field with cases in a leaf group. -/
theorem AreFieldCases.exists_isFieldCase {source : Source} {context : Option LeafGroup} {row : Row}
    {entries : List Entry} (h : AreFieldCases source context row entries) (entry : Entry)
    (hentry : entry ∈ entries) :
    ∃ group subleaf, context = some group ∧ HasCases (some group) row ∧
      IsFieldCase source group row subleaf entry := by
  cases context with
  | none =>
    obtain rfl : entries = [] := h
    cases hentry
  | some group =>
    simp only [AreFieldCases] at h
    split at h
    · rename_i hfield
      obtain ⟨subleaf, -, hcase⟩ := exists_of_forall₂ h entry hentry
      exact ⟨group, subleaf, rfl, ⟨by simp, hfield.1, hfield.2.1, hfield.2.2⟩, hcase⟩
    · rw [h] at hentry
      cases hentry

/-- What the rows account for with a register is the case of some field. -/
theorem Accounts.exists_isCaseOfField {source : Source} {rows : List Row} {build : Build Entry}
    (h : Accounts source (inContext rows) build) (entry : Entry) (hentry : entry ∈ build.entries)
    (hregister : entry.register ≠ none) : ∃ row, IsCaseOfField source rows row entry := by
  obtain ⟨blocks, hblocks, hfields⟩ := h.fields
  have hmem : entry ∈ build.entries.filter (·.register.isSome) :=
    List.mem_filter.mpr ⟨hentry, by simpa [Option.isSome_iff_ne_none] using hregister⟩
  rw [hfields] at hmem
  obtain ⟨block, hblock, hinside⟩ := List.mem_flatten.mp hmem
  obtain ⟨⟨context, row⟩, hlocated, hcases⟩ := exists_of_forall₂ hblocks block hblock
  obtain ⟨group, subleaf, hgroup, hfield, hcase⟩ := hcases.exists_isFieldCase entry hinside
  obtain rfl : context = some group := hgroup
  exact ⟨row, group, subleaf, hlocated, hfield, hcase⟩

/-- Every field with cases has one. -/
theorem Accounts.exists_mem_of_hasCases {source : Source} {rows : List Row} {build : Build Entry}
    (h : Accounts source (inContext rows) build) (context : Option LeafGroup) (row : Row)
    (hlocated : (context, row) ∈ inContext rows) (hcases : HasCases context row) :
    ∃ entry ∈ build.entries, IsCaseOfField source rows row entry := by
  obtain ⟨group, rfl⟩ := Option.ne_none_iff_exists'.mp hcases.group
  obtain ⟨name, hname⟩ := exists_ofName_of_mem_inContext rows group row hlocated
  obtain ⟨subleaf, others, hsubleaves⟩ :=
    List.exists_cons_of_ne_nil (LeafGroup.subleaves_ne_nil name group hname)
  obtain ⟨blocks, hblocks, hfields⟩ := h.fields
  obtain ⟨block, hblock, hblockCases⟩ := exists_of_forall₂ hblocks.flip (some group, row) hlocated
  have hfieldCases : AreFieldCases source (some group) row block := hblockCases
  simp only [AreFieldCases] at hfieldCases
  rw [if_pos ⟨hcases.register, hcases.fixed, hcases.value⟩, hsubleaves] at hfieldCases
  cases hfieldCases with
  | cons hcase hrest =>
    rename_i entry more
    have hmem : entry ∈ build.entries.filter (·.register.isSome) := by
      rw [hfields]
      exact List.mem_flatten.mpr ⟨entry :: more, hblock, List.mem_cons_self⟩
    exact ⟨entry, (List.mem_filter.mp hmem).1, group, subleaf, hlocated, hcases, hcase⟩

/-- The markers of header rows act as markers and the cases of fields as cases, unless the size cell
of a field holds the size of a marker. So the entries that act as markers are those without a
register exactly when no field with cases has that size. -/
theorem roles_of_read (columns : Columns) (version : String) (sheet : Sheet) (rows : List Row)
    (build : Build Entry) (hrows : rowsOf columns sheet = .ok rows)
    (hbuild : (read columns version sheet).attempt.outcome = .ok build) :
    let source : Source := ⟨sheet.path, SpecVersion.constant version⟩
    (∀ entry ∈ build.entries,
      (IsHeaderMarker source rows entry ∧ entry.ActsAsMarker) ∨
      ∃ row, IsCaseOfField source rows row entry ∧
        if readInt32 row.size = .ok markerSize then entry.ActsAsMarker else entry.ActsAsCase) ∧
    ((∀ entry ∈ build.entries, entry.isMarker = true ↔
        entry.register = none ∧ entry.msb = markerSize ∧ entry.lsb = markerSize) ↔
      ∀ context row, (context, row) ∈ inContext rows → HasCases context row →
        readInt32 row.size ≠ .ok markerSize) := by
  intro source
  obtain ⟨hfault, hbuilt⟩ := (Reading.outcome_attempt_eq_ok_iff _ _).mp hbuild
  simp only [read, hrows] at hfault hbuilt
  have haccounts : Accounts source (inContext rows) build :=
    hbuilt ▸ accounts_built source ⟨none, none⟩ rows hfault
  have horigin : ∀ entry ∈ build.entries,
      (entry.register = none ∧ IsHeaderMarker source rows entry) ∨
      ∃ row, IsCaseOfField source rows row entry := by
    intro entry hentry
    by_cases hregister : entry.register = none
    · rw [← hbuilt] at hentry
      exact .inl ⟨hregister, isHeaderMarker_of_mem_readAll source rows entry hentry hregister⟩
    · exact .inr (haccounts.exists_isCaseOfField entry hentry hregister)
  refine ⟨fun entry hentry => ?_, fun hall context row hlocated hcases hsize => ?_,
    fun hsizes entry hentry => ?_⟩
  · rcases horigin entry hentry with ⟨-, hmarker⟩ | ⟨row, hcase⟩
    · refine .inl ⟨hmarker, entry.actsAsMarker ?_⟩
      obtain ⟨header, -, caption, group, -, -, rfl⟩ := hmarker
      rfl
    · refine .inr ⟨row, hcase, ?_⟩
      obtain ⟨group, subleaf, -, -, hfield⟩ := hcase
      split
      · rename_i hsize
        exact entry.actsAsMarker (hfield.isMarker_iff.mpr hsize)
      · rename_i hsize
        exact entry.actsAsCase (Bool.eq_false_iff.mpr fun hmarker =>
          hsize (hfield.isMarker_iff.mp hmarker))
  · obtain ⟨entry, hentry, group, subleaf, -, -, hfield⟩ :=
      haccounts.exists_mem_of_hasCases context row hlocated hcases
    exact hfield.register_ne_none ((hall entry hentry).mp (hfield.isMarker_iff.mpr hsize)).1
  · rcases horigin entry hentry with ⟨-, header, -, caption, group, -, -, rfl⟩ | ⟨row, hcase⟩
    · exact ⟨fun _ => ⟨rfl, rfl, rfl⟩, fun _ => rfl⟩
    · obtain ⟨group, subleaf, hlocated, hcases, hfield⟩ := hcase
      constructor
      · intro hmarker
        exact absurd (hfield.isMarker_iff.mp hmarker) (hsizes _ row hlocated hcases)
      · intro hmarker
        exact absurd hmarker.1 hfield.register_ne_none

def sizedSheet (size : String) : Sheet where
  path := "cpuid.csv"
  columns := ["Field", "Reg.", "MSB", "LSB", "Field Size", "Type", "Detail"]
  rows := [
    ⟨["Leaf 0x1", "", "", "", "", "", ""], 2⟩,
    ⟨["SSE3", "ECX", "0", "0", size, "Fixed", "1"], 3⟩]

theorem roles_of_read_one_bit :
    ∃ rows build, rowsOf ⟨"Field", ["Type"], ["Detail"]⟩ (sizedSheet "1") = .ok rows ∧
      (read ⟨"Field", ["Type"], ["Detail"]⟩ "1.5" (sizedSheet "1")).attempt.outcome = .ok build ∧
      build.entries.map Entry.isMarker = [true, false] ∧
      (∀ entry ∈ build.entries, entry.isMarker = true ↔
        entry.register = none ∧ entry.msb = markerSize ∧ entry.lsb = markerSize) := by
  refine ⟨_, _, rfl, rfl, by decide +kernel, ?_⟩
  refine (roles_of_read ⟨"Field", ["Type"], ["Detail"]⟩ "1.5" (sizedSheet "1") _ _ rfl rfl).2.mpr ?_
  intro context row hlocated hcases
  have hsizes : ∀ located ∈ inContext [
      (⟨2, some "Leaf 0x1", none, none, none, none, none, none⟩ : Row),
      ⟨3, some "SSE3", some "ECX", some "0", some "0", some "1", some "Fixed", some "1"⟩],
      located.2.register ≠ none → readInt32 located.2.size ≠ .ok markerSize := by
    decide +kernel
  exact hsizes (context, row) hlocated hcases.register

/-- A field of size -1 is printed as a comment, and its register is lost. -/
theorem field_of_marker_size :
    ∃ build entry, (read ⟨"Field", ["Type"], ["Detail"]⟩ "1.5"
        (sizedSheet "-1")).attempt.outcome = .ok build ∧
      entry ∈ build.entries ∧ entry.isMarker = true ∧ entry.register = some .ecx ∧
      entry.line = "\n\t// SSE3" ∧ entry.fuseKey.caption = some "SSE3" := by
  refine ⟨_, ⟨"0x1", "0x0", some .ecx, 0, 0, -1, "SSE3", "1", "VER1_5"⟩, rfl, ?_, rfl, rfl, ?_, rfl⟩
  · decide +kernel
  · decide +kernel

end GuestCases.Cpuid
