import GuestCases.Proofs.MarkerRoles

/-!
Where the markers of a CPUID sheet stand. A header row and the rows below it, up to the next header
row, make up a passage. When rows of a passage have cases, it comes to one marker with the caption
of its header and then these cases, the first of which has the leaf and the sub-leaf of the marker.
Any other passage comes to nothing, and one whose header names a leaf badly always does.
-/

namespace GuestCases.Cpuid

def Row.caption? (row : Row) : Option String :=
  match row.register with
  | none => row.name
  | some _ => none

structure Passage where
  header : Option LeafGroup × Row
  caption : String
  below : List (Option LeafGroup × Row)

def Passage.rows (passage : Passage) : List (Option LeafGroup × Row) :=
  passage.header :: passage.below

structure IsDivision (rows above : List (Option LeafGroup × Row)) (passages : List Passage) :
    Prop where
  rows_eq : rows = above ++ passages.flatMap Passage.rows
  above : ∀ row ∈ above, row.2.caption? = none
  header : ∀ passage ∈ passages, passage.header.2.caption? = some passage.caption
  below : ∀ passage ∈ passages, ∀ row ∈ passage.below, row.2.caption? = none

def AreCasesOfRows (source : Source) (rows : List (Option LeafGroup × Row))
    (entries : List Entry) : Prop :=
  ∃ blocks, List.Forall₂ (fun row block => AreFieldCases source row.1 row.2 block) rows blocks ∧
    entries = blocks.flatten

/-- What a passage comes to: nothing when no row below its header has cases, else these cases behind
its marker. -/
inductive PassageGives (source : Source) (passage : Passage) : List Entry → Prop where
  | silent (hcases : AreCasesOfRows source passage.below []) : PassageGives source passage []
  | marked (first : Entry) (rest : List Entry)
    (hcases : AreCasesOfRows source passage.below (first :: rest))
    (hregisters : ∀ entry ∈ first :: rest, entry.register ≠ none)
    (hversion : first.specVersion = source.version)
    (hleaf : ∃ announced, LeafGroup.ofName passage.caption = .ok announced) :
    PassageGives source passage
      (.marker first.leaf first.subleaf passage.caption source.version :: first :: rest)

/-- Behind every marker stands at once a field of its leaf, sub-leaf and version. -/
def MarkersLead (entries : List Entry) : Prop :=
  ∀ before marker after, entries = before ++ marker :: after → marker.register = none →
    ∃ next rest, after = next :: rest ∧ next.register ≠ none ∧ next.leaf = marker.leaf ∧
      next.subleaf = marker.subleaf ∧ next.specVersion = marker.specVersion

def withMarker (source : Source) (caption : Option String) : List Entry → List Entry
  | [] => []
  | first :: rest =>
    caption.toList.map (Entry.marker first.leaf first.subleaf · source.version) ++ first :: rest

theorem withMarker_none (source : Source) (cases : List Entry) :
    withMarker source none cases = cases := by
  cases cases <;> rfl

theorem areCasesOfRows_nil (source : Source) : AreCasesOfRows source [] [] :=
  ⟨[], .nil, rfl⟩

theorem AreCasesOfRows.cons {source : Source} {context : Option LeafGroup} {row : Row}
    {rows : List (Option LeafGroup × Row)} {block entries : List Entry}
    (hrow : AreFieldCases source context row block) (h : AreCasesOfRows source rows entries) :
    AreCasesOfRows source ((context, row) :: rows) (block ++ entries) := by
  obtain ⟨blocks, hblocks, rfl⟩ := h
  exact ⟨block :: blocks, .cons hrow hblocks, rfl⟩

theorem AreCasesOfRows.exists_isFieldCase {source : Source}
    {rows : List (Option LeafGroup × Row)} {entries : List Entry}
    (h : AreCasesOfRows source rows entries) (entry : Entry) (hentry : entry ∈ entries) :
    ∃ group row subleaf, IsFieldCase source group row subleaf entry := by
  obtain ⟨blocks, hblocks, rfl⟩ := h
  obtain ⟨block, hblock, hinside⟩ := List.mem_flatten.mp hentry
  obtain ⟨⟨context, row⟩, -, hcases⟩ := exists_of_forall₂ hblocks block hblock
  obtain ⟨group, subleaf, -, -, hcase⟩ := hcases.exists_isFieldCase entry hinside
  exact ⟨group, row, subleaf, hcase⟩

/-- The rows from a context on come to the cases of the rows above the first header, behind the
marker that waits for them, and then to what the passages come to. Outside any leaf group there are
no such cases. -/
def DividesInto (source : Source) (context : Context) (rows : List Row) (entries : List Entry) :
    Prop :=
  ∃ above passages cases shares,
    IsDivision (inContextFrom context.group rows) above passages ∧
    AreCasesOfRows source above cases ∧ (context.group = none → cases = []) ∧
    List.Forall₂ (PassageGives source) passages shares ∧
    entries = withMarker source context.caption cases ++ shares.flatten

theorem IsDivision.cons_above {rows above : List (Option LeafGroup × Row)}
    {passages : List Passage} (h : IsDivision rows above passages)
    (row : Option LeafGroup × Row) (hrow : row.2.caption? = none) :
    IsDivision (row :: rows) (row :: above) passages where
  rows_eq := congrArg (row :: ·) h.rows_eq
  above := List.forall_mem_cons.mpr ⟨hrow, h.above⟩
  header := h.header
  below := h.below

theorem IsDivision.cons_header {rows above : List (Option LeafGroup × Row)}
    {passages : List Passage} (h : IsDivision rows above passages)
    (row : Option LeafGroup × Row) (caption : String) (hrow : row.2.caption? = some caption) :
    IsDivision (row :: rows) [] (⟨row, caption, above⟩ :: passages) where
  rows_eq := congrArg (row :: ·) h.rows_eq
  above := by simp
  header := List.forall_mem_cons.mpr ⟨hrow, h.header⟩
  below := List.forall_mem_cons.mpr ⟨h.above, h.below⟩

/-- A row that is no header and has no cases changes nothing. -/
theorem dividesInto_cons_of_silent (source : Source) (context : Context) (row : Row)
    (rest : List Row) (entries : List Entry) (hcaption : row.caption? = none)
    (hannounced : row.announced? = none) (hcases : AreFieldCases source context.group row [])
    (h : DividesInto source context rest entries) :
    DividesInto source context (row :: rest) entries := by
  obtain ⟨above, passages, cases, shares, hdivision, habove, hnone, hshares, rfl⟩ := h
  refine ⟨(context.group, row) :: above, passages, cases, shares, ?_, habove.cons hcases, hnone,
    hshares, rfl⟩
  rw [inContextFrom_cons, hannounced, Option.getD_none]
  exact hdivision.cons_above _ hcaption

/-- A header row begins a passage with the rows above the next one. -/
theorem dividesInto_cons_of_header (source : Source) (context : Context) (row : Row)
    (rest : List Row) (caption : String) (entries : List Entry) (hregister : row.register = none)
    (hname : row.name = some caption)
    (h : DividesInto source ⟨row.announced?.getD context.group, some caption⟩ rest entries) :
    DividesInto source context (row :: rest) entries := by
  obtain ⟨above, passages, cases, shares, hdivision, habove, hnone, hshares, rfl⟩ := h
  have hcaption : row.caption? = some caption := by
    simp [Row.caption?, hregister, hname]
  have hgives : PassageGives source ⟨(context.group, row), caption, above⟩
      (withMarker source (some caption) cases) := by
    cases cases with
    | nil => exact .silent habove
    | cons first others =>
      refine .marked first others habove ?_ ?_ ?_
      · intro entry hentry
        obtain ⟨group, field, subleaf, hcase⟩ := habove.exists_isFieldCase entry hentry
        exact hcase.register_ne_none
      · obtain ⟨group, field, subleaf, hcase⟩ :=
          habove.exists_isFieldCase first List.mem_cons_self
        exact hcase.specVersion
      · -- A malformed header leaves no group behind, so no row below it has cases.
        cases hof : LeafGroup.ofName caption with
        | ok announced => exact ⟨announced, rfl⟩
        | error fault =>
          have hmalformed : row.announced? = some none := by
            simp [Row.announced?, hregister, hname, hof]
          cases hnone (by simp [hmalformed])
  refine ⟨[], ⟨(context.group, row), caption, above⟩ :: passages, [],
    withMarker source (some caption) cases :: shares, ?_, areCasesOfRows_nil source, fun _ => rfl,
    .cons hgives hshares, rfl⟩
  rw [inContextFrom_cons]
  exact hdivision.cons_header _ caption hcaption

theorem withMarker_fieldEntries (source : Source) (group : LeafGroup) (row : Row)
    (geometry : Geometry) (value : String) (caption : Option String) (cases : List Entry)
    (hsubleaves : group.subleaves ≠ []) :
    withMarker source caption (fieldEntries source group row geometry value ++ cases) =
      pendingMarker source group caption ++ fieldEntries source group row geometry value ++
        cases := by
  obtain ⟨subleaf, others, hothers⟩ := List.exists_cons_of_ne_nil hsubleaves
  simp [fieldEntries, pendingMarker, withMarker, LeafGroup.firstSubleaf, hothers]

/-- The cases of a field stand behind the marker that waits, which waits no longer. -/
theorem dividesInto_cons_of_field (source : Source) (context : Context) (group : LeafGroup)
    (row : Row) (rest : List Row) (geometry : Geometry) (register value : String)
    (entries : List Entry) (hsubleaves : group.subleaves ≠ [])
    (hregister : row.register = some register) (hfixed : row.virtType = some fixedType)
    (hgroup : context.group = some group)
    (hgeometry : readGeometry source row register = .ok geometry)
    (hvalue : row.virtDetail = some value)
    (h : DividesInto source ⟨some group, none⟩ rest entries) :
    DividesInto source context (row :: rest)
      (pendingMarker source group context.caption ++
        fieldEntries source group row geometry value ++ entries) := by
  obtain ⟨above, passages, cases, shares, hdivision, habove, -, hshares, rfl⟩ := h
  have hcases : AreFieldCases source context.group row
      (fieldEntries source group row geometry value) := by
    have hfields := forall₂_fieldEntries source group row geometry register value hregister
      hgeometry hvalue
    simpa [AreFieldCases, hgroup, hregister, hfixed, hvalue] using hfields
  refine ⟨(context.group, row) :: above, passages,
    fieldEntries source group row geometry value ++ cases, shares, ?_, habove.cons hcases,
    by simp [hgroup], hshares, ?_⟩
  · have hannounced : row.announced? = none := by
      simp [Row.announced?, hregister]
    rw [inContextFrom_cons, hannounced, Option.getD_none, hgroup]
    exact hdivision.cons_above _ (by simp [Row.caption?, hregister])
  · rw [withMarker_none, withMarker_fieldEntries source group row geometry value _ cases hsubleaves]
    simp only [List.append_assoc]

def Context.HasSubleaves (context : Context) : Prop :=
  ∀ group ∈ context.group, group.subleaves ≠ []

theorem hasSubleaves_of_rowStep (source : Source) (context next : Context) (row : Row)
    (events : List (Event Entry)) (h : context.HasSubleaves)
    (hstep : RowStep source context row next events) : next.HasSubleaves := by
  cases hstep with
  | blank => exact h
  | header caption =>
    intro group hgroup
    cases hannounced : row.announced? with
    | none => exact h group (by simpa [hannounced] using hgroup)
    | some announced =>
      obtain rfl : announced = some group := by simpa [hannounced] using hgroup
      obtain ⟨name, hname⟩ := exists_ofName_of_announced? row group hannounced
      exact group.subleaves_ne_nil name hname
  | lost => exact h
  | field _ _ group _ _ _ hgroup => exact fun other hother => h other (hgroup.trans hother)

theorem dividesInto_cons_of_rowStep (source : Source) (context next : Context) (row : Row)
    (rest : List Row) (events : List (Event Entry)) (entries : List Entry)
    (hcontext : context.HasSubleaves) (hstep : RowStep source context row next events)
    (h : DividesInto source next rest entries) :
    DividesInto source context (row :: rest) (events.filterMap Event.asCase? ++ entries) := by
  cases hstep with
  | blank hregister hname =>
    refine dividesInto_cons_of_silent source context row rest entries
      (by simp [Row.caption?, hregister, hname]) (by simp [Row.announced?, hregister, hname]) ?_ h
    exact areFieldCases_nil source _ row fun hfield => hfield.1 hregister
  | header caption hregister hname =>
    have hevents : (headerEvents source row caption).filterMap Event.asCase? = [] := by
      cases hof : LeafGroup.ofName caption <;> simp [headerEvents, hof, Source.skip, Source.warn,
        Event.asCase?, List.filterMap_cons]
    rw [hevents]
    exact dividesInto_cons_of_header source context row rest caption entries hregister hname h
  | lost register reason hregister hreason =>
    have hevents : (lossRemarks source row reason ++ [source.skip row reason]).filterMap
        Event.asCase? = [] := by
      cases reason <;> rfl
    rw [hevents]
    exact dividesInto_cons_of_silent source context row rest entries
      (by simp [Row.caption?, hregister]) (by simp [Row.announced?, hregister])
      (areFieldCases_nil_of_lost source _ row reason hreason) h
  | field register value group geometry hregister hfixed hgroup hgeometry hvalue =>
    have hentries : ∀ made : List Entry, (made.map Event.entry).filterMap Event.asCase? = made := by
      intro made
      rw [List.filterMap_map]
      exact List.filterMap_some
    rw [hentries]
    exact dividesInto_cons_of_field source context group row rest geometry register value entries
      (hcontext group hgroup) hregister hfixed hgroup hgeometry hvalue h

/-- Reading rows in order gives the cases above the first header and then what each passage comes
to. -/
theorem dividesInto_built (source : Source) (context : Context) (rows : List Row)
    (hcontext : context.HasSubleaves)
    (h : (readRows (readRow source) context rows).fault? = none) :
    DividesInto source context rows (readRows (readRow source) context rows).built.entries := by
  -- The caption that waits passes from row to row, so the context varies.
  induction rows generalizing context with
  | nil => exact ⟨[], [], [], [], ⟨rfl, by simp, by simp, by simp⟩, areCasesOfRows_nil source,
      fun _ => rfl, .nil, rfl⟩
  | cons row rest ih =>
    obtain ⟨next, events, hread, hrest, hevents⟩ := exists_of_readRows_cons _ _ _ _ h
    have hstep := rowStep_of_readRow source context next row events hread
    have hnext := hasSubleaves_of_rowStep source context next row events hcontext hstep
    rw [Reading.built, hevents, List.filterMap_append]
    exact dividesInto_cons_of_rowStep source context next row rest events _ hcontext hstep
      (ih next hnext hrest)

theorem PassageGives.markersLead {source : Source} {passage : Passage} {entries : List Entry}
    (h : PassageGives source passage entries) : MarkersLead entries := by
  intro before marker after heq hmarker
  cases h with
  | silent => simp at heq
  | marked first rest hcases hregisters hversion hleaf =>
    cases before with
    | nil =>
      obtain ⟨rfl, rfl⟩ := List.cons.inj heq
      exact ⟨first, rest, rfl, hregisters first List.mem_cons_self, rfl, rfl, hversion⟩
    | cons head others =>
      have hmem : marker ∈ first :: rest := by
        rw [(List.cons.inj heq).2]
        exact List.mem_append_right others List.mem_cons_self
      exact absurd hmarker (hregisters marker hmem)

theorem markersLead_append (first second : List Entry) (hfirst : MarkersLead first)
    (hsecond : MarkersLead second) : MarkersLead (first ++ second) := by
  intro before marker after heq hmarker
  rcases List.append_eq_append_iff.mp heq with ⟨gap, rfl, hgap⟩ | ⟨gap, rfl, hgap⟩
  · exact hsecond gap marker after hgap hmarker
  · cases gap with
    | nil => exact hsecond [] marker after hgap.symm hmarker
    | cons head others =>
      obtain ⟨rfl, rfl⟩ := List.cons.inj hgap
      obtain ⟨next, rest, rfl, hnext⟩ := hfirst before marker others rfl hmarker
      exact ⟨next, rest ++ second, rfl, hnext⟩

theorem markersLead_flatten (source : Source) (passages : List Passage)
    (shares : List (List Entry)) (h : List.Forall₂ (PassageGives source) passages shares) :
    MarkersLead shares.flatten := by
  induction h with
  | nil => simp [MarkersLead]
  | cons hshare _ ih => exact markersLead_append _ _ hshare.markersLead ih

/-- The caption of a marker is that of a header that names a leaf well or none. -/
theorem PassageGives.exists_ofName {source : Source} {passage : Passage} {entries : List Entry}
    (h : PassageGives source passage entries) (marker : Entry) (hmem : marker ∈ entries)
    (hmarker : marker.register = none) :
    ∃ announced, LeafGroup.ofName marker.fieldName = .ok announced := by
  cases h with
  | silent => cases hmem
  | marked first rest hcases hregisters hversion hleaf =>
    rcases List.mem_cons.mp hmem with rfl | hfield
    · exact hleaf
    · exact absurd hmarker (hregisters marker hfield)

/-- A sheet that can be read comes to what its passages come to, and the rows above the first header
to nothing. So behind every marker stands at once a field of its leaf, sub-leaf and version, and no
marker has the caption of a malformed header. -/
theorem passages_of_read (columns : Columns) (version : String) (sheet : Sheet) (rows : List Row)
    (build : Build Entry) (hrows : rowsOf columns sheet = .ok rows)
    (hbuild : (read columns version sheet).attempt.outcome = .ok build) :
    let source : Source := ⟨sheet.path, SpecVersion.constant version⟩
    (∃ above passages shares, IsDivision (inContext rows) above passages ∧
      AreCasesOfRows source above [] ∧ List.Forall₂ (PassageGives source) passages shares ∧
      build.entries = shares.flatten) ∧
    MarkersLead build.entries ∧
    ∀ row ∈ rows, ∀ caption fault, row.caption? = some caption →
      LeafGroup.ofName caption = .error fault →
      ∀ marker ∈ build.entries, marker.register = none → marker.fieldName ≠ caption := by
  intro source
  obtain ⟨hfault, hbuilt⟩ := (Reading.outcome_attempt_eq_ok_iff _ _).mp hbuild
  simp only [read, hrows] at hfault hbuilt
  obtain ⟨above, passages, cases, shares, hdivision, habove, hnone, hshares, hentries⟩ :=
    dividesInto_built source ⟨none, none⟩ rows (by simp [Context.HasSubleaves]) hfault
  obtain rfl := hnone rfl
  have hflatten : build.entries = shares.flatten := by
    rw [← hbuilt]
    exact hentries
  refine ⟨⟨above, passages, shares, hdivision, habove, hshares, hflatten⟩, ?_, ?_⟩
  · rw [hflatten]
    exact markersLead_flatten source passages shares hshares
  · rintro row - caption fault - hmalformed marker hmarker hregister rfl
    rw [hflatten] at hmarker
    obtain ⟨share, hshare, hmem⟩ := List.mem_flatten.mp hmarker
    obtain ⟨passage, -, hgives⟩ := exists_of_forall₂ hshares share hshare
    obtain ⟨announced, hannounced⟩ := hgives.exists_ofName marker hmem hregister
    rw [hmalformed] at hannounced
    cases hannounced

theorem passages_of_read_interrupted :
    ∃ rows build, rowsOf ⟨"Field", ["Type"], ["Detail"]⟩ interruptedSheet = .ok rows ∧
      (read ⟨"Field", ["Type"], ["Detail"]⟩ "1.5" interruptedSheet).attempt.outcome = .ok build ∧
      (build.entries.filter (·.register.isNone)).map (·.fieldName) =
        ["Leaf 0x4, Sub-Leaves 0x0-0x1", "Remarks"] ∧
      MarkersLead build.entries :=
  ⟨_, _, rfl, rfl, by decide +kernel,
    (passages_of_read ⟨"Field", ["Type"], ["Detail"]⟩ "1.5" interruptedSheet _ _ rfl rfl).2.1⟩

end GuestCases.Cpuid
