import GuestCases.Proofs.AccessAccounts
import GuestCases.Proofs.CollectedEntries
import GuestCases.Proofs.DescriptionForms

/-!
Hooks in the cases of all sources. A case depends on a hook only when the header that declares the
hooks has it. A direction whose condition stands for any other hook gives no case and one skip,
whatever the other direction of its row says, and neither fusing nor sorting brings the hook back.
-/

namespace GuestCases

namespace Msr

def Row.describe (row : Row) (direction : Direction) (cell : Option String) : Row :=
  match direction with
  | .read => { row with read := cell }
  | .write => { row with write := cell }

def contingentMarks : List String := ["Inject_GP(", "Inject_GP_or_VE"]

/-- The description traps on a condition that stands for a hook which is not declared. -/
structure NamesUndeclared (resolver : Resolver) (description hook : String) : Prop where
  begins : ∃ mark ∈ contingentMarks,
    Text.beginsWith mark.toList (Text.trim description).toList = true
  stands : StandsFor resolver description hook
  undeclared : resolver.hooks.contains hook = false

/-- What the row comes to has nothing but one skip for each direction that names an undeclared
hook, and what the other direction comes to does not depend on that description. -/
def DropsUndeclared (source : Source) (row : Row) (share : Build Entry) : Prop :=
  ∃ (geometry : Geometry) (shares : Direction → Build Entry), row.HasGeometry geometry ∧
    share = .concat (Direction.both.map shares) ∧
    (∀ direction, DirectionGives source row geometry direction (shares direction)) ∧
    ∀ direction hook,
      NamesUndeclared source.resolver (row.description direction) hook →
        shares direction = ⟨[], [⟨source.path, row.line,
          .unresolved direction (.unknownHook (Text.trim (row.description direction)) hook)⟩]⟩ ∧
        ∀ other, other ≠ direction → ∀ cell,
          DirectionGives source (row.describe direction cell) geometry other (shares other)

/-- The sheet of the source can be read, each of its rows comes to its share, and rows on registers
drop what names undeclared hooks. -/
def SourceGives (files : Files.Tree) (resolver : Resolver) (source : Settings.MsrSource)
    (shares : List (Build Entry)) : Prop :=
  ∃ sheet rows, Sheet.read files source.csvPath source.bias = .ok sheet ∧
    rowsOf ⟨source.read, source.write⟩ sheet = .ok rows ∧
    List.Forall₂
      (fun row share =>
        let origin : Source := ⟨sheet.path, SpecVersion.constant source.version, resolver⟩
        RowGives origin row share ∧ (row.IsOrdinary → DropsUndeclared origin row share))
      rows shares

theorem formOf?_of_mem_contingentMarks (text mark : String) (hmark : mark ∈ contingentMarks)
    (hbegins : Text.beginsWith mark.toList text.toList = true) :
    ∃ trap, formOf? text = some (.contingent trap) := by
  have hform : ∀ mark ∈ contingentMarks, ∃ trap, (mark, Form.contingent trap) ∈ forms := by
    intro mark hmark
    rcases List.mem_cons.mp hmark with rfl | hmark
    · exact ⟨.gp, by decide⟩
    · obtain rfl := List.mem_singleton.mp hmark
      exact ⟨.ve, by decide⟩
  obtain ⟨trap, hform⟩ := hform mark hmark
  exact ⟨trap, (formOf?_eq_some_iff text _).mpr ⟨mark, hform, hbegins⟩⟩

theorem classify_of_namesUndeclared (resolver : Resolver) (description hook : String)
    (h : NamesUndeclared resolver description hook) :
    resolver.classify description = .error (.unknownHook (Text.trim description) hook) := by
  obtain ⟨⟨mark, hmark, hbegins⟩, hstands, hundeclared⟩ := h
  obtain ⟨trap, hform⟩ := formOf?_of_mem_contingentMarks _ mark hmark hbegins
  have hnot : ¬resolver.hooks.contains hook = true := by
    rw [hundeclared]
    exact Bool.false_ne_true
  rw [classify_of_contingent resolver description trap hform,
    contingent_of_standsFor resolver description hook trap hstands, if_neg hnot]

theorem description_describe_of_ne (row : Row) (direction other : Direction)
    (cell : Option String) (h : other ≠ direction) :
    (row.describe direction cell).description other = row.description other := by
  cases direction with
  | read =>
    cases other with
    | read => exact absurd rfl h
    | write => rfl
  | write =>
    cases other with
    | read => rfl
    | write => exact absurd rfl h

/-- What a direction comes to rests on the line, the name and its own description. -/
theorem directionGives_describe_of_ne (source : Source) (row : Row) (geometry : Geometry)
    (direction other : Direction) (cell : Option String) (share : Build Entry)
    (hother : other ≠ direction) (h : DirectionGives source row geometry other share) :
    DirectionGives source (row.describe direction cell) geometry other share := by
  have hdescription := description_describe_of_ne row direction other cell hother
  have hline : (row.describe direction cell).line = row.line := by
    cases direction <;> rfl
  have hname : (row.describe direction cell).name = row.name := by
    cases direction <;> rfl
  cases h with
  | entry made hmade =>
    obtain ⟨hcase, hfirst, hsize, houtcome, haccess, hversion⟩ := hmade
    exact .entry made ⟨hname ▸ hcase, hfirst, hsize, hdescription ▸ houtcome, haccess, hversion⟩
  | skip why hwhy =>
    rw [← hline]
    exact .skip why (hdescription ▸ hwhy)

theorem eq_of_namesUndeclared (source : Source) (row : Row) (geometry : Geometry)
    (direction : Direction) (share : Build Entry) (hook : String)
    (h : DirectionGives source row geometry direction share)
    (hnames : NamesUndeclared source.resolver (row.description direction) hook) :
    share = ⟨[], [⟨source.path, row.line,
      .unresolved direction (.unknownHook (Text.trim (row.description direction)) hook)⟩]⟩ := by
  have hclassify := classify_of_namesUndeclared source.resolver _ hook hnames
  cases h with
  | entry made hmade => cases hclassify.symm.trans hmade.outcome
  | skip why hwhy =>
    cases hclassify.symm.trans hwhy
    rfl

theorem dropsUndeclared_of_rowGives (source : Source) (row : Row) (share : Build Entry)
    (h : RowGives source row share) (hrow : row.IsOrdinary) :
    DropsUndeclared source row share := by
  cases h with
  | special reason hreason => exact absurd hreason (hrow reason)
  | ordinary geometry shares _ hgeometry hshares =>
    refine ⟨geometry, shares, hgeometry, rfl, hshares, ?_⟩
    intro direction hook hnames
    refine ⟨eq_of_namesUndeclared source row geometry direction _ hook (hshares direction) hnames,
      ?_⟩
    intro other hother cell
    exact directionGives_describe_of_ne source row geometry direction other cell _ hother
      (hshares other)

/-- The shares of the rows of a source, when the source can be read. -/
theorem exists_sourceGives (files : Files.Tree) (resolver : Resolver)
    (source : Settings.MsrSource) (build : Build Entry)
    (h : (sheetSource resolver source).Gives files build) :
    ∃ shares, SourceGives files resolver source shares ∧ build = .concat shares := by
  obtain ⟨sheet, hsheet, hread⟩ := h
  obtain ⟨hfault, hbuilt⟩ := (Reading.outcome_attempt_eq_ok_iff _ _).mp hread
  cases hrows : rowsOf ⟨source.read, source.write⟩ sheet with
  | error fault => simp [sheetSource, read, hrows] at hfault
  | ok rows =>
    simp only [sheetSource, read, hrows] at hfault hbuilt
    obtain ⟨shares, hshares, hbuild⟩ := (rowsGive_iff _ rows build).mpr ⟨hfault, hbuilt⟩
    refine ⟨shares, ⟨sheet, rows, hsheet, hrows, ?_⟩, hbuild⟩
    refine hshares.imp fun row share hshare => ⟨hshare, ?_⟩
    exact dropsUndeclared_of_rowGives _ row share hshare

theorem exists_forall₂_sourceGives (files : Files.Tree) (resolver : Resolver)
    (sources : List Settings.MsrSource) (builds : List (Build Entry))
    (h : List.Forall₂ (SheetSource.Gives files) (sources.map (sheetSource resolver)) builds) :
    ∃ shares, List.Forall₂ (SourceGives files resolver) sources shares ∧
      builds = shares.map Build.concat := by
  rw [List.forall₂_map_left_iff] at h
  induction h with
  | nil => exact ⟨[], .nil, rfl⟩
  | cons hbuild _ ih =>
    obtain ⟨share, hshare, rfl⟩ := exists_sourceGives files resolver _ _ hbuild
    obtain ⟨shares, hshares, rfl⟩ := ih
    exact ⟨share :: shares, .cons hshare hshares, rfl⟩

theorem outcome_eq_of_extends (original entry : Entry) (h : mergeable.Extends original entry) :
    entry.outcome = original.outcome :=
  (congrArg Entry.outcome h.bare_eq : (mergeable.bare entry).outcome = _)

theorem contains_of_rowGives (source : Source) (row : Row) (share : Build Entry)
    (h : RowGives source row share) (entry : Entry) (hentry : entry ∈ share.entries)
    (trap : Trap) (hook : String) (houtcome : entry.outcome = .trapsIf trap hook) :
    source.resolver.hooks.contains hook = true := by
  obtain ⟨geometry, direction, -, hcase⟩ := h.exists_isCase entry hentry
  exact contains_of_classify _ _ hook trap (houtcome ▸ hcase.outcome)

/-- What the sources come to is what their rows come to. -/
theorem exists_rowGives_of_mem (files : Files.Tree) (resolver : Resolver)
    (sources : List Settings.MsrSource) (shares : List (List (Build Entry)))
    (h : List.Forall₂ (SourceGives files resolver) sources shares) (entry : Entry)
    (hentry : entry ∈ (shares.map fun rows => (Build.concat rows).entries).flatten) :
    ∃ path version row share, RowGives ⟨path, version, resolver⟩ row share ∧
      entry ∈ share.entries := by
  obtain ⟨entries, hentries, hentry⟩ := List.mem_flatten.mp hentry
  obtain ⟨rows, hrows, rfl⟩ := List.mem_map.mp hentries
  obtain ⟨share, hshare, hentry⟩ := List.mem_flatMap.mp hentry
  obtain ⟨source, -, sheet, rowsRead, -, -, hgives⟩ := exists_of_forall₂ h rows hrows
  obtain ⟨row, -, hrow, -⟩ := exists_of_forall₂ hgives share hshare
  exact ⟨_, _, row, share, hrow, hentry⟩

/-- Every hook in what the sources come to is declared. -/
theorem contains_of_sourceGives (files : Files.Tree) (resolver : Resolver)
    (sources : List Settings.MsrSource) (shares : List (List (Build Entry)))
    (h : List.Forall₂ (SourceGives files resolver) sources shares) (entry : Entry)
    (hentry : entry ∈ (shares.map fun rows => (Build.concat rows).entries).flatten)
    (trap : Trap) (hook : String) (houtcome : entry.outcome = .trapsIf trap hook) :
    resolver.hooks.contains hook = true := by
  obtain ⟨path, version, row, share, hrow, hmem⟩ :=
    exists_rowGives_of_mem files resolver sources shares h entry hentry
  exact contains_of_rowGives _ row share hrow entry hmem trap hook houtcome

/-- The sources come to the assembled entries of their rows and the skips of each row in turn. -/
theorem exists_shares_of_collect (files : Files.Tree) (resolver : Resolver)
    (sources : List Settings.MsrSource) (build : Build Entry)
    (h : (collect family files (sources.map (sheetSource resolver))).outcome = .ok build) :
    ∃ shares : List (List (Build Entry)),
      List.Forall₂ (SourceGives files resolver) sources shares ∧
      build.entries = family.assemble (shares.map fun rows => (Build.concat rows).entries) ∧
      build.skipped = (Build.concat shares.flatten).skipped := by
  obtain ⟨builds, hbuilds, rfl⟩ := (outcome_collect_eq_ok_iff family files _ build).mp h
  obtain ⟨shares, hshares, rfl⟩ := exists_forall₂_sourceGives files resolver sources builds hbuilds
  refine ⟨shares, hshares, ?_, ?_⟩
  · rw [List.map_map]
    rfl
  · calc (shares.map Build.concat).flatMap Build.skipped
        = shares.flatMap fun rows => rows.flatMap Build.skipped := List.flatMap_map ..
      _ = (shares.flatMap id).flatMap Build.skipped := List.flatMap_assoc.symm
      _ = shares.flatten.flatMap Build.skipped := by rw [List.flatMap_id]

end Msr

theorem outcome_collectMsr_eq_ok_iff (settings : Settings) (files : Files.Tree)
    (build : Build Msr.Entry) :
    (collectMsr settings files).outcome = .ok build ↔
      ∃ msr, (Msr.collectSection settings files).outcome = .ok (msr, build) := by
  unfold collectMsr
  rw [Attempt.outcome_bind_eq_ok_iff]
  constructor
  · rintro ⟨⟨msr, made⟩, hmade, hbuild⟩
    exact ⟨msr, Except.ok.inj hbuild ▸ hmade⟩
  · rintro ⟨msr, hmade⟩
    exact ⟨(msr, build), hmade, rfl⟩

/-- When the MSR cases can be collected, the header depends on declared hooks alone. Its entries
are assembled from what the rows of the sources come to, and in every row on registers a direction
that names an undeclared hook comes to one skip and no entry, and leaves the other one as it is. -/
theorem collectMsr_declares_hooks (settings : Settings) (files : Files.Tree)
    (build : Build Msr.Entry) (h : (collectMsr settings files).outcome = .ok build) :
    ∃ msr text conditions, settings.msr = .ok msr ∧
      files.readText msr.hookPath = .ok text ∧
      Msr.LoadsConditions files msr.conditionPath conditions ∧
      (generate .msr settings files).outcome =
        .ok (.ofBuild Msr.family msr.headerPath build) ∧
      (∀ entry ∈ build.entries, ∀ trap hook, entry.outcome = .trapsIf trap hook →
        (Msr.Hooks.ofSource text).contains hook = true) ∧
      ∃ shares : List (List (Build Msr.Entry)),
        List.Forall₂ (Msr.SourceGives files ⟨conditions, .ofSource text⟩) msr.sources shares ∧
        build.entries = Msr.family.assemble (shares.map fun rows => (Build.concat rows).entries) ∧
        build.skipped = (Build.concat shares.flatten).skipped := by
  obtain ⟨msr, hsection⟩ := (outcome_collectMsr_eq_ok_iff settings files build).mp h
  obtain ⟨hmsr, resolver, hresolver, hcollect⟩ :=
    (Msr.outcome_collectSection_eq_ok_iff settings files msr build).mp hsection
  obtain ⟨text, conditions, htext, hconditions, rfl⟩ :=
    (Msr.outcome_loadResolver_eq_ok_iff files msr resolver).mp hresolver
  obtain ⟨shares, hshares, hentries, hskipped⟩ :=
    Msr.exists_shares_of_collect files _ msr.sources build hcollect
  have hgenerate : (generate .msr settings files).outcome =
      .ok (.ofBuild Msr.family msr.headerPath build) :=
    (Attempt.outcome_bind_eq_ok_iff _ _ _).mpr ⟨(msr, build), hsection, rfl⟩
  refine ⟨msr, text, conditions, hmsr, htext, hconditions, hgenerate, ?_, shares, hshares,
    hentries, hskipped⟩
  intro entry hentry trap hook houtcome
  rw [hentries] at hentry
  obtain ⟨original, horiginal, hextends⟩ :=
    Family.exists_extends_of_mem_assemble Msr.mergeable _ entry hentry
  rw [Msr.outcome_eq_of_extends original entry hextends] at houtcome
  exact Msr.contains_of_sourceGives files _ msr.sources shares hshares original horiginal trap hook
    houtcome

/-- A tree with one declared hook and two sheets that each name it and another one. -/
def oneHook : Files.Tree :=
  let columns := "MSR Architectural Name,First (H),Last (H),Size (H),Read,Write\n"
  let file (text : String) : Files.Node := .file text.toUTF8
  Files.Tree.empty
    |>.put "hooks.h" (file "static void pre_known(struct test_msr *c)\n")
    |>.put "conditions.json" (file "\x7b\"KNOWN\": \"pre_known\", \"LOST\": \"pre_lost\"\x7d")
    |>.put "old.csv" (file (columns ++ "TSC,10,,,Inject_GP(KNOWN),Inject_GP_or_VE(LOST)\n"))
    |>.put "new.csv" (file (columns ++ "TSC,10,,,inject_gp(pre_known),Inject_GP(~KNOWN)\n"))

def oneHookSettings : Settings where
  path := "config.json"
  directory := ""
  sections := [
    ("msr", .object [("header_path", .text "cases.h"), ("precondition_header", .text "hooks.h"),
      ("prepath", .text "conditions.json"),
      ("sources", .array [
        .object [("csv_path", .text "old.csv"), ("rdname", .text "Read"),
          ("wrname", .text "Write"), ("version", .text "1.0")],
        .object [("csv_path", .text "new.csv"), ("rdname", .text "Read"),
          ("wrname", .text "Write"), ("version", .text "1.5")]])])]

theorem collectMsr_declares_hooks_one_hook :
    ∃ build, (collectMsr oneHookSettings oneHook).outcome = .ok build ∧
      build.skipped = [
        ⟨"old.csv", 2, .unresolved .write (.unknownHook "Inject_GP_or_VE(LOST)" "pre_lost")⟩,
        ⟨"new.csv", 2, .unresolved .write (.unknownHook "Inject_GP(~KNOWN)" "~KNOWN")⟩] ∧
      ∃ msr text conditions, oneHookSettings.msr = .ok msr ∧
        oneHook.readText msr.hookPath = .ok text ∧
        (∀ entry ∈ build.entries, ∀ trap hook, entry.outcome = .trapsIf trap hook →
          (Msr.Hooks.ofSource text).contains hook = true) ∧
        ∃ shares, List.Forall₂ (Msr.SourceGives oneHook ⟨conditions, .ofSource text⟩)
          msr.sources shares := by
  have hskipped : (collectMsr oneHookSettings oneHook).outcome.map Build.skipped = .ok [
      ⟨"old.csv", 2, .unresolved .write (.unknownHook "Inject_GP_or_VE(LOST)" "pre_lost")⟩,
      ⟨"new.csv", 2, .unresolved .write (.unknownHook "Inject_GP(~KNOWN)" "~KNOWN")⟩] := by
    decide +kernel
  cases hbuild : (collectMsr oneHookSettings oneHook).outcome with
  | error fault =>
    rw [hbuild] at hskipped
    cases hskipped
  | ok build =>
    rw [hbuild] at hskipped
    obtain ⟨msr, text, conditions, hmsr, htext, -, -, hdeclared, shares, hshares, -⟩ :=
      collectMsr_declares_hooks oneHookSettings oneHook build hbuild
    exact ⟨build, rfl, Except.ok.inj hskipped, msr, text, conditions, hmsr, htext, hdeclared,
      shares, hshares⟩

end GuestCases
