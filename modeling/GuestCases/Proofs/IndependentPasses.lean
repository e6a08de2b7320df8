import GuestCases.Proofs.CollectedEntries
import GuestCases.Proofs.Waypoints
import GuestCases.Proofs.WrittenHeaders

/-!
Passes that do not influence each other. A pass looks at the files only along the paths of its
inputs and, when it writes, along the path of its header. When no requested kind puts its header
where another pass looks, every pass gives what it gives on the files that the run started from,
and a second run finds nothing to change.
-/

namespace GuestCases

def Settings.inputPaths (settings : Settings) : Kind → List String
  | .cpuid =>
    match settings.cpuid with
    | .ok cpuid => cpuid.sources.map (·.csvPath)
    | .error _ => []
  | .msr =>
    match settings.msr with
    | .ok msr => msr.hookPath :: msr.conditionPath.toList ++ msr.sources.map (·.csvPath)
    | .error _ => []

def Settings.headerPath? (settings : Settings) : Kind → Option String
  | .cpuid => settings.cpuid.toOption.map (·.headerPath)
  | .msr => settings.msr.toOption.map (·.headerPath)

/-- No input of the kinds, and no header of another one, is at the place of a header or is reached
through it. Paths are compared by the places they lead to, however these are spelled. -/
structure Independent (settings : Settings) (kinds : List Kind) : Prop where
  inputs : ∀ kind ∈ kinds, ∀ path ∈ settings.headerPath? kind, ∀ reader ∈ kinds,
    ∀ input ∈ settings.inputPaths reader, ¬Files.PassesThrough input (Files.placeOf path)
  headers : ∀ kind ∈ kinds, ∀ path ∈ settings.headerPath? kind, ∀ other ∈ kinds, other ≠ kind →
    ∀ otherPath ∈ settings.headerPath? other,
      ¬Files.PassesThrough otherPath (Files.placeOf path)

/-- The result of a pass that is made on the files alone: what is generated, unless it is to be
written and its path refuses that. -/
def resultAlone (settings : Settings) (write : Bool) (files : Files.Tree) (kind : Kind) :
    Except PassFault Header :=
  match (generate kind settings files).outcome with
  | .error fault => .error fault
  | .ok header =>
    if write then
      match files.write header.path header.text with
      | .error fault => .error (.write ⟨header.path, fault⟩)
      | .ok _ => .ok header
    else .ok header

section Reads

variable {ε κ : Type}

theorem readSource_congr (family : Family ε κ) (files later : Files.Tree)
    (source : SheetSource ε) (h : later.read source.path = files.read source.path) :
    readSource family later source = readSource family files source := by
  have hsheet : Sheet.read later source.path source.offset =
      Sheet.read files source.path source.offset := by
    rw [Sheet.read, Sheet.read, h]
  rw [readSource, readSource, hsheet]

theorem readSources_congr (family : Family ε κ) (files later : Files.Tree)
    (sources : List (SheetSource ε))
    (h : ∀ source ∈ sources, later.read source.path = files.read source.path) :
    readSources family later sources = readSources family files sources := by
  induction sources with
  | nil => rfl
  | cons source rest ih =>
    obtain ⟨hsource, hrest⟩ := List.forall_mem_cons.mp h
    rw [readSources, readSources, readSource_congr family files later source hsource, ih hrest]

theorem collect_congr {α : Type} [DecidableEq κ] [Hashable κ] (family : Family ε κ)
    (files later : Files.Tree) (sheetSource : α → SheetSource ε) (sources : List α)
    (h : ∀ source ∈ sources,
      later.read (sheetSource source).path = files.read (sheetSource source).path) :
    collect family later (sources.map sheetSource) =
      collect family files (sources.map sheetSource) := by
  have hread : ∀ source ∈ sources.map sheetSource,
      later.read source.path = files.read source.path := by
    simpa using h
  rw [collect, collect, readSources_congr family files later _ hread]

end Reads

theorem Msr.loadResolver_congr (files later : Files.Tree) (msr : Settings.MsrSection)
    (h : ∀ path ∈ msr.hookPath :: msr.conditionPath.toList, later.read path = files.read path) :
    Msr.loadResolver later msr = Msr.loadResolver files msr := by
  obtain ⟨hhooks, hconditions⟩ := List.forall_mem_cons.mp h
  have hload : Msr.Hooks.load later msr.hookPath = Msr.Hooks.load files msr.hookPath := by
    rw [Hooks.load, Hooks.load, Files.Tree.readText_congr files later _ hhooks]
  unfold loadResolver Resolver.load
  rw [hload]
  cases hpath : msr.conditionPath with
  | none => rfl
  | some path =>
    have hmap : loadConditions later path = loadConditions files path := by
      rw [loadConditions, loadConditions,
        Files.Tree.readText_congr files later path (hconditions path (by simp [hpath]))]
    simp only [hmap]

theorem Cpuid.collectSection_congr (settings : Settings) (files later : Files.Tree)
    (h : ∀ path ∈ settings.inputPaths .cpuid, later.read path = files.read path) :
    Cpuid.collectSection settings later = Cpuid.collectSection settings files := by
  unfold Cpuid.collectSection
  apply Attempt.bind_congr
  intro cpuid hcpuid
  rw [Attempt.outcome_mapFault_eq_ok_iff, Attempt.outcome_ofExcept] at hcpuid
  have hinputs : settings.inputPaths .cpuid = cpuid.sources.map (·.csvPath) := by
    simp only [Settings.inputPaths, hcpuid]
  rw [hinputs, List.forall_mem_map] at h
  rw [collect_congr family files later sheetSource cpuid.sources h]

theorem Msr.collectSection_congr (settings : Settings) (files later : Files.Tree)
    (h : ∀ path ∈ settings.inputPaths .msr, later.read path = files.read path) :
    Msr.collectSection settings later = Msr.collectSection settings files := by
  unfold Msr.collectSection
  apply Attempt.bind_congr
  intro msr hmsr
  rw [Attempt.outcome_mapFault_eq_ok_iff, Attempt.outcome_ofExcept] at hmsr
  have hinputs : settings.inputPaths .msr =
      msr.hookPath :: msr.conditionPath.toList ++ msr.sources.map (·.csvPath) := by
    simp only [Settings.inputPaths, hmsr]
  rw [hinputs, List.forall_mem_append, List.forall_mem_map] at h
  obtain ⟨hresources, hsheets⟩ := h
  rw [loadResolver_congr files later msr hresources]
  apply Attempt.bind_congr
  intro resolver _
  rw [collect_congr family files later (sheetSource resolver) msr.sources hsheets]

/-- What is generated rests on the inputs of the kind alone. -/
theorem generate_congr (settings : Settings) (files later : Files.Tree) (kind : Kind)
    (h : ∀ path ∈ settings.inputPaths kind, later.read path = files.read path) :
    generate kind settings later = generate kind settings files := by
  cases kind with
  | cpuid => rw [generate, generate, Cpuid.collectSection_congr settings files later h]
  | msr => rw [generate, generate, Msr.collectSection_congr settings files later h]

theorem headerPath?_of_generate (settings : Settings) (files : Files.Tree) (kind : Kind)
    (header : Header) (h : (generate kind settings files).outcome = .ok header) :
    settings.headerPath? kind = some header.path := by
  cases kind with
  | cpuid =>
    obtain ⟨⟨cpuid, build⟩, hsection, hheader⟩ := (Attempt.outcome_bind_eq_ok_iff _ _ _).mp h
    obtain ⟨hcpuid, -⟩ :=
      (Cpuid.outcome_collectSection_eq_ok_iff settings files cpuid build).mp hsection
    obtain rfl := Except.ok.inj hheader
    rw [Settings.headerPath?, hcpuid]
    rfl
  | msr =>
    obtain ⟨⟨msr, build⟩, hsection, hheader⟩ := (Attempt.outcome_bind_eq_ok_iff _ _ _).mp h
    obtain ⟨hmsr, -⟩ :=
      (Msr.outcome_collectSection_eq_ok_iff settings files msr build).mp hsection
    obtain rfl := Except.ok.inj hheader
    rw [Settings.headerPath?, hmsr]
    rfl

theorem resultAlone_eq_ok_iff (settings : Settings) (write : Bool) (files : Files.Tree)
    (kind : Kind) (header : Header) :
    resultAlone settings write files kind = .ok header ↔
      (generate kind settings files).outcome = .ok header ∧
        (write = true → ∃ written, files.write header.path header.text = .ok written) := by
  unfold resultAlone
  cases (generate kind settings files).outcome with
  | error fault => simp
  | ok made =>
    cases write with
    | false => simp
    | true =>
      simp only [if_true, Except.ok.injEq, true_implies]
      constructor
      · intro h
        split at h
        · cases h
        · rename_i written hwrite
          obtain rfl := Except.ok.inj h
          exact ⟨rfl, written, hwrite⟩
      · rintro ⟨rfl, written, hwrite⟩
        rw [hwrite]

theorem headerPath?_of_resultAlone (settings : Settings) (write : Bool) (files : Files.Tree)
    (kind : Kind) (header : Header) (h : resultAlone settings write files kind = .ok header) :
    settings.headerPath? kind = some header.path := by
  obtain ⟨hgenerate, -⟩ := (resultAlone_eq_ok_iff settings write files kind header).mp h
  exact headerPath?_of_generate settings files kind header hgenerate

/-- A pass gives what it would give alone. -/
theorem outcome_pass_map_fst (settings : Settings) (write : Bool) (files : Files.Tree)
    (kind : Kind) :
    (pass settings write files kind).outcome.map Prod.fst =
      resultAlone settings write files kind := by
  unfold pass resultAlone
  rw [Attempt.outcome_bind]
  cases (generate kind settings files).outcome with
  | error fault => rfl
  | ok header =>
    cases write with
    | false => rfl
    | true =>
      simp only [Except.bind, if_true, Attempt.outcome_bind, Attempt.outcome_mapFault,
        outcome_write]
      cases files.write header.path header.text <;> rfl

theorem resultAlone_congr (settings : Settings) (write : Bool) (files later : Files.Tree)
    (kind : Kind)
    (hinputs : ∀ path ∈ settings.inputPaths kind, later.read path = files.read path)
    (htarget : write = true → ∀ path ∈ settings.headerPath? kind,
      later.target path = files.target path) :
    resultAlone settings write later kind = resultAlone settings write files kind := by
  unfold resultAlone
  rw [generate_congr settings files later kind hinputs]
  cases hgenerate : (generate kind settings files).outcome with
  | error fault => rfl
  | ok header =>
    cases write with
    | false => rfl
    | true =>
      have hpath := headerPath?_of_generate settings files kind header hgenerate
      simp only [Files.Tree.write, htarget rfl header.path hpath]
      cases files.target header.path <;> rfl

/-- The tree comes from the first one by writing headers that the kinds make on the first one. -/
def ComesFrom (settings : Settings) (kinds : List Kind) (files later : Files.Tree) : Prop :=
  ∃ headers, HasWritten files later headers ∧
    ∀ made ∈ headers, made.1 ∈ kinds ∧ resultAlone settings true files made.1 = .ok made.2

theorem ComesFrom.refl (settings : Settings) (kinds : List Kind) (files : Files.Tree) :
    ComesFrom settings kinds files files :=
  ⟨[], HasWritten.refl files, by simp⟩

/-- Only places of headers change. -/
theorem HasWritten.node?_of_forall_ne {before after : Files.Tree} {headers : List (Kind × Header)}
    (h : HasWritten before after headers) (place : Files.Place)
    (hne : ∀ made ∈ headers, Files.placeOf made.2.path ≠ place) :
    after.node? place = before.node? place := by
  have hnone : lastHeaderAt? place headers = none := by
    rw [lastHeaderAt?, List.find?_eq_none]
    intro made hmade
    simpa using hne made (List.mem_reverse.mp hmade)
  rw [h.node, hnone]
  rfl

/-- Writing the same headers again changes nothing. -/
theorem HasWritten.node?_again {before between after : Files.Tree}
    {headers : List (Kind × Header)} (h : HasWritten before between headers)
    (h' : HasWritten between after headers) (place : Files.Place) :
    after.node? place = between.node? place := by
  rw [h'.node, h.node, ← Option.or_assoc, Option.or_self]

/-- A path that keeps off the places of the headers reads what it read. -/
theorem HasWritten.read_of_apart {before after : Files.Tree} {headers : List (Kind × Header)}
    (h : HasWritten before after headers) (path : String)
    (hapart : ∀ made ∈ headers, ¬Files.PassesThrough path (Files.placeOf made.2.path)) :
    after.read path = before.read path := by
  apply Files.Tree.AgreeAlong.read_eq
  intro place hplace
  apply h.node?_of_forall_ne
  intro made hmade heq
  exact hapart made hmade (heq ▸ hplace)

/-- A file can still be written where it could be. One of the headers may be there by now, and a
file does not stand in the way of another. -/
theorem HasWritten.target_of_target {before after : Files.Tree} {headers : List (Kind × Header)}
    (h : HasWritten before after headers) (path : String) (place : Files.Place)
    (htarget : before.target path = .ok place) : after.target path = .ok place := by
  apply Files.Tree.target_of_keepsDirectories before after path place htarget h.kept
  have hfree := (Files.Tree.leadsTo_of_target before path place htarget).not_directory
  rw [h.node]
  cases lastHeaderAt? place headers with
  | none => exact hfree
  | some made => simp

/-- On trees that come from the files every pass gives what it gives on the files themselves. -/
def Steady (settings : Settings) (kinds : List Kind) (files : Files.Tree) : Prop :=
  ∀ later, ComesFrom settings kinds files later → ∀ write, ∀ kind ∈ kinds,
    resultAlone settings write later kind = resultAlone settings write files kind

section Kept

variable {settings : Settings} {kinds : List Kind} {files later : Files.Tree}

theorem read_of_comesFrom
    (hinputs : ∀ kind ∈ kinds, ∀ path ∈ settings.headerPath? kind, ∀ reader ∈ kinds,
      ∀ input ∈ settings.inputPaths reader, ¬Files.PassesThrough input (Files.placeOf path))
    (hlater : ComesFrom settings kinds files later) (kind : Kind) (hkind : kind ∈ kinds)
    (path : String) (hpath : path ∈ settings.inputPaths kind) :
    later.read path = files.read path := by
  obtain ⟨headers, hwritten, hmade⟩ := hlater
  apply hwritten.read_of_apart
  intro made hmem
  obtain ⟨hmadeKind, halone⟩ := hmade made hmem
  have hheader := headerPath?_of_resultAlone settings true files made.1 made.2 halone
  exact hinputs made.1 hmadeKind made.2.path hheader kind hkind path hpath

theorem target_of_comesFrom (h : Independent settings kinds)
    (hlater : ComesFrom settings kinds files later) (kind : Kind) (hkind : kind ∈ kinds)
    (path : String) (hpath : path ∈ settings.headerPath? kind) :
    later.target path = files.target path := by
  obtain ⟨headers, hwritten, hmade⟩ := hlater
  cases htarget : files.target path with
  | ok place => exact hwritten.target_of_target path place htarget
  | error fault =>
    -- The kind itself cannot have written here, and the others keep off the way.
    rw [← htarget]
    apply Files.Tree.AgreeAlong.target_eq
    intro place hplace
    apply hwritten.node?_of_forall_ne
    intro made hmem heq
    obtain ⟨hmadeKind, halone⟩ := hmade made hmem
    have hheader := headerPath?_of_resultAlone settings true files made.1 made.2 halone
    by_cases hsame : kind = made.1
    · subst hsame
      obtain rfl := Option.some.inj (hpath.symm.trans hheader)
      obtain ⟨-, hwrite⟩ := (resultAlone_eq_ok_iff _ _ _ _ _).mp halone
      obtain ⟨written, hwritten⟩ := hwrite rfl
      simp [Files.Tree.write, htarget, Except.map] at hwritten
    · exact h.headers made.1 hmadeKind made.2.path hheader kind hkind hsame path hpath
        (heq ▸ hplace)

/-- Passes of kinds that keep apart are not influenced by the headers of each other. -/
theorem Independent.steady (h : Independent settings kinds) (files : Files.Tree) :
    Steady settings kinds files :=
  fun later hlater write kind hkind =>
    resultAlone_congr settings write files later kind
      (read_of_comesFrom h.inputs hlater kind hkind)
      fun _ => target_of_comesFrom h hlater kind hkind

theorem comesFrom_filesAfter (h : Steady settings kinds files)
    (hlater : ComesFrom settings kinds files later) (write : Bool) (kind : Kind)
    (hkind : kind ∈ kinds) :
    ComesFrom settings kinds files (filesAfter settings write later kind) := by
  cases write with
  | false => rwa [filesAfter_false]
  | true =>
    have hresult := h later hlater true kind hkind
    obtain ⟨headers, hwritten, hmade⟩ := hlater
    refine ⟨_, hwritten.trans (hasWritten_filesAfter settings later kind), ?_⟩
    rw [outcome_pass_map_fst, hresult]
    intro made hmem
    rcases List.mem_append.mp hmem with hold | hnew
    · exact hmade made hold
    · cases halone : resultAlone settings true files kind with
      | error fault => simp [headersOf, halone, Except.toOption] at hnew
      | ok header =>
        have heq : made = (kind, header) := by
          simpa [headersOf, halone, Except.toOption, eq_comm] using hnew
        subst heq
        exact ⟨hkind, halone⟩

/-- Each pass of a run gives what it gives alone, and only headers made alone are written. -/
theorem results_run_of_steady (h : Steady settings kinds files) (write : Bool)
    (chosen : List Kind) (hchosen : chosen ⊆ kinds)
    (hlater : ComesFrom settings kinds files later) :
    (run settings write later chosen).results =
        chosen.map (fun kind => (kind, resultAlone settings write files kind)) ∧
      ComesFrom settings kinds files (run settings write later chosen).files := by
  induction chosen generalizing later with
  | nil => exact ⟨rfl, hlater⟩
  | cons kind rest ih =>
    obtain ⟨hkind, hrest⟩ := List.cons_subset.mp hchosen
    obtain ⟨hresults, hfiles⟩ := ih hrest (comesFrom_filesAfter h hlater write kind hkind)
    rw [results_run_cons, files_run_cons, outcome_pass_map_fst, h later hlater write kind hkind,
      hresults]
    exact ⟨rfl, hfiles⟩

theorem results_run_of_comesFrom (h : Independent settings kinds) (write : Bool)
    (chosen : List Kind) (hchosen : chosen ⊆ kinds)
    (hlater : ComesFrom settings kinds files later) :
    (run settings write later chosen).results =
        chosen.map (fun kind => (kind, resultAlone settings write files kind)) ∧
      ComesFrom settings kinds files (run settings write later chosen).files :=
  results_run_of_steady (h.steady files) write chosen hchosen hlater

end Kept

/-- Passes of kinds that keep apart do not influence each other. In a run over any list of these
kinds each pass gives what it gives alone on the files at first, and the same run again gives the
same results and changes no file. -/
theorem run_passes_independent (settings : Settings) (kinds : List Kind)
    (h : Independent settings kinds) (write : Bool) (files : Files.Tree) (chosen : List Kind)
    (hchosen : chosen ⊆ kinds) :
    let once := run settings write files chosen
    let twice := run settings write once.files chosen
    once.results = chosen.map (fun kind => (kind, resultAlone settings write files kind)) ∧
      twice.results = once.results ∧
      ∀ place, twice.files.node? place = once.files.node? place := by
  intro once twice
  obtain ⟨honce, hfiles⟩ :=
    results_run_of_comesFrom h write chosen hchosen (ComesFrom.refl settings kinds files)
  obtain ⟨htwice, -⟩ := results_run_of_comesFrom h write chosen hchosen hfiles
  have hresults : twice.results = once.results := htwice.trans honce.symm
  refine ⟨honce, hresults, ?_⟩
  intro place
  cases write with
  | false => rw [files_run_false]
  | true =>
    have hsecond : HasWritten once.files twice.files (headersOf twice.results) :=
      hasWritten_run settings once.files chosen
    rw [hresults] at hsecond
    exact (hasWritten_run settings files chosen).node?_again hsecond place

def bothSheets : Files.Tree :=
  let hooks := "static void pre_known(struct test_msr *c)\n"
  let rows := "MSR Architectural Name,First (H),Last (H),Size (H),Read,Write\n" ++
    "TSC,10,,,Inject_GP(pre_known),Native\n"
  (oneSheet.put "hooks.h" (.file hooks.toUTF8)).put "msr.csv" (.file rows.toUTF8)

/-- Settings whose MSR header is below a directory that does not exist. -/
def headerBelowNothing : Settings where
  path := "config.json"
  directory := ""
  sections := [
    ("cpuid", .object [("header_path", .text "cpuid.h"),
      ("sources", .array [.object [("csv_path", .text "cpuid.csv"), ("vtype", .text "Type"),
        ("vdetail", .text "Detail")]])]),
    ("msr", .object [("header_path", .text "gone/msr.h"),
      ("precondition_header", .text "hooks.h"),
      ("sources", .array [.object [("csv_path", .text "msr.csv"), ("rdname", .text "Read"),
        ("wrname", .text "Write")]])])]

theorem run_passes_independent_refused :
    let chosen : List Kind := [.msr, .cpuid, .msr]
    let once := run headerBelowNothing true bothSheets chosen
    let twice := run headerBelowNothing true once.files chosen
    Independent headerBelowNothing [.cpuid, .msr] ∧ chosen ⊆ [.cpuid, .msr] ∧
      (resultAlone headerBelowNothing true bothSheets .cpuid).toOption.isSome ∧
      resultAlone headerBelowNothing true bothSheets .msr =
        .error (.write ⟨"gone/msr.h", .notFound⟩) ∧
      once.results =
        chosen.map (fun kind => (kind, resultAlone headerBelowNothing true bothSheets kind)) ∧
      twice.results = once.results ∧
      ∀ place, twice.files.node? place = once.files.node? place := by
  intro chosen once twice
  have hapart : Independent headerBelowNothing [.cpuid, .msr] :=
    ⟨by decide +kernel, by decide +kernel⟩
  have hchosen : chosen ⊆ [.cpuid, .msr] := by decide
  refine ⟨hapart, hchosen, by decide +kernel, by decide +kernel, ?_⟩
  exact run_passes_independent headerBelowNothing [.cpuid, .msr] hapart true bothSheets chosen
    hchosen

end GuestCases
