import GuestCases.Command.Run
import GuestCases.Proofs.IndependentPasses
import GuestCases.Proofs.ListedEntries

/-!
What the commands on cases have in common. A run that writes, a dry run and a dump make their
entries from the same files as long as no header is put where an input is looked for and every
header can be written. The dry run then prints the headers that the run writes, both report the
same errors, and a dump lists the entries of the header that its kind has in them.
-/

namespace GuestCases

/-- The header of every kind can be written, and no input of the kinds is at the place of a header
or is reached through it. -/
structure Writable (settings : Settings) (files : Files.Tree) (kinds : List Kind) : Prop where
  inputs : ∀ kind ∈ kinds, ∀ path ∈ settings.headerPath? kind, ∀ reader ∈ kinds,
    ∀ input ∈ settings.inputPaths reader, ¬Files.PassesThrough input (Files.placeOf path)
  writes : ∀ kind ∈ kinds, ∀ path ∈ settings.headerPath? kind, ∀ text,
    ∃ written, files.write path text = .ok written

theorem toOption_eq_some_iff {ε α : Type} (result : Except ε α) (value : α) :
    result.toOption = some value ↔ result = .ok value := by
  cases result <;> simp [Except.toOption]

theorem writable_iff (settings : Settings) (files : Files.Tree) (kinds : List Kind) :
    Writable settings files kinds ↔
      (∀ kind ∈ kinds, ∀ path ∈ settings.headerPath? kind, ∀ reader ∈ kinds,
        ∀ input ∈ settings.inputPaths reader,
          ¬Files.PassesThrough input (Files.placeOf path)) ∧
      ∀ kind ∈ kinds, ∀ path ∈ settings.headerPath? kind,
        (files.target path).toOption.isSome := by
  have htarget : ∀ path, (files.target path).toOption.isSome ↔
      ∀ text, ∃ written, files.write path text = .ok written := by
    intro path
    simp only [Files.Tree.exists_write_iff, forall_const]
    cases files.target path <;> simp [Except.toOption]
  simp only [htarget]
  constructor
  · intro h
    exact ⟨h.inputs, h.writes⟩
  · rintro ⟨hinputs, hwrites⟩
    exact ⟨hinputs, hwrites⟩

instance (settings : Settings) (files : Files.Tree) (kinds : List Kind) :
    Decidable (Writable settings files kinds) :=
  decidable_of_iff _ (writable_iff settings files kinds).symm

def headerOf (settings : Settings) (files : Files.Tree) (kind : Kind) : Except PassFault Header :=
  (generate kind settings files).outcome

def generated (settings : Settings) (files : Files.Tree) (kinds : List Kind) :
    List (Kind × Except PassFault Header) :=
  kinds.map fun kind => (kind, headerOf settings files kind)

theorem mem_headersOf_generated (settings : Settings) (files : Files.Tree) (kinds : List Kind)
    (made : Kind × Header) :
    made ∈ headersOf (generated settings files kinds) ↔
      made.1 ∈ kinds ∧ headerOf settings files made.1 = .ok made.2 := by
  obtain ⟨kind, header⟩ := made
  simp only [headersOf, generated, List.filterMap_map, List.mem_filterMap, Function.comp_apply,
    Option.map_eq_some_iff, toOption_eq_some_iff, Prod.mk.injEq]
  constructor
  · rintro ⟨other, hkind, found, hheader, rfl, rfl⟩
    exact ⟨hkind, hheader⟩
  · rintro ⟨hkind, hheader⟩
    exact ⟨kind, hkind, header, hheader, rfl, rfl⟩

namespace Writable

variable {settings : Settings} {files : Files.Tree} {kinds : List Kind}

/-- A header that can be written once can be written again and again. -/
theorem steady (h : Writable settings files kinds) : Steady settings kinds files := by
  intro later hlater write kind hkind
  apply resultAlone_congr settings write files later kind
    (read_of_comesFrom h.inputs hlater kind hkind)
  intro _ path hpath
  obtain ⟨headers, hwritten, -⟩ := hlater
  obtain ⟨place, hplace⟩ :=
    (Files.Tree.exists_write_iff files path "").mp (h.writes kind hkind path hpath "")
  rw [hwritten.target_of_target path place hplace, hplace]

/-- No header is refused. -/
theorem resultAlone_eq (h : Writable settings files kinds) (write : Bool) (kind : Kind)
    (hkind : kind ∈ kinds) :
    resultAlone settings write files kind = headerOf settings files kind := by
  rw [resultAlone, headerOf]
  cases hgenerate : (generate kind settings files).outcome with
  | error fault => rfl
  | ok header =>
    cases write with
    | false => rfl
    | true =>
      have hpath := headerPath?_of_generate settings files kind header hgenerate
      obtain ⟨written, hwrite⟩ := h.writes kind hkind header.path hpath header.text
      simp only [hwrite, if_true]

/-- A run gives the same for each kind whether it writes or not. -/
theorem results_run (h : Writable settings files kinds) (write : Bool) :
    (run settings write files kinds).results = generated settings files kinds := by
  obtain ⟨hresults, -⟩ := results_run_of_steady h.steady write kinds (List.Subset.refl kinds)
    (ComesFrom.refl settings kinds files)
  rw [hresults, generated]
  apply List.map_congr_left
  intro kind hkind
  rw [h.resultAlone_eq write kind hkind]

end Writable

namespace Command

def selected (settings : Settings) (only : Option Kind) : List Kind :=
  (only.map ([·])).getD settings.kinds

def isError (line : String) : Bool :=
  "error: ".toList.isPrefixOf line.toList

def HeadersApart (settings : Settings) (kinds : List Kind) : Prop :=
  ∀ kind ∈ kinds, ∀ path ∈ settings.headerPath? kind, ∀ other ∈ kinds, other ≠ kind →
    ∀ otherPath ∈ settings.headerPath? other, Files.placeOf otherPath ≠ Files.placeOf path

instance (settings : Settings) (kinds : List Kind) : Decidable (HeadersApart settings kinds) :=
  inferInstanceAs (Decidable (∀ kind ∈ kinds, ∀ path ∈ settings.headerPath? kind,
    ∀ other ∈ kinds, other ≠ kind → ∀ otherPath ∈ settings.headerPath? other,
      Files.placeOf otherPath ≠ Files.placeOf path))

/-- A run for the kinds and its dry run do the same, but that one writes the headers and the other
prints them. -/
structure RunsAgree (settings : Settings) (files : Files.Tree) (kinds : List Kind)
    (real dry : Effect) : Prop where
  results : ∀ write, (run settings write files kinds).results = generated settings files kinds
  /-- The lines of a dry run that report no error are its summaries. -/
  errors : dry.errors.filter isError = real.errors
  code : dry.code = real.code
  code_eq_zero_iff : real.code = 0 ↔
    kinds ≠ [] ∧ ∀ kind ∈ kinds, ∃ header, headerOf settings files kind = .ok header
  files_dry : dry.files = files
  output_dry : dry.output = String.join
    ((headersOf (generated settings files kinds)).map fun made => headerText made.1 made.2.lines)
  files_real : HoldsHeaders files real.files (headersOf (generated settings files kinds))
  read_real : HeadersApart settings kinds →
    ∀ made ∈ headersOf (generated settings files kinds),
      real.files.readText made.2.path = .ok (headerText made.1 made.2.lines)

/-- The text is what a dump prints of entries, it reads back as these entries and no others, and
the body of the header is made from them. -/
def ListsEntries (output : String) (header : Header) : Kind → Prop
  | .cpuid => ∃ entries, output = printed [dumpText (entries.map Cpuid.Entry.json)] ∧
      listedEntries? Cpuid.Entry.ofJson? output = some entries ∧
      header.lines = Cpuid.family.body entries
  | .msr => ∃ entries, output = printed [dumpText (entries.map Msr.Entry.json)] ∧
      listedEntries? Msr.Entry.ofJson? output = some entries ∧
      header.lines = Msr.family.body entries

/-- A dump of the kind succeeds when there is a header of the kind, and lists its entries. Else it
ends with the error that a run has for the kind. -/
structure DumpAgrees (settings : Settings) (files : Files.Tree) (kind : Kind) (listed : Effect) :
    Prop where
  code_eq_zero_iff : listed.code = 0 ↔ ∃ header, headerOf settings files kind = .ok header
  errors : listed.errors = resultErrors false (kind, headerOf settings files kind)
  kept : listed.files = files
  lists : ∀ header, headerOf settings files kind = .ok header →
    ListsEntries listed.output header kind

/-- The header of a kind is made from the entries that a dump lists. -/
theorem entriesOf_cases (settings : Settings) (files : Files.Tree) (kind : Kind) :
    (∃ fault, headerOf settings files kind = .error fault ∧
      entriesOf files settings kind = .error fault) ∨
    ∃ header entries, headerOf settings files kind = .ok header ∧
      entriesOf files settings kind = .ok entries ∧
      ListsEntries (printed [dumpText entries]) header kind := by
  cases kind with
  | cpuid =>
    unfold headerOf GuestCases.generate entriesOf collectCpuid
    simp only [Attempt.outcome_bind]
    cases hsection : (Cpuid.collectSection settings files).outcome with
    | error fault => exact .inl ⟨fault, rfl, rfl⟩
    | ok made =>
      have hlisted := Cpuid.listedEntries?_of_collectSection settings files made hsection
      exact .inr ⟨_, _, rfl, rfl, made.2.entries, rfl, hlisted, rfl⟩
  | msr =>
    unfold headerOf GuestCases.generate entriesOf collectMsr
    simp only [Attempt.outcome_bind]
    cases (Msr.collectSection settings files).outcome with
    | error fault => exact .inl ⟨fault, rfl, rfl⟩
    | ok made =>
      have hlisted := Msr.listedEntries?_dumpText made.2.entries
      exact .inr ⟨_, _, rfl, rfl, made.2.entries, rfl, hlisted, rfl⟩

theorem dumpAgrees_dump (files : Files.Tree) (path : String) (settings : Settings)
    (hload : Settings.load files path = .ok settings) (kind : Kind) :
    DumpAgrees settings files kind (dump files path kind) := by
  rcases entriesOf_cases settings files kind with
    ⟨fault, hheader, hentries⟩ | ⟨header, entries, hheader, hentries, hlists⟩
  · have hdump : dump files path kind = failed files s!"{kind.key}: {fault.message}" := by
      simp only [dump, hload, hentries]
    exact {
      code_eq_zero_iff := by simp [hdump, hheader, failed]
      errors := by simp [hdump, hheader, failed, resultErrors, toString, String.append_assoc]
      kept := by rw [hdump, failed]
      lists := by simp [hheader]
    }
  · have hdump : dump files path kind = ⟨0, printed [dumpText entries], [], files⟩ := by
      simp only [dump, hload, hentries]
    exact {
      code_eq_zero_iff := by simp [hdump, hheader]
      errors := by simp [hdump, hheader, resultErrors]
      kept := by rw [hdump]
      lists := by
        intro made hmade
        obtain rfl := Except.ok.inj (hheader.symm.trans hmade)
        rw [hdump]
        exact hlists
    }

theorem isError_summary (header : Header) : isError (summary header) = false := by
  unfold isError summary
  cases header.kind <;> simp [Kind.key, toString, List.isPrefixOf]

/-- Of what a dry run says about a pass the errors are what the other run says. -/
theorem filter_resultErrors (result : Kind × Except PassFault Header) :
    (resultErrors true result).filter isError = resultErrors false result := by
  obtain ⟨kind, outcome⟩ := result
  cases outcome with
  | error fault => simp [resultErrors, isError, toString]
  | ok header => simp [resultErrors, isError_summary]

/-- A dry run prints the headers and nothing else. -/
theorem join_resultText_generated (settings : Settings) (files : Files.Tree) (kinds : List Kind) :
    String.join ((generated settings files kinds).map (resultText true)) =
      String.join ((headersOf (generated settings files kinds)).map fun made =>
        headerText made.1 made.2.lines) := by
  induction kinds with
  | nil => rfl
  | cons kind rest ih =>
    have hcons : generated settings files (kind :: rest) =
        (kind, headerOf settings files kind) :: generated settings files rest := rfl
    rw [hcons, List.map_cons, String.join_cons, ih]
    cases hheader : headerOf settings files kind with
    | error fault => exact String.empty_append
    | ok header =>
      have htext : resultText true (kind, .ok header) = headerText kind header.lines := by
        rw [← kind_of_generate kind settings files header hheader]
        rfl
      rw [htext]
      exact String.join_cons.symm

theorem any_hasFailed_generated (settings : Settings) (files : Files.Tree) (kinds : List Kind) :
    (generated settings files kinds).any hasFailed = false ↔
      ∀ kind ∈ kinds, ∃ header, headerOf settings files kind = .ok header := by
  simp only [generated, List.any_map, List.any_eq_false, Function.comp_apply]
  refine forall₂_congr fun kind _ => ?_
  cases headerOf settings files kind <;> simp [hasFailed]

/-- Headers at places of their own are read back. -/
theorem readText_of_headersApart {settings : Settings} {files after : Files.Tree}
    {kinds : List Kind} (hapart : HeadersApart settings kinds)
    (h : HoldsHeaders files after (headersOf (generated settings files kinds)))
    (made : Kind × Header) (hmade : made ∈ headersOf (generated settings files kinds)) :
    after.readText made.2.path = .ok (headerText made.1 made.2.lines) := by
  obtain ⟨last, hlast, hread⟩ := h.read made hmade
  have hlastMem : last ∈ headersOf (generated settings files kinds) :=
    List.mem_reverse.mp (List.mem_of_find?_eq_some hlast)
  have hplace : Files.placeOf last.2.path = Files.placeOf made.2.path := by
    simpa using List.find?_some hlast
  obtain ⟨hkind, hheader⟩ := (mem_headersOf_generated settings files kinds made).mp hmade
  obtain ⟨hlastKind, hlastHeader⟩ := (mem_headersOf_generated settings files kinds last).mp hlastMem
  have hsame : last.1 = made.1 := by
    by_contra hne
    have hpath := headerPath?_of_generate settings files made.1 made.2 hheader
    have hlastPath := headerPath?_of_generate settings files last.1 last.2 hlastHeader
    exact hapart made.1 hkind made.2.path hpath last.1 hlastKind hne last.2.path hlastPath hplace
  have heq : last.2 = made.2 := by
    rw [hsame, hheader] at hlastHeader
    exact (Except.ok.inj hlastHeader).symm
  apply Files.Tree.readText_of_read
  rw [hread, Prod.ext hsame heq, headerBytes]

section Generate

variable {settings : Settings} {files : Files.Tree} {path : String} {only : Option Kind}

theorem generate_of_selected_eq_nil (hload : Settings.load files path = .ok settings)
    (hnone : selected settings only = []) (dryRun : Bool) :
    generate files path only dryRun =
      failed files s!"{settings.path} has no `cpuid` or `msr` section" := by
  rw [selected] at hnone
  simp [generate, hload, hnone]

theorem generate_of_writable (hload : Settings.load files path = .ok settings)
    (hsome : selected settings only ≠ [])
    (h : Writable settings files (selected settings only)) (dryRun : Bool) :
    let results := generated settings files (selected settings only)
    generate files path only dryRun =
      { code := if results.any hasFailed then 1 else 0
        output := String.join (results.map (resultText dryRun))
        errors := results.flatMap (resultErrors dryRun)
        files := (run settings (!dryRun) files (selected settings only)).files } := by
  intro results
  have hresults : (run settings (!dryRun) files (selected settings only)).results = results :=
    h.results_run (!dryRun)
  have hisEmpty : (selected settings only).isEmpty = false := by simpa using hsome
  rw [selected] at hisEmpty hresults
  simp only [generate, hload, hisEmpty, Bool.false_eq_true, if_false]
  rw [hresults, selected]

theorem runsAgree_generate (hload : Settings.load files path = .ok settings)
    (h : Writable settings files (selected settings only)) :
    RunsAgree settings files (selected settings only) (generate files path only false)
      (generate files path only true) := by
  have hresults := h.results_run
  by_cases hkinds : selected settings only = []
  · have hruns := generate_of_selected_eq_nil hload hkinds
    rw [hkinds] at hresults ⊢
    rw [hruns, hruns]
    exact {
      results := hresults
      errors := by simp [failed, isError, toString]
      code := rfl
      code_eq_zero_iff := by simp [failed]
      files_dry := rfl
      output_dry := rfl
      files_real := (HasWritten.refl files).holdsHeaders
      read_real := by
        intro _ made hmade
        cases hmade
    }
  · have hreal := generate_of_writable hload hkinds h false
    have hdry := generate_of_writable hload hkinds h true
    have hwritten := hasWritten_run settings files (selected settings only)
    rw [hresults true] at hwritten
    rw [hreal, hdry]
    exact {
      results := hresults
      errors := by
        rw [List.filter_flatMap]
        simp only [filter_resultErrors]
      code := rfl
      code_eq_zero_iff := by
        rw [← any_hasFailed_generated]
        simp [hkinds]
      files_dry := files_run_false settings files _
      output_dry := join_resultText_generated settings files _
      files_real := hwritten.holdsHeaders
      read_real := fun hapart => readText_of_headersApart hapart hwritten.holdsHeaders
    }

end Generate

/-- When every header can be written and none is put where an input is looked for, a run, its dry
run and the dumps agree on which kinds fail and why, and on the headers of the others. -/
theorem commands_agree (files : Files.Tree) (path : String) (settings : Settings)
    (hload : Settings.load files path = .ok settings) (only : Option Kind)
    (h : Writable settings files (selected settings only)) :
    RunsAgree settings files (selected settings only) (generate files path only false)
        (generate files path only true) ∧
      ∀ kind, DumpAgrees settings files kind (dump files path kind) :=
  ⟨runsAgree_generate hload h, dumpAgrees_dump files path settings hload⟩

def bothSections : String :=
  let cpuid := "\x7b\"header_path\":\"cpuid.h\",\"sources\":" ++
    "[\x7b\"csv_path\":\"cpuid.csv\",\"vtype\":\"Type\",\"vdetail\":\"Detail\"\x7d]\x7d"
  let msr := "\x7b\"header_path\":\"msr.h\",\"precondition_header\":\"hooks.h\",\"sources\":" ++
    "[\x7b\"csv_path\":\"msr.csv\",\"rdname\":\"Read\",\"wrname\":\"Write\"\x7d]\x7d"
  "\x7b\"cpuid\":" ++ cpuid ++ ",\"msr\":" ++ msr ++ "\x7d"

def withSettings : Files.Tree :=
  oneSheet.put "config.json" (.file bothSections.toUTF8)

theorem load_of_readText (files : Files.Tree) (path text : String)
    (h : files.readText path = .ok text) :
    Settings.load files path = Settings.ofText path text := by
  simp only [Settings.load, h]

theorem commands_agree_hooks_missing :
    ∃ settings, Settings.load withSettings "config.json" = .ok settings ∧
      (generated settings withSettings (selected settings none)).map hasFailed = [false, true] ∧
      Writable settings withSettings (selected settings none) ∧
      HeadersApart settings (selected settings none) ∧
      RunsAgree settings withSettings (selected settings none)
        (generate withSettings "config.json" none false)
        (generate withSettings "config.json" none true) ∧
      ∀ kind, DumpAgrees settings withSettings kind (dump withSettings "config.json" kind) := by
  have hread : withSettings.readText "config.json" = .ok bothSections :=
    Files.Tree.readText_of_read _ _ _ rfl
  have hsettings : ∃ settings ∈ (Settings.ofText "config.json" bothSections).toOption,
      (generated settings withSettings (selected settings none)).map hasFailed = [false, true] ∧
      Writable settings withSettings (selected settings none) ∧
      HeadersApart settings (selected settings none) := by
    decide +kernel
  obtain ⟨settings, hsections, hresults, hwritable, hapart⟩ := hsettings
  have hload : Settings.load withSettings "config.json" = .ok settings := by
    rw [load_of_readText _ _ _ hread]
    exact (toOption_eq_some_iff _ _).mp hsections
  exact ⟨settings, hload, hresults, hwritable, hapart,
    commands_agree withSettings "config.json" settings hload none hwritable⟩

end Command

end GuestCases
