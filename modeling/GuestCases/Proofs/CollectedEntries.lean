import GuestCases.Pass
import GuestCases.Proofs.AssembledEntries
import GuestCases.Proofs.BoundColumns

/-!
What the sources of a kind give together. Each source that is read gives the build of its sheet;
the skips of all of them stand one after the other, and every entry is one of some source with
more alternatives.
-/

namespace GuestCases

variable {ε κ : Type}

namespace Family

variable [DecidableEq κ]

theorem mem_of_mem_firstSeen (family : Family ε κ) (base incoming : List ε) (entry : ε)
    (h : entry ∈ family.firstSeen base incoming) : entry ∈ base ++ incoming := by
  induction incoming generalizing base with
  | nil => simpa [firstSeen] using h
  | cons first rest ih =>
    by_cases hmem : family.fuseKey first ∈ base.map family.fuseKey
    · rw [firstSeen_cons_of_mem family base rest first hmem] at h
      rcases List.mem_append.mp (ih base h) with hbase | hrest
      · exact List.mem_append_left _ hbase
      · exact List.mem_append_right base (List.mem_cons_of_mem first hrest)
    · rw [firstSeen_cons_of_not_mem family base rest first hmem] at h
      simpa using ih (base ++ [first]) h

/-- Every entry of a fusion extends one of those that went into it. -/
theorem exists_extends_of_mem_foldl_absorb {family : Family ε κ} (parts : Mergeable family)
    (base incoming : List ε) (entry : ε) (h : entry ∈ incoming.foldl family.absorb base) :
    ∃ original ∈ base ++ incoming, parts.Extends original entry := by
  have hbase : List.Forall₂ parts.Extends base base :=
    List.forall₂_same.mpr fun entry _ => Mergeable.Extends.refl parts entry
  have hextends := forall₂_extends_foldl_absorb parts incoming base base hbase
  obtain ⟨original, horiginal, hentry⟩ := exists_of_forall₂ hextends entry h
  exact ⟨original, family.mem_of_mem_firstSeen base incoming original horiginal, hentry⟩

variable [Hashable κ]

theorem exists_extends_of_mem_assemble {family : Family ε κ} (parts : Mergeable family)
    (batches : List (List ε)) (entry : ε) (h : entry ∈ family.assemble batches) :
    ∃ original ∈ batches.flatten, parts.Extends original entry := by
  match batches with
  | [] => cases h
  | [batch] =>
    have hentry : entry ∈ batch := h
    exact ⟨entry, by simpa using hentry, Mergeable.Extends.refl parts entry⟩
  | first :: second :: rest =>
    have hfused : entry ∈ family.sort (family.fuseAll (family.sort first) (second :: rest)).2 := h
    rw [fuseAll_eq_foldl_absorb, (family.sort_perm _).mem_iff] at hfused
    obtain ⟨original, horiginal, hextends⟩ :=
      exists_extends_of_mem_foldl_absorb parts _ _ entry hfused
    refine ⟨original, ?_, hextends⟩
    rwa [List.mem_append, (family.sort_perm first).mem_iff, ← List.mem_append] at horiginal

end Family

def SheetSource.Gives (files : Files.Tree) (source : SheetSource ε) (build : Build ε) : Prop :=
  ∃ sheet, Sheet.read files source.path source.offset = .ok sheet ∧
    (source.read sheet).attempt.outcome = .ok build

theorem outcome_readSource_eq_ok_iff (family : Family ε κ) (files : Files.Tree)
    (source : SheetSource ε) (build : Build ε) :
    (readSource family files source).outcome = .ok build ↔ source.Gives files build := by
  simp [readSource, Attempt.outcome_bind_eq_ok_iff, SheetSource.Gives]

theorem outcome_readSources_eq_ok_iff (family : Family ε κ) (files : Files.Tree)
    (sources : List (SheetSource ε)) (builds : List (Build ε)) :
    (readSources family files sources).outcome = .ok builds ↔
      List.Forall₂ (SheetSource.Gives files) sources builds := by
  induction sources generalizing builds with
  | nil => simp [readSources, eq_comm]
  | cons source rest ih =>
    simp only [readSources, Attempt.outcome_bind_eq_ok_iff, outcome_readSource_eq_ok_iff, ih,
      Attempt.outcome_pure, Except.ok.injEq]
    constructor
    · rintro ⟨build, hbuild, others, hothers, rfl⟩
      exact List.Forall₂.cons hbuild hothers
    · intro h
      cases h with
      | cons hbuild hothers => exact ⟨_, hbuild, _, hothers, rfl⟩

/-- A collection has the assembled entries of all sources and the skips of each in turn. -/
theorem outcome_collect_eq_ok_iff [DecidableEq κ] [Hashable κ] (family : Family ε κ)
    (files : Files.Tree) (sources : List (SheetSource ε)) (build : Build ε) :
    (collect family files sources).outcome = .ok build ↔
      ∃ builds, List.Forall₂ (SheetSource.Gives files) sources builds ∧
        build = ⟨family.assemble (builds.map Build.entries), builds.flatMap Build.skipped⟩ := by
  unfold collect
  rw [Attempt.outcome_bind_eq_ok_iff]
  refine exists_congr fun builds => and_congr (outcome_readSources_eq_ok_iff _ _ _ _) ?_
  constructor
  · intro h
    exact (Except.ok.inj h).symm
  · intro h
    exact congrArg Except.ok h.symm

/-- Every entry of a collection extends an entry of a sheet that was read. -/
theorem exists_extends_of_mem_collect [DecidableEq κ] [Hashable κ] {family : Family ε κ}
    (parts : Mergeable family) (files : Files.Tree) (sources : List (SheetSource ε))
    (build : Build ε) (h : (collect family files sources).outcome = .ok build) (entry : ε)
    (hentry : entry ∈ build.entries) :
    ∃ source ∈ sources, ∃ part original, source.Gives files part ∧ original ∈ part.entries ∧
      parts.Extends original entry := by
  obtain ⟨builds, hbuilds, rfl⟩ := (outcome_collect_eq_ok_iff family files sources build).mp h
  obtain ⟨original, horiginal, hextends⟩ :=
    Family.exists_extends_of_mem_assemble parts _ entry hentry
  obtain ⟨entries, hentries, hmem⟩ := List.mem_flatten.mp horiginal
  obtain ⟨part, hpart, rfl⟩ := List.mem_map.mp hentries
  obtain ⟨source, hsource, hgives⟩ := exists_of_forall₂ hbuilds part hpart
  exact ⟨source, hsource, part, original, hgives, hmem, hextends⟩

theorem Cpuid.outcome_collectSection_eq_ok_iff (settings : Settings) (files : Files.Tree)
    (cpuid : Settings.CpuidSection) (build : Build Cpuid.Entry) :
    (Cpuid.collectSection settings files).outcome = .ok (cpuid, build) ↔
      settings.cpuid = .ok cpuid ∧
        (collect Cpuid.family files (cpuid.sources.map Cpuid.sheetSource)).outcome = .ok build := by
  simp only [Cpuid.collectSection, Attempt.outcome_bind_eq_ok_iff,
    Attempt.outcome_mapFault_eq_ok_iff, Attempt.outcome_ofExcept, Attempt.outcome_pure,
    Except.ok.injEq, Prod.mk.injEq]
  constructor
  · rintro ⟨cpuid, hcpuid, build, hbuild, rfl, rfl⟩
    exact ⟨hcpuid, hbuild⟩
  · rintro ⟨hcpuid, hbuild⟩
    exact ⟨cpuid, hcpuid, build, hbuild, rfl, rfl⟩

namespace Msr

def LoadsConditions (files : Files.Tree) (path? : Option String)
    (conditions : Dictionary String) : Prop :=
  match path? with
  | none => conditions = .empty
  | some path => loadConditions files path = .ok conditions

theorem Hooks.load_eq_ok_iff (files : Files.Tree) (path : String) (hooks : Hooks) :
    Hooks.load files path = .ok hooks ↔
      ∃ text, files.readText path = .ok text ∧ hooks = .ofSource text := by
  unfold Hooks.load
  cases files.readText path <;> simp [eq_comm]

theorem outcome_loadResolver_eq_ok_iff (files : Files.Tree) (msr : Settings.MsrSection)
    (resolver : Resolver) :
    (loadResolver files msr).outcome = .ok resolver ↔
      ∃ text conditions, files.readText msr.hookPath = .ok text ∧
        LoadsConditions files msr.conditionPath conditions ∧
        resolver = ⟨conditions, .ofSource text⟩ := by
  unfold loadResolver Resolver.load
  simp only [Attempt.outcome_bind_eq_ok_iff, Attempt.outcome_ofExcept, Hooks.load_eq_ok_iff]
  cases msr.conditionPath with
  | none =>
    simp only [Attempt.outcome_bind_eq_ok_iff, Attempt.outcome_pure, Attempt.outcome_note,
      LoadsConditions, Except.ok.injEq]
    constructor
    · rintro ⟨hooks, ⟨text, htext, rfl⟩, conditions, rfl, -, -, rfl⟩
      exact ⟨text, .empty, htext, rfl, rfl⟩
    · rintro ⟨text, conditions, htext, rfl, rfl⟩
      exact ⟨.ofSource text, ⟨text, htext, rfl⟩, .empty, rfl, (), trivial, rfl⟩
  | some path =>
    simp only [Attempt.outcome_bind_eq_ok_iff, Attempt.outcome_ofExcept, Attempt.outcome_note,
      LoadsConditions, Except.ok.injEq]
    constructor
    · rintro ⟨hooks, ⟨text, htext, rfl⟩, conditions, hconditions, -, -, rfl⟩
      exact ⟨text, conditions, htext, hconditions, rfl⟩
    · rintro ⟨text, conditions, htext, hconditions, rfl⟩
      exact ⟨.ofSource text, ⟨text, htext, rfl⟩, conditions, hconditions, (), trivial, rfl⟩

theorem outcome_collectSection_eq_ok_iff (settings : Settings) (files : Files.Tree)
    (msr : Settings.MsrSection) (build : Build Entry) :
    (collectSection settings files).outcome = .ok (msr, build) ↔
      settings.msr = .ok msr ∧ ∃ resolver, (loadResolver files msr).outcome = .ok resolver ∧
        (collect family files (msr.sources.map (sheetSource resolver))).outcome = .ok build := by
  simp only [collectSection, Attempt.outcome_bind_eq_ok_iff, Attempt.outcome_mapFault_eq_ok_iff,
    Attempt.outcome_ofExcept, Attempt.outcome_pure, Except.ok.injEq, Prod.mk.injEq]
  constructor
  · rintro ⟨msr, hmsr, resolver, hresolver, build, hbuild, rfl, rfl⟩
    exact ⟨hmsr, resolver, hresolver, hbuild⟩
  · rintro ⟨hmsr, resolver, hresolver, hbuild⟩
    exact ⟨msr, hmsr, resolver, hresolver, build, hbuild, rfl, rfl⟩

end Msr

end GuestCases
