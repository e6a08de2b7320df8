import GuestCases.Pass

/-!
The stages at which a pass can fail. A pass of either kind fails exactly when its section cannot
be decoded, a file that its entries depend on cannot be read, a source or a row of a source
cannot be read, or the finished header cannot be written.
-/

namespace GuestCases

section Sources

variable {ε κ : Type}

def SheetSource.Unreadable (files : Files.Tree) (source : SheetSource ε) : Prop :=
  (∃ fault, Sheet.read files source.path source.offset = .error fault) ∨
    ∃ sheet, Sheet.read files source.path source.offset = .ok sheet ∧
      ∃ fault, (source.read sheet).fault? = some fault

theorem Reading.fails_attempt (reading : Reading ε) :
    reading.attempt.Fails ↔ ∃ fault, reading.fault? = some fault := by
  unfold Attempt.Fails Reading.attempt
  cases reading.fault? <;> simp

theorem fails_readSource (family : Family ε κ) (files : Files.Tree) (source : SheetSource ε) :
    (readSource family files source).Fails ↔ source.Unreadable files := by
  simp [readSource, Attempt.fails_bind, Reading.fails_attempt, SheetSource.Unreadable]

theorem fails_readSources (family : Family ε κ) (files : Files.Tree)
    (sources : List (SheetSource ε)) :
    (readSources family files sources).Fails ↔ ∃ source ∈ sources, source.Unreadable files := by
  induction sources with
  | nil => simp [readSources]
  | cons source rest ih =>
    simp only [List.mem_cons, exists_eq_or_imp]
    rw [readSources, ← fails_readSource family files source, ← ih]
    apply Attempt.fails_bind_of_iff
    intro build
    simp [Attempt.fails_bind]

variable [DecidableEq κ] [Hashable κ]

/-- A source that cannot be read fails the whole collection, wherever it stands. -/
theorem fails_collect {α : Type} (family : Family ε κ) (files : Files.Tree)
    (sheetSource : α → SheetSource ε) (sources : List α) :
    (collect family files (sources.map sheetSource)).Fails ↔
      ∃ source ∈ sources, (sheetSource source).Unreadable files := by
  have hread : (collect family files (sources.map sheetSource)).Fails ↔
      (readSources family files (sources.map sheetSource)).Fails := by
    rw [collect, Attempt.fails_bind]
    simp [Attempt.Fails]
  rw [hread, fails_readSources]
  constructor
  · rintro ⟨read, hread, hunreadable⟩
    obtain ⟨source, hsource, rfl⟩ := List.mem_map.mp hread
    exact ⟨source, hsource, hunreadable⟩
  · rintro ⟨source, hsource, hunreadable⟩
    exact ⟨sheetSource source, List.mem_map_of_mem hsource, hunreadable⟩

end Sources

namespace Cpuid

def StageFails (settings : Settings) (files : Files.Tree) : Prop :=
  (∃ fault, settings.cpuid = .error fault) ∨
    ∃ cpuid, settings.cpuid = .ok cpuid ∧
      ∃ source ∈ cpuid.sources, (sheetSource source).Unreadable files

theorem fails_collectSection (settings : Settings) (files : Files.Tree) :
    (collectSection settings files).Fails ↔ StageFails settings files := by
  simp [collectSection, Attempt.fails_bind, Attempt.outcome_mapFault_eq_ok_iff, fails_collect,
    StageFails]

end Cpuid

namespace Msr

def StageFails (settings : Settings) (files : Files.Tree) : Prop :=
  (∃ fault, settings.msr = .error fault) ∨
    ∃ msr, settings.msr = .ok msr ∧
      ((∃ fault, Hooks.load files msr.hookPath = .error fault) ∨
        (∃ path, msr.conditionPath = some path ∧
          ∃ fault, loadConditions files path = .error fault) ∨
        ∃ resolver, (loadResolver files msr).outcome = .ok resolver ∧
          ∃ source ∈ msr.sources, (sheetSource resolver source).Unreadable files)

theorem fails_loadResolver (files : Files.Tree) (msr : Settings.MsrSection) :
    (loadResolver files msr).Fails ↔
      (∃ fault, Hooks.load files msr.hookPath = .error fault) ∨
        ∃ path, msr.conditionPath = some path ∧
          ∃ fault, loadConditions files path = .error fault := by
  unfold loadResolver Resolver.load
  rw [← Attempt.fails_ofExcept]
  apply Attempt.fails_bind_of_iff
  intro hooks
  have hresolver : ∀ (log : List LogLine) (resolver : Resolver),
      ¬(⟨log, .ok resolver⟩ : Attempt ResourceFault Resolver).Fails := by
    simp [Attempt.Fails]
  cases msr.conditionPath with
  | none => simp [Attempt.fails_bind, hresolver]
  | some path => simp [Attempt.fails_bind, hresolver]

theorem fails_collectSection (settings : Settings) (files : Files.Tree) :
    (collectSection settings files).Fails ↔ StageFails settings files := by
  simp [collectSection, Attempt.fails_bind, Attempt.outcome_mapFault_eq_ok_iff,
    fails_loadResolver, fails_collect, StageFails, or_assoc]

end Msr

def StageFails (settings : Settings) (files : Files.Tree) : Kind → Prop
  | .cpuid => Cpuid.StageFails settings files
  | .msr => Msr.StageFails settings files

theorem fails_generate (kind : Kind) (settings : Settings) (files : Files.Tree) :
    (generate kind settings files).Fails ↔ StageFails settings files kind := by
  cases kind with
  | cpuid => simp [generate, Attempt.fails_bind, Cpuid.fails_collectSection, StageFails]
  | msr => simp [generate, Attempt.fails_bind, Msr.fails_collectSection, StageFails]

theorem outcome_write (header : Header) (files : Files.Tree) :
    (header.write files).outcome =
      (files.write header.path header.text).mapError (⟨header.path, ·⟩) := by
  unfold Header.write writeHeader Header.text
  cases files.write header.path (headerText header.kind header.lines) <;> rfl

def PassFails (settings : Settings) (write : Bool) (files : Files.Tree) (kind : Kind) : Prop :=
  StageFails settings files kind ∨
    write = true ∧ ∃ header, (generate kind settings files).outcome = .ok header ∧
      ∃ fault, files.write header.path header.text = .error fault

theorem fails_pass (settings : Settings) (write : Bool) (files : Files.Tree) (kind : Kind) :
    (pass settings write files kind).Fails ↔ PassFails settings write files kind := by
  have hwrite : ∀ header : Header, (header.write files).Fails ↔
      ∃ fault, files.write header.path header.text = .error fault := by
    intro header
    unfold Attempt.Fails
    rw [outcome_write, Attempt.exists_mapError_eq_error_iff]
  rw [pass, Attempt.fails_bind, fails_generate, PassFails]
  cases write with
  | false => simp
  | true => simp [Attempt.fails_bind, hwrite]

instance (settings : Settings) (write : Bool) (files : Files.Tree) (kind : Kind) :
    Decidable (PassFails settings write files kind) :=
  decidable_of_iff _ (fails_pass settings write files kind)

end GuestCases
