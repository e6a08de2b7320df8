import GuestCases.Proofs.AccessAccounts
import GuestCases.Proofs.CollectedEntries
import GuestCases.Proofs.DescriptionForms
import Mathlib.Data.List.Flatten

/-!
What declaring more hooks changes in the cases of an MSR sheet. Which hook a description names does
not depend on the declared ones, so a direction comes to the same with few hooks as with many,
unless it names one that only the many have. Then its skip turns into a case. Nothing else changes,
and a sheet that cannot be read has the same fault.
-/

namespace GuestCases.Msr

def Hooks.Within (few many : Hooks) : Prop :=
  ∀ hook, few.contains hook = true → many.contains hook = true

def Hooks.adds (few many : Hooks) (hook : String) : Bool :=
  !few.contains hook && many.contains hook

def namesAdded (few many : Hooks) : SkipReason → Bool
  | .unresolved _ (.unknownHook _ hook) => few.adds many hook
  | _ => false

def Source.declare (source : Source) (hooks : Hooks) : Source :=
  { source with resolver := { source.resolver with hooks := hooks } }

/-- What one direction of a row, or a whole row without registers, comes to: the same with few hooks
and with many, or a skip that turns into a case. -/
inductive Part where
  | entry (made : Entry)
  | skip (lost : Skip)
  | gain (lost : Skip) (made : Entry)

def Part.withFew : Part → Build Entry
  | .entry made => ⟨[made], []⟩
  | .skip lost => ⟨[], [lost]⟩
  | .gain lost _ => ⟨[], [lost]⟩

def Part.withMany : Part → Build Entry
  | .entry made => ⟨[made], []⟩
  | .skip lost => ⟨[], [lost]⟩
  | .gain _ made => ⟨[made], []⟩

/-- What one direction of the row comes to with the hooks of the source and with many. It gains a
case exactly when it is skipped for a hook that the many alone declare, and the case depends on that
hook. -/
inductive DirectionPart (source : Source) (many : Hooks) (row : Row) (geometry : Geometry)
    (direction : Direction) : Part → Prop where
  | entry (made : Entry) (hfew : IsCase source row geometry direction made)
    (hmany : IsCase (source.declare many) row geometry direction made) :
    DirectionPart source many row geometry direction (.entry made)
  | skip (why : Unresolved)
    (hfew : source.resolver.classify (row.description direction) = .error why)
    (hmany : (source.declare many).resolver.classify (row.description direction) = .error why)
    (hkept : namesAdded source.resolver.hooks many (.unresolved direction why) = false) :
    DirectionPart source many row geometry direction
      (.skip ⟨source.path, row.line, .unresolved direction why⟩)
  | gain (made : Entry) (trap : Trap) (text hook : String)
    (hfew : source.resolver.classify (row.description direction) = .error (.unknownHook text hook))
    (hmany : IsCase (source.declare many) row geometry direction made)
    (houtcome : made.outcome = .trapsIf trap hook)
    (hadded : source.resolver.hooks.adds many hook = true) :
    DirectionPart source many row geometry direction
      (.gain ⟨source.path, row.line, .unresolved direction (.unknownHook text hook)⟩ made)

inductive RowParts (source : Source) (many : Hooks) (row : Row) : List Part → Prop where
  | special (reason : SkipReason) (h : row.IsSpecial reason) :
    RowParts source many row [.skip ⟨source.path, row.line, reason⟩]
  | ordinary (geometry : Geometry) (part : Direction → Part) (hrow : row.IsOrdinary)
    (hgeometry : row.HasGeometry geometry)
    (hparts : ∀ direction, DirectionPart source many row geometry direction (part direction)) :
    RowParts source many row (Direction.both.map part)

def RowsHaveParts (source : Source) (many : Hooks) (rows : List Row) (parts : List Part) : Prop :=
  ∃ shares, List.Forall₂ (RowParts source many) rows shares ∧ parts = shares.flatten

/-- How a description is classified with few hooks and with many: alike, or as one that names a hook
which the many alone declare. -/
inductive Reclassified (few many : Hooks) :
    Except Unresolved Outcome → Except Unresolved Outcome → Prop where
  | same (result : Except Unresolved Outcome)
    (h : ∀ text hook, result = .error (.unknownHook text hook) → few.adds many hook = false) :
    Reclassified few many result result
  | gained (trap : Trap) (text hook : String) (h : few.adds many hook = true) :
    Reclassified few many (.error (.unknownHook text hook)) (.ok (.trapsIf trap hook))

/-- A condition stands for the same hook whatever is declared. -/
theorem reclassified_contingent (conditions : Dictionary String) (few many : Hooks)
    (hwithin : few.Within many) (text : String) (trap : Trap) :
    Reclassified few many (Resolver.contingent ⟨conditions, few⟩ text trap)
      (Resolver.contingent ⟨conditions, many⟩ text trap) := by
  unfold Resolver.contingent
  cases balanced? text with
  | none => exact .same _ (by simp)
  | some condition =>
    have hhook : Resolver.hookOf ⟨conditions, many⟩ condition =
        Resolver.hookOf ⟨conditions, few⟩ condition := rfl
    simp only [hhook]
    generalize Resolver.hookOf ⟨conditions, few⟩ condition = hook
    cases hfew : few.contains hook with
    | true =>
      simp only [hwithin hook hfew, if_true]
      exact .same _ (by simp)
    | false =>
      simp only [Bool.false_eq_true, if_false]
      cases hmany : many.contains hook with
      | true => exact .gained trap text hook (by simp [Hooks.adds, hfew, hmany])
      | false => exact .same _ (by simp [Hooks.adds, hmany])

theorem reclassified_classify (conditions : Dictionary String) (few many : Hooks)
    (hwithin : few.Within many) (description : String) :
    Reclassified few many (Resolver.classify ⟨conditions, few⟩ description)
      (Resolver.classify ⟨conditions, many⟩ description) := by
  simp only [Resolver.classify]
  split
  · exact .same _ (by simp)
  · split
    · exact .same _ (by simp)
    · exact .same _ (by simp)
    · exact reclassified_contingent conditions few many hwithin _ _
    · exact .same _ (by simp)

theorem exists_directionPart (source : Source) (many : Hooks)
    (hwithin : source.resolver.hooks.Within many) (row : Row) (geometry : Geometry)
    (direction : Direction) : ∃ part, DirectionPart source many row geometry direction part := by
  have hclassified := reclassified_classify source.resolver.conditions source.resolver.hooks many
    hwithin (row.description direction)
  generalize hfew : Resolver.classify ⟨source.resolver.conditions, source.resolver.hooks⟩
    (row.description direction) = first at hclassified
  generalize hmany : Resolver.classify ⟨source.resolver.conditions, many⟩
    (row.description direction) = second at hclassified
  cases hclassified with
  | same _ hkept =>
    cases first with
    | ok outcome =>
      exact ⟨_, .entry ⟨row.name.getD "", geometry.first, geometry.size, outcome, direction,
        source.version⟩ ⟨rfl, rfl, rfl, hfew, rfl, rfl⟩ ⟨rfl, rfl, rfl, hmany, rfl, rfl⟩⟩
    | error why =>
      refine ⟨_, .skip why hfew hmany ?_⟩
      cases why with
      | unknownHook text hook => exact hkept text hook rfl
      | _ => rfl
  | gained trap text hook hadded =>
    exact ⟨_, .gain ⟨row.name.getD "", geometry.first, geometry.size, .trapsIf trap hook, direction,
      source.version⟩ trap text hook hfew ⟨rfl, rfl, rfl, hmany, rfl, rfl⟩ rfl hadded⟩

section Parts

variable {source : Source} {many : Hooks} {row : Row}

theorem DirectionPart.gives {geometry : Geometry} {direction : Direction} {part : Part}
    (h : DirectionPart source many row geometry direction part) :
    DirectionGives source row geometry direction part.withFew ∧
      DirectionGives (source.declare many) row geometry direction part.withMany := by
  cases h with
  | entry made hfew hmany => exact ⟨.entry made hfew, .entry made hmany⟩
  | skip why hfew hmany => exact ⟨.skip why hfew, .skip why hmany⟩
  | gain made trap text hook hfew hmany => exact ⟨.skip _ hfew, .entry made hmany⟩

theorem RowParts.gives {parts : List Part} (h : RowParts source many row parts) :
    RowGives source row (.concat (parts.map Part.withFew)) ∧
      RowGives (source.declare many) row (.concat (parts.map Part.withMany)) := by
  cases h with
  | special reason hreason => exact ⟨.special reason hreason, .special reason hreason⟩
  | ordinary geometry part hrow hgeometry hparts =>
    rw [List.map_map, List.map_map]
    exact ⟨.ordinary geometry _ hrow hgeometry fun direction => (hparts direction).gives.1,
      .ordinary geometry _ hrow hgeometry fun direction => (hparts direction).gives.2⟩

theorem exists_rowParts (hwithin : source.resolver.hooks.Within many) (share : Build Entry)
    (h : RowGives source row share) : ∃ parts, RowParts source many row parts := by
  cases h with
  | special reason hreason => exact ⟨_, .special reason hreason⟩
  | ordinary geometry shares hrow hgeometry =>
    choose part hpart using exists_directionPart source many hwithin row geometry
    exact ⟨_, .ordinary geometry part hrow hgeometry hpart⟩

end Parts

theorem concat_map_concat {α : Type} (build : α → Build Entry) (lists : List (List α)) :
    Build.concat (lists.map fun list => .concat (list.map build)) =
      .concat (lists.flatten.map build) := by
  induction lists with
  | nil => rfl
  | cons list rest ih =>
    simp only [Build.concat, Build.mk.injEq] at ih ⊢
    simp [ih.1, ih.2]

/-- The parts come to what is built with few hooks and to what is built with many. -/
theorem RowsHaveParts.gives {source : Source} {many : Hooks} {rows : List Row} {parts : List Part}
    (h : RowsHaveParts source many rows parts) :
    RowsGive source rows (.concat (parts.map Part.withFew)) ∧
      RowsGive (source.declare many) rows (.concat (parts.map Part.withMany)) := by
  obtain ⟨shares, hshares, rfl⟩ := h
  rw [← concat_map_concat, ← concat_map_concat]
  refine ⟨⟨_, ?_, rfl⟩, ⟨_, ?_, rfl⟩⟩
  · exact List.forall₂_map_right_iff.mpr (hshares.imp fun _ _ hparts => hparts.gives.1)
  · exact List.forall₂_map_right_iff.mpr (hshares.imp fun _ _ hparts => hparts.gives.2)

theorem exists_rowsHaveParts (source : Source) (many : Hooks)
    (hwithin : source.resolver.hooks.Within many) (rows : List Row) (build : Build Entry)
    (h : RowsGive source rows build) : ∃ parts, RowsHaveParts source many rows parts := by
  obtain ⟨shares, hshares, -⟩ := h
  have hall : ∃ lists, List.Forall₂ (RowParts source many) rows lists := by
    induction hshares with
    | nil => exact ⟨[], .nil⟩
    | cons hrow _ ih =>
      obtain ⟨parts, hparts⟩ := exists_rowParts hwithin _ hrow
      obtain ⟨lists, hlists⟩ := ih
      exact ⟨parts :: lists, .cons hparts hlists⟩
  obtain ⟨lists, hlists⟩ := hall
  exact ⟨lists.flatten, lists, hlists, rfl⟩

/-- With many hooks a part keeps its skip unless it names an added hook. -/
theorem RowParts.skipped_eq {source : Source} {many : Hooks} {row : Row} {parts : List Part}
    (h : RowParts source many row parts) :
    ∀ part ∈ parts, part.withMany.skipped = part.withFew.skipped.filter fun lost =>
      !namesAdded source.resolver.hooks many lost.reason := by
  cases h with
  | special reason hreason =>
    intro part hpart
    obtain rfl := List.mem_singleton.mp hpart
    cases hreason <;> simp [Part.withMany, Part.withFew, namesAdded]
  | ordinary geometry part hrow hgeometry hparts =>
    intro other hother
    obtain ⟨direction, -, rfl⟩ := List.mem_map.mp hother
    have hdirection := hparts direction
    generalize part direction = share at hdirection
    cases hdirection with
    | entry => rfl
    | skip why hfew hmany hkept => simp [Part.withMany, Part.withFew, hkept]
    | gain made trap text hook hfew hmany houtcome hadded =>
      simp [Part.withMany, Part.withFew, namesAdded, hadded]

theorem RowsHaveParts.skipped_eq {source : Source} {many : Hooks} {rows : List Row}
    {parts : List Part} (h : RowsHaveParts source many rows parts) :
    (Build.concat (parts.map Part.withMany)).skipped =
      (Build.concat (parts.map Part.withFew)).skipped.filter fun lost =>
        !namesAdded source.resolver.hooks many lost.reason := by
  simp only [Build.concat, List.flatMap_map, List.filter_flatMap]
  apply List.flatMap_congr
  intro part hpart
  obtain ⟨lists, hlists, rfl⟩ := h
  obtain ⟨list, hlist, hmem⟩ := List.mem_flatten.mp hpart
  obtain ⟨row, -, hrow⟩ := exists_of_forall₂ hlists list hlist
  exact hrow.skipped_eq part hmem

theorem Part.sublist (part : Part) : part.withFew.entries.Sublist part.withMany.entries := by
  cases part <;> simp [withFew, withMany]

theorem sublist_concat (parts : List Part) :
    (Build.concat (parts.map Part.withFew)).entries.Sublist
      (Build.concat (parts.map Part.withMany)).entries := by
  simp only [Build.concat, List.flatMap_map]
  exact List.Sublist.flatMap_right parts fun part _ => part.sublist

/-- Declaring more hooks leaves a fault as it is. Otherwise it keeps all entries in their order and
turns just the skips for added hooks into cases that depend on these hooks. -/
theorem more_hooks_only_add_cases (columns : Columns) (version : String)
    (conditions : Dictionary String) (few many : Hooks) (sheet : Sheet)
    (hwithin : few.Within many) :
    let source : Source := ⟨sheet.path, SpecVersion.constant version, ⟨conditions, few⟩⟩
    let outcome (hooks : Hooks) := (read columns version ⟨conditions, hooks⟩ sheet).attempt.outcome
    (∀ fault, outcome few = .error fault ↔ outcome many = .error fault) ∧
    ∀ before after, outcome few = .ok before → outcome many = .ok after →
      before.entries.Sublist after.entries ∧
      after.skipped = before.skipped.filter (fun lost => !namesAdded few many lost.reason) ∧
      ∃ rows parts, rowsOf columns sheet = .ok rows ∧ RowsHaveParts source many rows parts ∧
        before = .concat (parts.map Part.withFew) ∧
        after = .concat (parts.map Part.withMany) := by
  intro source outcome
  cases hrows : rowsOf columns sheet with
  | error fault =>
    have houtcome : ∀ hooks, outcome hooks = .error fault := by
      intro hooks
      simp only [outcome, read, hrows]
      rfl
    simp [houtcome]
  | ok rows =>
    have hread : ∀ hooks, read columns version ⟨conditions, hooks⟩ sheet =
        readAll (source.declare hooks) rows := by
      intro hooks
      simp only [read, hrows]
      rfl
    have hfault : ∀ hooks fault, outcome hooks = .error fault ↔
        IsFirstBadCell (source.declare hooks) rows fault := by
      intro hooks fault
      rw [← fault?_readAll_eq_some_iff, ← hread]
      exact Reading.outcome_attempt_eq_error_iff _ _
    have hbuild : ∀ hooks build, outcome hooks = .ok build ↔
        RowsGive (source.declare hooks) rows build := by
      intro hooks build
      rw [rowsGive_iff, ← hread]
      exact Reading.outcome_attempt_eq_ok_iff _ _
    refine ⟨fun fault => (hfault few fault).trans (hfault many fault).symm, ?_⟩
    intro before after hbefore hafter
    obtain ⟨parts, hparts⟩ :=
      exists_rowsHaveParts source many hwithin rows before ((hbuild few before).mp hbefore)
    obtain ⟨hfew, hmany⟩ := hparts.gives
    obtain rfl : before = .concat (parts.map Part.withFew) :=
      Except.ok.inj (hbefore.symm.trans ((hbuild few _).mpr hfew))
    obtain rfl : after = .concat (parts.map Part.withMany) :=
      Except.ok.inj (hafter.symm.trans ((hbuild many _).mpr hmany))
    exact ⟨sublist_concat parts, hparts.skipped_eq, rows, parts, rfl, hparts, rfl, rfl⟩

/-- The hook of the only condition is declared by the many alone, and the other direction names no
hook of either. -/
theorem more_hooks_only_add_cases_mixed :
    Hooks.Within (.ofNames ["pre_other"]) (.ofNames ["pre_other", "pre_perfmon"]) ∧
    ∃ before after : Build Entry,
      (read ⟨["Read"], ["Write"]⟩ "1.5" ⟨.ofList [("PERFMON", "pre_perfmon")],
        .ofNames ["pre_other"]⟩ (mixedSheet [])).attempt.outcome = .ok before ∧
      (read ⟨["Read"], ["Write"]⟩ "1.5" ⟨.ofList [("PERFMON", "pre_perfmon")],
        .ofNames ["pre_other", "pre_perfmon"]⟩ (mixedSheet [])).attempt.outcome = .ok after ∧
      before.entries.length = 2 ∧ after.entries.length = 3 ∧
      before.entries.Sublist after.entries ∧
      after.skipped = before.skipped.filter fun lost =>
        !namesAdded (.ofNames ["pre_other"]) (.ofNames ["pre_other", "pre_perfmon"])
          lost.reason := by
  have hwithin : Hooks.Within (.ofNames ["pre_other"]) (.ofNames ["pre_other", "pre_perfmon"]) := by
    intro hook hhook
    have hnames : hook ∈ (Hooks.ofNames ["pre_other"]).names := by
      simpa [Hooks.contains] using hhook
    obtain rfl : hook = "pre_other" := by
      rw [show (Hooks.ofNames ["pre_other"]).names = ["pre_other"] by decide +kernel] at hnames
      exact List.mem_singleton.mp hnames
    decide +kernel
  have hmore := (more_hooks_only_add_cases ⟨["Read"], ["Write"]⟩ "1.5"
    (.ofList [("PERFMON", "pre_perfmon")]) _ _ (mixedSheet []) hwithin).2 _ _ rfl rfl
  exact ⟨hwithin, _, _, rfl, rfl, rfl, rfl, hmore.1, hmore.2.1⟩

end GuestCases.Msr
