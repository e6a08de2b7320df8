import GuestCases.Cpuid.LeafGroup
import GuestCases.Journal
import GuestCases.Msr.Description
import GuestCases.Sheet
import GuestCases.Text.Characters

/-!
What the rows of a sheet give. Reading a row yields events: entries, skips of what has no case,
and remarks on what a reader of the journal should see. A fault ends the reading; the events
before it stay. Entries carry the version of the specification that their source states.
-/

namespace GuestCases.SpecVersion

def constant (version : String) : String :=
  let cs := Text.trimChars version.toList
  if ['V', 'E', 'R'].isPrefixOf cs then String.ofList cs
  else String.ofList (['V', 'E', 'R'] ++ cs.map fun c => if c = '.' then '_' else c)

end GuestCases.SpecVersion

namespace GuestCases

inductive SkipReason where
  | blank
  | notFixed (virtualization : String)
  | noLeaf
  | malformedLeaf (fault : Cpuid.LeafFault)
  | noExpectedValue
  | reserved
  | default
  | unresolved (direction : Msr.Direction) (why : Msr.Unresolved)
deriving DecidableEq, Repr

def SkipReason.message : SkipReason → String
  | .blank => "blank row"
  | .notFixed virtualization => s!"virtualization type '{virtualization}' is not generated"
  | .noLeaf => "bit-field row outside any leaf group"
  | .malformedLeaf fault => s!"malformed leaf header: {fault.message}"
  | .noExpectedValue => "fixed field without expected value"
  | .reserved => "reserved MSR"
  | .default => "default MSR behaviour row"
  | .unresolved direction why => s!"{direction.text}: {why.message}"

structure Skip where
  source : String
  line : Nat
  reason : SkipReason
deriving DecidableEq, Repr

def Skip.message (skip : Skip) : String :=
  s!"{skip.source}:{skip.line}: skipped: {skip.reason.message}"

inductive RemarkText where
  | malformedHeader (name : String) (fault : Cpuid.LeafFault)
  | valueMissing (name : String)
  | dropping (direction : Msr.Direction) (why : Msr.Unresolved)
deriving DecidableEq, Repr

def RemarkText.message : RemarkText → String
  | .malformedHeader name fault => s!"malformed leaf header '{name}': {fault.message}"
  | .valueMissing name => s!"fixed field '{name}' has no expected value"
  | .dropping direction why => s!"dropping {direction.text} case: {why.message}"

structure Remark where
  level : Level
  source : String
  line : Nat
  text : RemarkText
deriving DecidableEq, Repr

def Remark.message (remark : Remark) : String :=
  s!"{remark.source}:{remark.line}: {remark.text.message}"

inductive Event (ε : Type) where
  | entry (entry : ε)
  | skip (skip : Skip)
  | remark (remark : Remark)
deriving DecidableEq, Repr

namespace Event

variable {ε : Type}

def asCase? : Event ε → Option ε
  | .entry made => some made
  | _ => none

def asSkip? : Event ε → Option Skip
  | .skip lost => some lost
  | _ => none

def logLine? : Event ε → Option LogLine
  | .entry _ => none
  | .skip lost => some ⟨.debug, lost.message⟩
  | .remark said => some ⟨said.level, said.message⟩

end Event

structure Build (ε : Type) where
  entries : List ε
  skipped : List Skip
deriving DecidableEq, Repr

/-- The events of the rows that were read, and the fault that ended the reading, if any. -/
structure Reading (ε : Type) where
  events : List (Event ε)
  fault? : Option SheetFault
deriving DecidableEq, Repr

namespace Reading

variable {ε : Type}

def built (reading : Reading ε) : Build ε :=
  ⟨reading.events.filterMap Event.asCase?, reading.events.filterMap Event.asSkip?⟩

def log (reading : Reading ε) : List LogLine :=
  reading.events.filterMap Event.logLine?

/-- The reading as an attempt: a fault leaves nothing built. -/
def attempt (reading : Reading ε) : Attempt SheetFault (Build ε) :=
  match reading.fault? with
  | none => ⟨reading.log, .ok reading.built⟩
  | some fault => ⟨reading.log, .error fault⟩

theorem outcome_attempt_eq_ok_iff (reading : Reading ε) (build : Build ε) :
    reading.attempt.outcome = .ok build ↔ reading.fault? = none ∧ reading.built = build := by
  unfold attempt
  cases reading.fault? <;> simp

theorem outcome_attempt_eq_error_iff (reading : Reading ε) (fault : SheetFault) :
    reading.attempt.outcome = .error fault ↔ reading.fault? = some fault := by
  unfold attempt
  cases reading.fault? <;> simp

end Reading

def readRows {σ ρ ε : Type} (read : σ → ρ → Except SheetFault (σ × List (Event ε)))
    (state : σ) : List ρ → Reading ε
  | [] => ⟨[], none⟩
  | row :: rest =>
    match read state row with
    | .error fault => ⟨[], some fault⟩
    | .ok (next, events) =>
      let after := readRows read next rest
      ⟨events ++ after.events, after.fault?⟩

/-- A reading without a fault reads its first row and then the others. -/
theorem exists_of_readRows_cons {σ ρ ε : Type}
    (read : σ → ρ → Except SheetFault (σ × List (Event ε))) (state : σ) (row : ρ) (rest : List ρ)
    (h : (readRows read state (row :: rest)).fault? = none) :
    ∃ next events, read state row = .ok (next, events) ∧
      (readRows read next rest).fault? = none ∧
      (readRows read state (row :: rest)).events = events ++ (readRows read next rest).events := by
  cases hread : read state row with
  | error fault => simp [readRows, hread] at h
  | ok made =>
    obtain ⟨next, events⟩ := made
    simp only [readRows, hread] at h ⊢
    exact ⟨next, events, rfl, h, rfl⟩

/-- What every row keeps of the state and has in its events holds of all events of a reading. -/
theorem forall_events_readRows {σ ρ ε : Type}
    (read : σ → ρ → Except SheetFault (σ × List (Event ε))) (Keeps : σ → Prop)
    (Gives : Event ε → Prop) (rows : List ρ)
    (hrow : ∀ row ∈ rows, ∀ state next events, Keeps state → read state row = .ok (next, events) →
      Keeps next ∧ ∀ event ∈ events, Gives event)
    (state : σ) (h : Keeps state) : ∀ event ∈ (readRows read state rows).events, Gives event := by
  induction rows generalizing state with
  | nil => simp [readRows]
  | cons row rest ih =>
    obtain ⟨hfirst, hrest⟩ := List.forall_mem_cons.mp hrow
    cases hread : read state row with
    | error fault => simp [readRows, hread]
    | ok made =>
      obtain ⟨next, events⟩ := made
      obtain ⟨hnext, hevents⟩ := hfirst state next events h hread
      simp only [readRows, hread, List.forall_mem_append]
      exact ⟨hevents, ih hrest next hnext⟩

end GuestCases
