/-!
Journals and attempts. An attempt keeps the lines it logged, in order, beside its result or the
fault which ended it; what was logged before the fault stays.
-/

namespace GuestCases

inductive Level where
  | error
  | warning
  | info
  | debug
deriving DecidableEq, Repr

def Level.name : Level → String
  | .error => "ERROR"
  | .warning => "WARN"
  | .info => "INFO"
  | .debug => "DEBUG"

structure LogLine where
  level : Level
  text : String
deriving DecidableEq, Repr

def LogLine.shown (line : LogLine) : String :=
  s!"{line.level.name} {line.text}"

structure Attempt (φ α : Type) where
  log : List LogLine
  outcome : Except φ α

namespace Attempt

variable {φ ψ α β : Type}

def ofExcept (outcome : Except φ α) : Attempt φ α :=
  ⟨[], outcome⟩

def note (level : Level) (text : String) : Attempt φ Unit :=
  ⟨[⟨level, text⟩], .ok ()⟩

def bind (first : Attempt φ α) (next : α → Attempt φ β) : Attempt φ β :=
  match first.outcome with
  | .ok value => ⟨first.log ++ (next value).log, (next value).outcome⟩
  | .error fault => ⟨first.log, .error fault⟩

instance : Monad (Attempt φ) where
  pure value := ⟨[], .ok value⟩
  bind := bind

def mapFault (f : φ → ψ) (attempt : Attempt φ α) : Attempt ψ α :=
  ⟨attempt.log, attempt.outcome.mapError f⟩

@[simp] theorem outcome_ofExcept (outcome : Except φ α) : (ofExcept outcome).outcome = outcome :=
  rfl

@[simp] theorem outcome_note (level : Level) (text : String) :
    (note level text : Attempt φ Unit).outcome = .ok () :=
  rfl

@[simp] theorem outcome_pure (value : α) : (pure value : Attempt φ α).outcome = .ok value :=
  rfl

theorem outcome_mapFault (f : φ → ψ) (attempt : Attempt φ α) :
    (attempt.mapFault f).outcome = attempt.outcome.mapError f :=
  rfl

theorem outcome_bind (first : Attempt φ α) (next : α → Attempt φ β) :
    (first >>= next).outcome = first.outcome.bind fun value => (next value).outcome := by
  obtain ⟨log, outcome⟩ := first
  cases outcome <;> rfl

/-- What follows an attempt only matters for its result. -/
theorem bind_congr (first : Attempt φ α) (next other : α → Attempt φ β)
    (h : ∀ value, first.outcome = .ok value → next value = other value) :
    first >>= next = first >>= other := by
  obtain ⟨log, outcome⟩ := first
  cases outcome with
  | error fault => rfl
  | ok value => simp [Bind.bind, bind, h value rfl]

theorem map_eq_ok_iff (f : α → β) (outcome : Except φ α) (value : β) :
    outcome.map f = .ok value ↔ ∃ made, outcome = .ok made ∧ f made = value := by
  cases outcome <;> simp [Except.map]

theorem bind_eq_ok_iff (first : Except φ α) (next : α → Except φ β) (result : β) :
    first.bind next = .ok result ↔ ∃ value, first = .ok value ∧ next value = .ok result := by
  cases first <;> simp [Except.bind]

theorem mapError_eq_ok_iff (f : φ → ψ) (outcome : Except φ α) (value : α) :
    outcome.mapError f = .ok value ↔ outcome = .ok value := by
  cases outcome with
  | error fault => exact ⟨nofun, nofun⟩
  | ok found =>
    constructor
    · exact fun h => congrArg Except.ok (Except.ok.inj h)
    · exact fun h => congrArg Except.ok (Except.ok.inj h)

theorem exists_mapError_eq_error_iff (f : φ → ψ) (outcome : Except φ α) :
    (∃ fault, outcome.mapError f = .error fault) ↔ ∃ fault, outcome = .error fault := by
  cases outcome with
  | error fault => exact ⟨fun _ => ⟨fault, rfl⟩, fun _ => ⟨f fault, rfl⟩⟩
  | ok value =>
    constructor
    · rintro ⟨fault, hfault⟩
      cases hfault
    · rintro ⟨fault, hfault⟩
      cases hfault

theorem outcome_mapFault_eq_ok_iff (f : φ → ψ) (attempt : Attempt φ α) (value : α) :
    (attempt.mapFault f).outcome = .ok value ↔ attempt.outcome = .ok value :=
  mapError_eq_ok_iff f attempt.outcome value

/-- Two attempts in a row give what the second gives after the first. -/
theorem outcome_bind_eq_ok_iff (first : Attempt φ α) (next : α → Attempt φ β) (result : β) :
    (first >>= next).outcome = .ok result ↔
      ∃ value, first.outcome = .ok value ∧ (next value).outcome = .ok result := by
  obtain ⟨log, outcome⟩ := first
  cases outcome with
  | error fault => exact ⟨nofun, fun ⟨_, hvalue, _⟩ => nomatch hvalue⟩
  | ok found => simp [Bind.bind, bind]

def Fails (attempt : Attempt φ α) : Prop :=
  ∃ fault, attempt.outcome = .error fault

instance (attempt : Attempt φ α) : Decidable attempt.Fails :=
  match houtcome : attempt.outcome with
  | .error fault => isTrue ⟨fault, houtcome⟩
  | .ok value => isFalse (by simp [Fails, houtcome])

@[simp] theorem fails_ofExcept (outcome : Except φ α) :
    (ofExcept outcome).Fails ↔ ∃ fault, outcome = .error fault := Iff.rfl

@[simp] theorem not_fails_note (level : Level) (text : String) :
    ¬(note level text : Attempt φ Unit).Fails :=
  fun ⟨_, hfault⟩ => nomatch hfault

@[simp] theorem not_fails_pure (value : α) : ¬(pure value : Attempt φ α).Fails :=
  fun ⟨_, hfault⟩ => nomatch hfault

@[simp] theorem fails_mapFault (f : φ → ψ) (attempt : Attempt φ α) :
    (attempt.mapFault f).Fails ↔ attempt.Fails :=
  exists_mapError_eq_error_iff f attempt.outcome

/-- Of two attempts in a row either the first fails, or the second after the first. -/
theorem fails_bind (first : Attempt φ α) (next : α → Attempt φ β) :
    (first >>= next).Fails ↔
      first.Fails ∨ ∃ value, first.outcome = .ok value ∧ (next value).Fails := by
  obtain ⟨log, outcome⟩ := first
  cases outcome <;> simp [Bind.bind, bind, Fails]

/-- When the result of the first does not matter to the second, either of them fails. -/
theorem fails_bind_of_iff (first : Attempt φ α) (next : α → Attempt φ β) (second : Prop)
    (h : ∀ value, (next value).Fails ↔ second) :
    (first >>= next).Fails ↔ first.Fails ∨ second := by
  rw [fails_bind, Fails]
  cases first.outcome <;> simp [h]

end Attempt

end GuestCases
