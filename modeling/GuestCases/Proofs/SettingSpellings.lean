import GuestCases.Pass
import GuestCases.Proofs.RowCounts
import GuestCases.Proofs.SectionFields

/-!
Settings that are spelled in different ways. A column may be named alone or in a list, a number of
rows be given as a number or as a text, and so on; neither such a choice nor the order of the keys
changes a section, and what is generated from it stays the same. A number of rows that is negative
or too large, or is written with a point or an exponent, makes its section invalid.
-/

namespace GuestCases

namespace Settings

def sourceFields : Kind → List String
  | .cpuid => ["csv_path", "bias", "fname", "vtype", "vdetail", "version"]
  | .msr => ["csv_path", "bias", "rdname", "wrname", "version"]

def sectionFields : Kind → List String
  | .cpuid => ["header_path", "sources"]
  | .msr => ["header_path", "prepath", "precondition_header", "sources"]

def columnKeys : Kind → List String
  | .cpuid => ["vtype", "vdetail"]
  | .msr => ["rdname", "rdnmae", "wrname"]

def defaultFields : Kind → List (String × Json)
  | .cpuid => [("bias", .number (.natural 0)), ("fname", .text "Field Name"),
      ("version", .text "1.0")]
  | .msr => [("bias", .number (.natural 0)), ("version", .text "1.0")]

inductive FieldRespells (kind : Kind) : String × Json → String × Json → Prop where
  /-- One column name is the list of it alone. -/
  | listed {key : String} (h : key ∈ columnKeys kind) (name : String) :
    FieldRespells kind (key, .text name) (key, .array [.text name])
  /-- A number of rows may stand in a text. -/
  | counted {count : Nat} {text : String} (h : WritesCount text count) :
    FieldRespells kind ("bias", .number (.natural count)) ("bias", .text text)
  /-- The read column has a second key. -/
  | renamed (h : kind = .msr) (value : Json) :
    FieldRespells kind ("rdname", value) ("rdnmae", value)
  /-- A version may be the text of its number. -/
  | printed (number : Json.Number) :
    FieldRespells kind ("version", .number number) ("version", .text number.text)

inductive SourceRespells (kind : Kind) : List (String × Json) → List (String × Json) → Prop where
  | reordered {fields others : List (String × Json)} (h : fields.Perm others) :
    SourceRespells kind fields others
  | field {field other : String × Json} (h : FieldRespells kind field other)
    (rest : List (String × Json)) : SourceRespells kind (field :: rest) (other :: rest)
  /-- A default may be left out. -/
  | omitted {field : String × Json} {rest : List (String × Json)} (h : field ∈ defaultFields kind)
    (hrest : ∀ other ∈ rest, other.1 ≠ field.1) : SourceRespells kind (field :: rest) rest
  /-- A key that a source of the kind does not have may be left out. -/
  | unknown {field : String × Json} (h : field.1 ∉ sourceFields kind)
    (hrenamed : kind = .msr → field.1 ≠ "rdnmae") (rest : List (String × Json)) :
    SourceRespells kind (field :: rest) rest

/-- A source and what may stand in its place: itself, or when it is an object, what it becomes by
respelling its fields any number of times, forth and back. -/
inductive SourceRespelled (kind : Kind) : Json → Json → Prop where
  | same (source : Json) : SourceRespelled kind source source
  | object {fields others : List (String × Json)}
    (h : Relation.EqvGen (SourceRespells kind) fields others) :
    SourceRespelled kind (.object fields) (.object others)

inductive SectionRespells (kind : Kind) : List (String × Json) → List (String × Json) → Prop where
  | reordered {fields others : List (String × Json)} (h : fields.Perm others) :
    SectionRespells kind fields others
  | sources {items others : List Json} (h : List.Forall₂ (SourceRespelled kind) items others)
    (rest : List (String × Json)) :
    SectionRespells kind (("sources", .array items) :: rest) (("sources", .array others) :: rest)
  /-- A key that the section does not have may be left out. -/
  | unknown {field : String × Json} (h : field.1 ∉ sectionFields kind)
    (rest : List (String × Json)) : SectionRespells kind (field :: rest) rest

/-- The other settings have the same sections or, where these are objects, other spellings of
them, and see paths from the same directory. -/
structure RespelledAs (settings other : Settings) : Prop where
  directory : other.directory = settings.directory
  sections : ∀ kind : Kind,
    other.sections.lookup kind.key = settings.sections.lookup kind.key ∨
    ∃ fields others, settings.sections.lookup kind.key = some (.object fields) ∧
      other.sections.lookup kind.key = some (.object others) ∧
      Relation.EqvGen (SectionRespells kind) fields others

def HasBadBias (settings : Settings) (kind : Kind) : Prop :=
  ∃ json items source bias, settings.sections.lookup kind.key = some json ∧
    HoldsField (sectionFields kind) "sources" (.array items) json ∧ source ∈ items ∧
    HoldsField (sourceFields kind) "bias" bias source ∧ IsBadBias bias

def faultOf? {φ α : Type} : Except φ α → Option φ
  | .ok _ => none
  | .error fault => some fault

def sectionFault? (settings : Settings) : Kind → Option Fault
  | .cpuid => faultOf? settings.cpuid
  | .msr => faultOf? settings.msr

theorem faultOf?_eq_none_iff {φ α : Type} (outcome : Except φ α) :
    faultOf? outcome = none ↔ ∃ value, outcome = .ok value := by
  cases outcome <;> simp [faultOf?]

theorem faultOf?_eq_some_iff {φ α : Type} (outcome : Except φ α) (fault : φ) :
    faultOf? outcome = some fault ↔ outcome = .error fault := by
  cases outcome <;> simp [faultOf?]

section Alike

variable {π ρ : Type} {shape : Shape π ρ} {slots : List (Slot π ρ)} {kind : Kind}

structure ReadsSources (kind : Kind) (shape : Shape π ρ) (slots : List (Slot π ρ)) : Prop where
  made : shape.IsMadeOf slots
  sameField : ∀ field other, FieldRespells kind field other → shape.SameField slots field other
  isDefault : ∀ field ∈ defaultFields kind, shape.IsDefault slots field
  eq_of_declared? : ∀ field ∈ defaultFields kind, ∀ key,
    shape.declared? key = shape.declared? field.1 → key = field.1
  unknown : ∀ key, key ∉ sourceFields kind → (kind = .msr → key ≠ "rdnmae") →
    shape.declared? key = none

theorem ReadsSources.alike (h : ReadsSources kind shape slots) {source other : Json}
    (hsource : SourceRespelled kind source other) : Alike shape.decode source other := by
  cases hsource with
  | same => exact .refl _ _
  | object hfields =>
    refine alike_of_eqvGen Json.object (fun fields others hstep => ?_) hfields
    cases hstep with
    | reordered hperm => exact h.made.alike_of_perm hperm
    | field hfield rest => exact h.made.alike_cons_of_sameField (h.sameField _ _ hfield) rest
    | omitted hfield hrest =>
      exact h.made.alike_cons_of_isDefault (h.isDefault _ hfield) fun other hother heq =>
        hrest other hother (h.eq_of_declared? _ hfield _ heq)
    | unknown hkey hrenamed rest =>
      exact Shape.alike_cons_of_unknown (h.unknown _ hkey hrenamed) _

end Alike

theorem msrSource_declared? (key : String) (h : key ≠ "rdnmae") :
    msrSource.declared? key = if key ∈ sourceFields .msr then some key else none :=
  msrSource.declared?_of_lookup_eq_none (by simp [msrSource, h])

theorem cpuidSource_eq_of_declared? {key name : String}
    (h : cpuidSource.declared? key = some name) : key = name := by
  rw [cpuidSource.declared?_of_lookup_eq_none rfl, Option.ite_none_right_eq_some] at h
  exact Option.some.inj h.2

theorem msrSource_eq_of_declared? {key name : String} (h : msrSource.declared? key = some name)
    (hname : name ≠ "rdname") : key = name := by
  by_cases hkey : key = "rdnmae"
  · subst hkey
    exact absurd (Option.some.inj h).symm hname
  · rw [msrSource_declared? key hkey, Option.ite_none_right_eq_some] at h
    exact Option.some.inj h.2

/-- One column name and the list of it alone are alike. -/
theorem alike_listed (name : String) :
    Alike Decoder.candidates (.text name) (.array [.text name]) :=
  fun _ => Iff.rfl

/-- A number and its text are alike. -/
theorem alike_printed (number : Json.Number) :
    Alike Decoder.numberOrText (.number number) (.text number.text) :=
  fun _ => Iff.rfl

/-- A number of rows and its text are alike. -/
theorem alike_counted {text : String} {count : Nat} (h : WritesCount text count) :
    Alike Decoder.rowCount (.number (.natural count)) (.text text) :=
  alike_of_writesCount (writesCount_repr count) h

theorem cpuidSource_readsSources : ReadsSources .cpuid cpuidSource cpuidSourceSlots where
  made := cpuidSource_isMadeOf
  sameField := by
    intro field other h
    cases h with
    | listed hkey name =>
      simp only [columnKeys, List.mem_cons, List.not_mem_nil, or_false] at hkey
      rcases hkey with rfl | rfl
      · exact ⟨_, mem_of_slotNamed? "vtype" rfl, rfl, rfl, alike_listed name⟩
      · exact ⟨_, mem_of_slotNamed? "vdetail" rfl, rfl, rfl, alike_listed name⟩
    | counted hcount => exact ⟨_, mem_of_slotNamed? "bias" rfl, rfl, rfl, alike_counted hcount⟩
    | renamed hkind => cases hkind
    | printed number => exact ⟨_, mem_of_slotNamed? "version" rfl, rfl, rfl, alike_printed number⟩
  isDefault := by
    intro field hfield
    simp only [defaultFields, List.mem_cons, List.not_mem_nil, or_false] at hfield
    rcases hfield with rfl | rfl | rfl
    · exact ⟨_, mem_of_slotNamed? "bias" rfl, rfl, 0, rfl, rfl⟩
    · exact ⟨_, mem_of_slotNamed? "fname" rfl, rfl, _, rfl, rfl⟩
    · exact ⟨_, mem_of_slotNamed? "version" rfl, rfl, _, rfl, rfl⟩
  eq_of_declared? := by
    intro field hfield key heq
    simp only [defaultFields, List.mem_cons, List.not_mem_nil, or_false] at hfield
    rcases hfield with rfl | rfl | rfl <;> exact cpuidSource_eq_of_declared? heq
  unknown := by
    intro key hkey _
    rw [cpuidSource.declared?_of_lookup_eq_none rfl]
    exact if_neg hkey

theorem msrSource_readsSources : ReadsSources .msr msrSource msrSourceSlots where
  made := msrSource_isMadeOf
  sameField := by
    intro field other h
    cases h with
    | listed hkey name =>
      simp only [columnKeys, List.mem_cons, List.not_mem_nil, or_false] at hkey
      rcases hkey with rfl | rfl | rfl
      · exact ⟨_, mem_of_slotNamed? "rdname" rfl, rfl, rfl, alike_listed name⟩
      · exact ⟨_, mem_of_slotNamed? "rdname" rfl, rfl, rfl, alike_listed name⟩
      · exact ⟨_, mem_of_slotNamed? "wrname" rfl, rfl, rfl, alike_listed name⟩
    | counted hcount => exact ⟨_, mem_of_slotNamed? "bias" rfl, rfl, rfl, alike_counted hcount⟩
    | renamed _ value => exact ⟨_, mem_of_slotNamed? "rdname" rfl, rfl, rfl, .refl _ value⟩
    | printed number => exact ⟨_, mem_of_slotNamed? "version" rfl, rfl, rfl, alike_printed number⟩
  isDefault := by
    intro field hfield
    simp only [defaultFields, List.mem_cons, List.not_mem_nil, or_false] at hfield
    rcases hfield with rfl | rfl
    · exact ⟨_, mem_of_slotNamed? "bias" rfl, rfl, 0, rfl, rfl⟩
    · exact ⟨_, mem_of_slotNamed? "version" rfl, rfl, _, rfl, rfl⟩
  eq_of_declared? := by
    intro field hfield key heq
    simp only [defaultFields, List.mem_cons, List.not_mem_nil, or_false] at hfield
    rcases hfield with rfl | rfl <;> exact msrSource_eq_of_declared? heq (by decide)
  unknown := by
    intro key hkey hrenamed
    rw [msrSource_declared? key (hrenamed rfl), if_neg hkey]

section Sections

variable {π ρ : Type} {shape : Shape π ρ} {slots : List (Slot π ρ)} {kind : Kind}

/-- What a section is decoded to does not change when it is spelled in another way. -/
theorem alike_of_sectionRespells (hmade : shape.IsMadeOf slots)
    (hsources : ∀ items others, List.Forall₂ (SourceRespelled kind) items others →
      shape.SameField slots ("sources", .array items) ("sources", .array others))
    (hunknown : ∀ key, key ∉ sectionFields kind → shape.declared? key = none)
    {fields others : List (String × Json)}
    (h : Relation.EqvGen (SectionRespells kind) fields others) :
    Alike shape.decode (.object fields) (.object others) := by
  refine alike_of_eqvGen Json.object (fun fields others hstep => ?_) h
  cases hstep with
  | reordered hperm => exact hmade.alike_of_perm hperm
  | sources hitems rest => exact hmade.alike_cons_of_sameField (hsources _ _ hitems) rest
  | unknown hkey rest => exact Shape.alike_cons_of_unknown (hunknown _ hkey) _

end Sections

theorem alike_cpuidSection {fields others : List (String × Json)}
    (h : Relation.EqvGen (SectionRespells .cpuid) fields others) :
    Alike cpuidSection.decode (.object fields) (.object others) := by
  refine alike_of_sectionRespells cpuidSection_isMadeOf (fun items others hitems => ?_)
    (fun key hkey => ?_) h
  · exact ⟨_, mem_of_slotNamed? "sources" rfl, rfl, rfl,
      alike_list (hitems.imp fun _ _ => cpuidSource_readsSources.alike)⟩
  · rw [cpuidSection.declared?_of_lookup_eq_none rfl]
    exact if_neg hkey

theorem alike_msrSection {fields others : List (String × Json)}
    (h : Relation.EqvGen (SectionRespells .msr) fields others) :
    Alike msrSection.decode (.object fields) (.object others) := by
  refine alike_of_sectionRespells msrSection_isMadeOf (fun items others hitems => ?_)
    (fun key hkey => ?_) h
  · exact ⟨_, mem_of_slotNamed? "sources" rfl, rfl, rfl,
      alike_list (hitems.imp fun _ _ => msrSource_readsSources.alike)⟩
  · rw [msrSection.declared?_of_lookup_eq_none rfl]
    exact if_neg hkey

theorem section?_eq_ok_iff {α : Type} (settings : Settings) (kind : Kind) (decode : Decoder α)
    (decoded : α) : settings.section? kind decode = .ok decoded ↔
      ∃ value, settings.sections.lookup kind.key = some value ∧ decode value = .ok decoded := by
  unfold section?
  cases settings.sections.lookup kind.key with
  | none => simp
  | some value => simp [Attempt.mapError_eq_ok_iff]

/-- The other settings give a section that is decoded to the same. -/
theorem RespelledAs.section?_eq_ok_iff {α : Type} {settings other : Settings}
    (h : settings.RespelledAs other) {kind : Kind} {decode : Decoder α}
    (halike : ∀ fields others, Relation.EqvGen (SectionRespells kind) fields others →
      Alike decode (.object fields) (.object others)) (decoded : α) :
    settings.section? kind decode = .ok decoded ↔ other.section? kind decode = .ok decoded := by
  rw [Settings.section?_eq_ok_iff, Settings.section?_eq_ok_iff]
  rcases h.sections kind with hsame | ⟨fields, others, hfields, hothers, hrespells⟩
  · rw [hsame]
  · simp [hfields, hothers, halike fields others hrespells decoded]

theorem bind_eq_ok_congr {α β φ : Type} {first second : Except φ α} (next : α → Except φ β)
    (h : ∀ value, first = .ok value ↔ second = .ok value) (result : β) :
    first.bind next = .ok result ↔ second.bind next = .ok result := by
  simp only [Attempt.bind_eq_ok_iff, h]

theorem RespelledAs.resolve_eq {settings other : Settings} (h : settings.RespelledAs other) :
    other.resolve = settings.resolve := by
  funext path
  rw [resolve, resolve, h.directory]

theorem RespelledAs.cpuid_eq_ok_iff {settings other : Settings} (h : settings.RespelledAs other)
    (cpuid : CpuidSection) : settings.cpuid = .ok cpuid ↔ other.cpuid = .ok cpuid := by
  unfold Settings.cpuid
  rw [h.resolve_eq]
  exact bind_eq_ok_congr _ (h.section?_eq_ok_iff fun _ _ => alike_cpuidSection) cpuid

theorem RespelledAs.msr_eq_ok_iff {settings other : Settings} (h : settings.RespelledAs other)
    (msr : MsrSection) : settings.msr = .ok msr ↔ other.msr = .ok msr := by
  unfold Settings.msr
  rw [h.resolve_eq]
  exact bind_eq_ok_congr _ (h.section?_eq_ok_iff fun _ _ => alike_msrSection) msr

theorem RespelledAs.generate_eq {settings other : Settings} (h : settings.RespelledAs other)
    (kind : Kind) (hdecodes : settings.sectionFault? kind = none) (files : Files.Tree) :
    generate kind other files = generate kind settings files := by
  cases kind with
  | cpuid =>
    obtain ⟨cpuid, hcpuid⟩ := (faultOf?_eq_none_iff settings.cpuid).mp hdecodes
    simp only [generate, Cpuid.collectSection, hcpuid, (h.cpuid_eq_ok_iff cpuid).mp hcpuid]
  | msr =>
    obtain ⟨msr, hmsr⟩ := (faultOf?_eq_none_iff settings.msr).mp hdecodes
    simp only [generate, Msr.collectSection, hmsr, (h.msr_eq_ok_iff msr).mp hmsr]

theorem run_congr {settings other : Settings} (write : Bool) (files : Files.Tree)
    (kinds : List Kind) (h : ∀ kind ∈ kinds, ∀ files,
      generate kind other files = generate kind settings files) :
    run other write files kinds = run settings write files kinds := by
  induction kinds generalizing files with
  | nil => rfl
  | cons kind rest ih =>
    obtain ⟨hkind, hrest⟩ := List.forall_mem_cons.mp h
    have hpass : pass other write files kind = pass settings write files kind := by
      rw [pass, pass, hkind files]
    simp only [run, hpass, ih _ hrest]

/-- A list with an item that cannot be decoded cannot be either. -/
theorem list_ne_ok {α : Type} {decode : Decoder α} {items : List Json} {item : Json}
    (hitem : item ∈ items) (h : ∀ decoded, decode item ≠ .ok decoded) (decoded : List α) :
    Decoder.list decode (.array items) ≠ .ok decoded := by
  rw [ne_eq, list_eq_ok_iff]
  intro hall
  obtain ⟨value, -, hvalue⟩ := exists_of_forall₂ (List.Forall₂.flip hall) item hitem
  exact h value hvalue

/-- A section that cannot be decoded is invalid. -/
theorem exists_section?_eq_error {α : Type} {settings : Settings} {kind : Kind}
    {decode : Decoder α} {json : Json} (hlookup : settings.sections.lookup kind.key = some json)
    (h : ∀ decoded, decode json ≠ .ok decoded) :
    ∃ fault, settings.section? kind decode = .error (.invalidSection kind fault) := by
  cases hdecode : decode json with
  | ok decoded => exact absurd hdecode (h decoded)
  | error fault => exact ⟨fault, by simp [section?, hlookup, hdecode, Except.mapError]⟩

theorem HasBadBias.exists_sectionFault? {settings : Settings} {kind : Kind}
    (h : settings.HasBadBias kind) :
    ∃ fault, settings.sectionFault? kind = some (.invalidSection kind fault) := by
  obtain ⟨json, items, source, bias, hlookup, hitems, hsource, hbias, hbad⟩ := h
  cases kind with
  | cpuid =>
    have hsourceBad := cpuidSource_isMadeOf.decode_ne_ok (mem_of_slotNamed? "bias" rfl) rfl hbias
      (rowCount_ne_ok_of_isBadBias hbad)
    have hsectionBad := cpuidSection_isMadeOf.decode_ne_ok (mem_of_slotNamed? "sources" rfl) rfl
      hitems (list_ne_ok hsource hsourceBad)
    obtain ⟨fault, hfault⟩ := exists_section?_eq_error hlookup hsectionBad
    exact ⟨fault, by simp [sectionFault?, faultOf?, cpuid, hfault, bind, Except.bind]⟩
  | msr =>
    have hsourceBad := msrSource_isMadeOf.decode_ne_ok (mem_of_slotNamed? "bias" rfl) rfl hbias
      (rowCount_ne_ok_of_isBadBias hbad)
    have hsectionBad := msrSection_isMadeOf.decode_ne_ok (mem_of_slotNamed? "sources" rfl) rfl
      hitems (list_ne_ok hsource hsourceBad)
    obtain ⟨fault, hfault⟩ := exists_section?_eq_error hlookup hsectionBad
    exact ⟨fault, by simp [sectionFault?, faultOf?, msr, hfault, bind, Except.bind]⟩

/-- Nothing is generated from a section with a fault. -/
theorem outcome_generate_of_sectionFault? {settings : Settings} {kind : Kind} {fault : Fault}
    (h : settings.sectionFault? kind = some fault) (files : Files.Tree) :
    (generate kind settings files).outcome = .error (.settings fault) := by
  cases kind with
  | cpuid =>
    have hcpuid := (faultOf?_eq_some_iff settings.cpuid fault).mp h
    simp [generate, Cpuid.collectSection, Attempt.outcome_bind, Attempt.outcome_mapFault, hcpuid,
      Except.mapError, Except.bind]
  | msr =>
    have hmsr := (faultOf?_eq_some_iff settings.msr fault).mp h
    simp [generate, Msr.collectSection, Attempt.outcome_bind, Attempt.outcome_mapFault, hmsr,
      Except.mapError, Except.bind]

/-- Another spelling of the settings is decoded to the same sections, from which the same is
generated and run. A bad number of rows makes its section invalid. -/
theorem spellings_decode_alike (settings : Settings) :
    (∀ other, settings.RespelledAs other →
      (∀ cpuid, settings.cpuid = .ok cpuid ↔ other.cpuid = .ok cpuid) ∧
      (∀ msr, settings.msr = .ok msr ↔ other.msr = .ok msr) ∧
      (∀ kind, settings.sectionFault? kind = none → ∀ files,
        generate kind other files = generate kind settings files) ∧
      ∀ kinds, (∀ kind ∈ kinds, settings.sectionFault? kind = none) → ∀ write files,
        run other write files kinds = run settings write files kinds) ∧
    ∀ kind, settings.HasBadBias kind → ∃ fault,
      settings.sectionFault? kind = some (.invalidSection kind fault) ∧
      ∀ files, (generate kind settings files).outcome =
        .error (.settings (.invalidSection kind fault)) := by
  refine ⟨fun other h => ⟨h.cpuid_eq_ok_iff, h.msr_eq_ok_iff, h.generate_eq,
    fun kinds hdecode write files => run_congr write files kinds fun kind hkind =>
      h.generate_eq kind (hdecode kind hkind)⟩, fun kind hbad => ?_⟩
  obtain ⟨fault, hfault⟩ := hbad.exists_sectionFault?
  exact ⟨fault, hfault, outcome_generate_of_sectionFault? hfault⟩

def pathFields : List (String × Json) :=
  [("header_path", .text "msr.h"), ("precondition_header", .text "hooks.h")]

def settingsWith (source : List (String × Json)) : Settings where
  path := "run.json"
  directory := ""
  sections := [("msr", .object (pathFields ++ [("sources", .array [.object source])]))]

def plainSource : List (String × Json) :=
  [("csv_path", .text "msr.csv"), ("rdname", .text "Read"), ("wrname", .text "Write")]

/-- The same source with its default bias in a text, and with the other key and a list for the
column that is read. -/
def respelledSource : List (String × Json) :=
  [("bias", .text "+00 "), ("csv_path", .text "msr.csv"), ("rdnmae", .array [.text "Read"]),
    ("wrname", .text "Write")]

theorem eqvGen_plainSource :
    Relation.EqvGen (SourceRespells .msr) plainSource respelledSource := by
  have hzero : WritesCount "+00 " 0 :=
    ⟨[], ['+'], 1, [' '], by decide, by simp, .inr rfl, List.forall_mem_singleton.mpr rfl⟩
  refine .trans _ _ _ (.rel _ _ (.reordered (.swap _ _ _))) ?_
  refine .trans _ _ _ (.rel _ _ (.field (.listed (by decide) "Read") _)) ?_
  refine .trans _ _ _ (.rel _ _ (.field (.renamed rfl _) _)) ?_
  refine .trans _ _ _ (.rel _ _ (.reordered (.swap _ _ _))) ?_
  refine .trans _ _ _ (.symm _ _ (.rel _ _ (.omitted List.mem_cons_self ?_))) ?_
  · simp
  · exact .rel _ _ (.field (.counted hzero) _)

theorem respelledAs_settingsWith {source other : List (String × Json)}
    (h : Relation.EqvGen (SourceRespells .msr) source other) :
    (settingsWith source).RespelledAs (settingsWith other) where
  directory := rfl
  sections := by
    rintro (_ | _)
    · exact .inl rfl
    · refine .inr ⟨_, _, rfl, rfl, ?_⟩
      have hfirst : ∀ sources : String × Json, Relation.EqvGen (SectionRespells .msr)
          (pathFields ++ [sources]) (sources :: pathFields) := fun sources =>
        .rel _ _ (.reordered (List.perm_append_singleton sources pathFields))
      exact .trans _ _ _ (hfirst _) <|
        .trans _ _ _ (.rel _ _ (.sources (.cons (.object h) .nil) _)) (.symm _ _ (hfirst _))

theorem spellings_decode_alike_msr :
    (settingsWith plainSource).RespelledAs (settingsWith respelledSource) ∧
    (settingsWith plainSource).sectionFault? .msr = none ∧
    (∀ files, generate .msr (settingsWith respelledSource) files =
      generate .msr (settingsWith plainSource) files) ∧
    (∀ files, run (settingsWith respelledSource) true files [.msr] =
      run (settingsWith plainSource) true files [.msr]) ∧
    (settingsWith (("bias", .number (.negative 1)) :: plainSource)).HasBadBias .msr ∧
    ∃ fault, (settingsWith (("bias", .number (.negative 1)) :: plainSource)).sectionFault? .msr =
      some (.invalidSection .msr fault) ∧
      ∀ files, (generate .msr (settingsWith (("bias", .number (.negative 1)) :: plainSource))
        files).outcome = .error (.settings (.invalidSection .msr fault)) := by
  have hrespelled := respelledAs_settingsWith eqvGen_plainSource
  have hdecodes : (settingsWith plainSource).sectionFault? .msr = none := by decide +kernel
  obtain ⟨hsame, -⟩ := spellings_decode_alike (settingsWith plainSource)
  obtain ⟨-, -, hgenerate, hrun⟩ := hsame _ hrespelled
  have hminus : Json.Number.ofChars? ['-', '1'] = some (.negative 1) := by decide
  have hbad : (settingsWith (("bias", .number (.negative 1)) :: plainSource)).HasBadBias .msr :=
    ⟨_, _, _, _, rfl, .named (List.mem_append_right _ List.mem_cons_self), List.mem_cons_self,
      .named List.mem_cons_self, .number hminus (.inl ⟨'-', by decide, by decide⟩)⟩
  exact ⟨hrespelled, hdecodes, hgenerate .msr hdecodes,
    hrun [.msr] (by simpa using hdecodes) true, hbad,
    (spellings_decode_alike _).2 .msr hbad⟩

end Settings

end GuestCases
