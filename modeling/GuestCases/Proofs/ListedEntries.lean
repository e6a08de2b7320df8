import GuestCases.Command.Run
import GuestCases.Proofs.HeaderLines
import GuestCases.Proofs.PrintedJson

/-!
Dumped entries read back. Each entry is an object with a field for each of its parts, so a reader
that looks the fields up by their names gets the entry again. The integers of CPUID entries that
come from sheets fit 32 bits, so their texts read back as well, and a dump determines the entries
it lists.
-/

namespace GuestCases

namespace Json

def field? (value : Json) (key : String) : Option Json :=
  match value with
  | .object fields => fields.lookup key
  | _ => none

def text? : Json → Option String
  | .text value => some value
  | _ => none

def integer? : Json → Option Int
  | .number (.natural value) => some value
  | .number (.negative distance) => some (-distance)
  | _ => none

def items? : Json → Option (List Json)
  | .array items => some items
  | _ => none

def textField? (value : Json) (key : String) : Option String :=
  (value.field? key).bind text?

def integerField? (value : Json) (key : String) : Option Int :=
  (value.field? key).bind integer?

/-- Of several fields with one key the last one is found. -/
theorem field?_inOrder (fields : List (String × Json)) (key : String) :
    (Json.object fields).inOrder.field? key = (fieldsInOrder fields).reverse.lookup key :=
  Dictionary.find?_ofList _ key

theorem inOrder_text (value : String) : (Json.text value).inOrder = .text value := by
  rw [inOrder]

theorem inOrder_ofInt (value : Int) : (ofInt value).inOrder = ofInt value := by
  unfold ofInt
  split <;> rfl

theorem integer?_ofInt (value : Int) : (ofInt value).integer? = some value := by
  unfold ofInt
  split <;> simp only [integer?, Option.some.injEq] <;> omega

theorem readable_ofInt (room : Nat) (value : Int) (hlow : -0x8000000000000000 ≤ value)
    (hhigh : value < Numeral.wordBound) : Readable room (ofInt value) := by
  unfold ofInt
  split
  · exact .number room (Number.ofChars?_negative _ (by omega) (by omega))
  · exact .number room (Number.ofChars?_natural _ (by omega))

end Json

structure IsInt32 (value : Int) : Prop where
  low : -0x80000000 ≤ value
  high : value < 0x80000000

theorem IsInt32.readable {value : Int} (h : IsInt32 value) (room : Nat) :
    Json.Readable room (.ofInt value) := by
  obtain ⟨hlow, hhigh⟩ := h
  have hbound : (0x80000000 : Int) ≤ Numeral.wordBound := by decide
  exact Json.readable_ofInt room value (by omega) (by omega)

def listedEntries? {ε : Type} (ofJson? : Json → Option ε) (output : String) : Option (List ε) :=
  ((Json.ofText? output).bind Json.items?).bind (List.mapM ofJson?)

theorem listedEntries?_printed {ε : Type} (json : ε → Json) (ofJson? : Json → Option ε)
    (entries : List ε) (hreadable : ∀ entry ∈ entries, Json.Readable 126 (json entry))
    (hread : ∀ entry, ofJson? (json entry).inOrder = some entry) :
    listedEntries? ofJson? (Command.printed [dumpText (entries.map json)]) = some entries := by
  have hprinted : Command.printed [dumpText (entries.map json)] =
      (Json.array (entries.map json)).print ++ "\n" := by
    simp [Command.printed, dumpText]
  have hall : Json.Readable Json.maxDepth (.array (entries.map json)) :=
    .array (List.forall_mem_map.mpr hreadable)
  have hitems : ∀ entries : List ε,
      (Json.itemsInOrder (entries.map json)).mapM ofJson? = some entries := by
    intro entries
    induction entries with
    | nil => rfl
    | cons entry rest ih => simp [Json.itemsInOrder, hread, ih]
  rw [listedEntries?, hprinted, Json.ofText?_print hall "\n" (by simp)]
  exact hitems entries

namespace Cpuid

def Register.named? (name : String) : Option Register :=
  Register.all.find? fun register => register.name == name

def Register.ofJson? : Json → Option (Option Register)
  | .null => some none
  | value => (value.text?.bind Register.named?).map some

def Entry.ofJson? (value : Json) : Option Entry := do
  pure
    { leaf := ← value.textField? "leaf"
      subleaf := ← value.textField? "subleaf"
      register := ← (value.field? "register").bind Register.ofJson?
      msb := ← value.integerField? "msb"
      lsb := ← value.integerField? "lsb"
      size := ← value.integerField? "size"
      fieldName := ← value.textField? "field_name"
      expectedValue := ← value.textField? "expected_value"
      specVersion := ← value.textField? "spec_version" }

theorem Entry.ofJson?_json (entry : Entry) : Entry.ofJson? entry.json.inOrder = some entry := by
  have hregister : Register.ofJson? ((entry.register.map fun register =>
      Json.text register.name).getD .null).inOrder = some entry.register := by
    cases entry.register with
    | none => rfl
    | some register => cases register <;> rfl
  simp [Entry.ofJson?, Entry.json, Json.textField?, Json.integerField?, Json.field?_inOrder,
    Json.fieldsInOrder, Dictionary.lookup_cons_eq_ite, Json.inOrder_text, Json.text?,
    Json.inOrder_ofInt,
    Json.integer?_ofInt, hregister]

structure Entry.HasInt32 (entry : Entry) : Prop where
  msb : IsInt32 entry.msb
  lsb : IsInt32 entry.lsb
  size : IsInt32 entry.size

theorem Entry.HasInt32.readable {entry : Entry} (h : entry.HasInt32) :
    Json.Readable 126 entry.json := by
  have hregister : Json.Readable 125
      ((entry.register.map fun register => Json.text register.name).getD .null) := by
    cases entry.register with
    | none => exact .null 125
    | some register => exact .text 125 _
  refine .object ?_
  simp only [List.forall_mem_cons]
  exact ⟨.text 125 _, .text 125 _, hregister, h.msb.readable 125, h.lsb.readable 125,
    h.size.readable 125, .text 125 _, .text 125 _, .text 125 _, nofun⟩

theorem isInt32_of_readInt32 (cell : Option String) (value : Int)
    (h : readInt32 cell = .ok value) : IsInt32 value := by
  unfold readInt32 at h
  split at h
  · cases h
  · split at h
    · cases h
    · split at h
      · cases h
      · obtain rfl := Except.ok.inj h
        exact ⟨by omega, by omega⟩

theorem hasInt32_of_rowStep (source : Source) (context next : Context) (row : Row)
    (events : List (Event Entry)) (h : RowStep source context row next events) (made : Entry)
    (hmade : .entry made ∈ events) : made.HasInt32 := by
  obtain ⟨register, group, geometry, value, -, hgeometry, hmarker | hfield⟩ :=
    h.mem_of_entry_mem made hmade
  · obtain ⟨caption, -, rfl⟩ := List.mem_map.mp hmarker
    have hmarker : IsInt32 markerSize := ⟨by decide, by decide⟩
    exact ⟨hmarker, hmarker, hmarker⟩
  · obtain ⟨subleaf, -, rfl⟩ := List.mem_map.mp hfield
    obtain ⟨-, hmsb, hlsb, hsize⟩ := (readGeometry_eq_ok_iff _ _ _ _).mp hgeometry
    exact ⟨isInt32_of_readInt32 _ _ hmsb, isInt32_of_readInt32 _ _ hlsb,
      isInt32_of_readInt32 _ _ hsize⟩

/-- Assembling keeps the integers of the entries that sheets give. -/
theorem hasInt32_of_collect (files : Files.Tree) (sources : List Settings.CpuidSource)
    (build : Build Entry)
    (h : (collect family files (sources.map sheetSource)).outcome = .ok build) (entry : Entry)
    (hentry : entry ∈ build.entries) : entry.HasInt32 := by
  obtain ⟨source, hsource, part, original, ⟨sheet, -, hread⟩, hmem, hextends⟩ :=
    exists_extends_of_mem_collect mergeable files _ build h entry hentry
  obtain ⟨settings, -, rfl⟩ := List.mem_map.mp hsource
  obtain ⟨hmsb, hlsb, hsize⟩ := forall_entries_of_read (fun _ => True) Entry.HasInt32 trivial
    (fun source context next row events _ hstep =>
      ⟨trivial, hasInt32_of_rowStep source context next row events hstep⟩) _ _ sheet part hread
    original hmem
  have hsame : entry.msb = original.msb ∧ entry.lsb = original.lsb ∧ entry.size = original.size :=
    ⟨(congrArg Entry.msb hextends.bare_eq : (mergeable.bare entry).msb = _),
      (congrArg Entry.lsb hextends.bare_eq : (mergeable.bare entry).lsb = _),
      (congrArg Entry.size hextends.bare_eq : (mergeable.bare entry).size = _)⟩
  exact ⟨hsame.1 ▸ hmsb, hsame.2.1 ▸ hlsb, hsame.2.2 ▸ hsize⟩

/-- A dump of the entries that the settings give reads back as these entries. -/
theorem listedEntries?_of_collectSection (settings : Settings) (files : Files.Tree)
    (made : Settings.CpuidSection × Build Entry)
    (h : (collectSection settings files).outcome = .ok made) :
    listedEntries? Entry.ofJson? (Command.printed [dumpText (made.2.entries.map Entry.json)]) =
      some made.2.entries := by
  obtain ⟨-, hcollect⟩ := (outcome_collectSection_eq_ok_iff settings files made.1 made.2).mp h
  exact listedEntries?_printed Entry.json Entry.ofJson? made.2.entries
    (fun entry hentry => (hasInt32_of_collect files _ made.2 hcollect entry hentry).readable)
    Entry.ofJson?_json

end Cpuid

namespace Msr

def Trap.named? (name : String) : Option Trap :=
  [.gp, .ve].find? fun trap => trap.name == name

def Direction.named? (name : String) : Option Direction :=
  Direction.both.find? fun direction => direction.text == name

def Outcome.ofJson? (value : Json) : Option Outcome :=
  match value with
  | .text "NoException" => some .native
  | .object [("FixedTrap", .text trap)] => (Trap.named? trap).map .traps
  | .object [("PreconditionTrap", .array [.text trap, .text hook])] =>
    (Trap.named? trap).map fun trap => .trapsIf trap hook
  | _ => none

def Entry.ofJson? (value : Json) : Option Entry := do
  pure
    { name := ← value.textField? "field_name"
      first := ← value.textField? "first_bit"
      size := ← value.textField? "size"
      outcome := ← (value.field? "outcome").bind Outcome.ofJson?
      direction := ← (value.textField? "direction").bind Direction.named?
      specVersion := ← value.textField? "spec_version" }

theorem Outcome.ofJson?_json (outcome : Outcome) :
    Outcome.ofJson? outcome.json.inOrder = some outcome := by
  cases outcome with
  | native => rfl
  | traps trap => cases trap <;> rfl
  | trapsIf trap hook => cases trap <;> rfl

theorem Direction.named?_text (direction : Direction) :
    Direction.named? direction.text = some direction := by
  cases direction <;> rfl

theorem Entry.ofJson?_json (entry : Entry) : Entry.ofJson? entry.json.inOrder = some entry := by
  simp [Entry.ofJson?, Entry.json, Json.textField?, Json.field?_inOrder, Json.fieldsInOrder,
    Dictionary.lookup_cons_eq_ite, Json.inOrder_text, Json.text?, Outcome.ofJson?_json,
    Direction.named?_text]

theorem Outcome.readable_json (outcome : Outcome) : Json.Readable 125 outcome.json := by
  cases outcome with
  | native => exact .text 125 _
  | traps trap => exact .object (by simp [Json.Readable.text])
  | trapsIf trap hook => exact .object (by simp [Json.Readable.text, Json.Readable.array])

theorem Entry.readable_json (entry : Entry) : Json.Readable 126 entry.json := by
  refine .object ?_
  simp only [List.forall_mem_cons]
  exact ⟨.text 125 _, .text 125 _, .text 125 _, entry.outcome.readable_json, .text 125 _,
    .text 125 _, nofun⟩

/-- A dump of entries reads back as these entries. -/
theorem listedEntries?_dumpText (entries : List Entry) :
    listedEntries? Entry.ofJson? (Command.printed [dumpText (entries.map Entry.json)]) =
      some entries :=
  listedEntries?_printed Entry.json Entry.ofJson? entries (fun entry _ => entry.readable_json)
    Entry.ofJson?_json

end Msr

end GuestCases
