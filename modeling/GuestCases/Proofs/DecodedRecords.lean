import GuestCases.Journal
import GuestCases.Settings.Sections
import Mathlib.Data.List.Forall2
import Mathlib.Data.List.Nodup
import Mathlib.Logic.Relation

/-!
What a record is decoded to. A shape is made of slots, one for each of its fields. An object is
decoded when no field has two values and every slot gives one: the decoded value of its field, or
its default when the field is missing. So neither the order of the keys nor unknown keys matter.
-/

namespace GuestCases.Settings

/-- A field of a record: how its value is decoded, what stands for it when it is missing, and where
it is found in what was gathered and in the record. -/
structure Slot (π ρ : Type) where
  name : String
  Value : Type
  decode : Decoder Value
  default? : Option Value
  gathered? : π → Option Value
  value : ρ → Value

def slotNamed? {π ρ : Type} (slots : List (Slot π ρ)) (name : String) : Option (Slot π ρ) :=
  slots.find? fun slot => slot.name == name

theorem mem_of_slotNamed? {π ρ : Type} {slots : List (Slot π ρ)} {slot : Slot π ρ} (name : String)
    (h : slotNamed? slots name = some slot) : slot ∈ slots :=
  List.mem_of_find?_eq_some h

def Alike {α : Type} (decode : Decoder α) (value other : Json) : Prop :=
  ∀ decoded, decode value = .ok decoded ↔ decode other = .ok decoded

theorem Alike.refl {α : Type} (decode : Decoder α) (value : Json) : Alike decode value value :=
  fun _ => Iff.rfl

theorem Alike.symm {α : Type} {decode : Decoder α} {value other : Json}
    (h : Alike decode value other) : Alike decode other value :=
  fun decoded => (h decoded).symm

theorem Alike.trans {α : Type} {decode : Decoder α} {first second third : Json}
    (h : Alike decode first second) (hnext : Alike decode second third) :
    Alike decode first third :=
  fun decoded => (h decoded).trans (hnext decoded)

/-- Steps between alike values, taken forth and back, lead to alike values. -/
theorem alike_of_eqvGen {α β : Type} {decode : Decoder α} (write : β → Json)
    {Step : β → β → Prop} (hstep : ∀ first second, Step first second →
      Alike decode (write first) (write second))
    {first second : β} (h : Relation.EqvGen Step first second) :
    Alike decode (write first) (write second) := by
  induction h with
  | rel first second h => exact hstep first second h
  | refl first => exact .refl decode (write first)
  | symm _ _ _ ih => exact ih.symm
  | trans _ _ _ _ _ ih ihNext => exact ih.trans ihNext

/-- The items are decoded one by one. -/
theorem list_eq_ok_iff {α : Type} (decode : Decoder α) (items : List Json) (decoded : List α) :
    Decoder.list decode (.array items) = .ok decoded ↔
      List.Forall₂ (fun item value => decode item = .ok value) items decoded := by
  rw [Decoder.list]
  induction items generalizing decoded with
  | nil =>
    rw [List.mapM_nil, List.forall₂_nil_left_iff]
    exact ⟨fun h => (Except.ok.inj h).symm, fun h => congrArg Except.ok h.symm⟩
  | cons item rest ih =>
    have hbind : (item :: rest).mapM decode = (decode item).bind fun value =>
        (rest.mapM decode).bind fun values => .ok (value :: values) := List.mapM_cons
    simp only [hbind, Attempt.bind_eq_ok_iff, ih, List.forall₂_cons_left_iff, Except.ok.injEq]
    refine exists_congr fun value => ?_
    constructor
    · rintro ⟨hitem, values, hrest, rfl⟩
      exact ⟨values, hitem, hrest, rfl⟩
    · rintro ⟨values, hitem, hrest, rfl⟩
      exact ⟨hitem, values, hrest, rfl⟩

/-- Lists whose items are alike are alike. -/
theorem alike_list {α : Type} {decode : Decoder α} {items others : List Json}
    (h : List.Forall₂ (Alike decode) items others) :
    Alike (Decoder.list decode) (.array items) (.array others) := by
  intro decoded
  rw [list_eq_ok_iff, list_eq_ok_iff]
  induction h generalizing decoded with
  | nil => exact Iff.rfl
  | cons hitem _ ih => cases decoded with
    | nil => simp
    | cons value values => rw [List.forall₂_cons, List.forall₂_cons, hitem value, ih values]

/-- A record that is an object or an array holds a value for a field; `names` are the names of its
fields in declared order. -/
inductive HoldsField (names : List String) (name : String) (value : Json) : Json → Prop where
  | named {fields : List (String × Json)} (h : (name, value) ∈ fields) :
    HoldsField names name value (.object fields)
  | placed {items : List Json} (h : (name, value) ∈ names.zip items) :
    HoldsField names name value (.array items)

namespace Shape

variable {π ρ : Type}

def names (shape : Shape π ρ) (fields : List (String × Json)) : List String :=
  fields.filterMap fun field => shape.declared? field.1

def Gives (shape : Shape π ρ) (fields : List (String × Json)) (slot : Slot π ρ)
    (value : slot.Value) : Prop :=
  (∃ field ∈ fields, shape.declared? field.1 = some slot.name ∧
    slot.decode field.2 = .ok value) ∨
  (∀ field ∈ fields, shape.declared? field.1 ≠ some slot.name) ∧ slot.default? = some value

/-- The shape has these slots and no others: setting a field touches its own slot alone, and the
record is made when every slot has a value or a default. -/
structure IsMadeOf (shape : Shape π ρ) (slots : List (Slot π ρ)) : Prop where
  distinct : (slots.map Slot.name).Nodup
  exists_slot : ∀ name ∈ shape.fields, ∃ slot ∈ slots, slot.name = name
  empty : ∀ slot ∈ slots, slot.gathered? shape.empty = none
  set_eq : ∀ slot ∈ slots, ∀ value gathered, ∃ put : slot.Value → π,
    shape.set slot.name value gathered = (slot.decode value).map put ∧
    ∀ decoded, slot.gathered? (put decoded) = some decoded ∧
      ∀ other ∈ slots, other.name ≠ slot.name →
        other.gathered? (put decoded) = other.gathered? gathered
  finish_eq_ok_iff : ∀ absent gathered record, shape.finish absent gathered = .ok record ↔
    ∀ slot ∈ slots, (slot.gathered? gathered).or slot.default? = some (slot.value record)

def SameField (shape : Shape π ρ) (slots : List (Slot π ρ)) (field other : String × Json) : Prop :=
  ∃ slot ∈ slots, shape.declared? field.1 = some slot.name ∧
    shape.declared? other.1 = some slot.name ∧ Alike slot.decode field.2 other.2

def IsDefault (shape : Shape π ρ) (slots : List (Slot π ρ)) (field : String × Json) : Prop :=
  ∃ slot ∈ slots, shape.declared? field.1 = some slot.name ∧
    ∃ decoded, slot.decode field.2 = .ok decoded ∧ slot.default? = some decoded

section Names

variable (shape : Shape π ρ)

/-- A key that is no other name is declared when it is a field. -/
theorem declared?_of_lookup_eq_none {key : String} (h : shape.aliases.lookup key = none) :
    shape.declared? key = if key ∈ shape.fields then some key else none := by
  rw [declared?, h]
  rfl

theorem mem_names_iff (fields : List (String × Json)) (name : String) :
    name ∈ shape.names fields ↔ ∃ field ∈ fields, shape.declared? field.1 = some name :=
  List.mem_filterMap

theorem names_cons_none {field : String × Json} (h : shape.declared? field.1 = none)
    (rest : List (String × Json)) : shape.names (field :: rest) = shape.names rest :=
  List.filterMap_cons_none h

theorem names_cons_some {field : String × Json} {name : String}
    (h : shape.declared? field.1 = some name) (rest : List (String × Json)) :
    shape.names (field :: rest) = name :: shape.names rest :=
  List.filterMap_cons_some h

theorem mem_fields_of_declared? {key name : String} (h : shape.declared? key = some name) :
    name ∈ shape.fields := by
  simp only [declared?] at h
  split at h
  · rename_i hmem
    cases h
    exact hmem
  · cases h

/-- A field that is not repeated has one value. -/
theorem eq_of_nodup_names {fields : List (String × Json)} (h : (shape.names fields).Nodup)
    {field other : String × Json} (hfield : field ∈ fields) (hother : other ∈ fields)
    {name : String} (hname : shape.declared? field.1 = some name)
    (hsame : shape.declared? other.1 = some name) : field = other := by
  induction fields with
  | nil => cases hfield
  | cons first rest ih =>
    have hrest : (shape.names rest).Nodup :=
      h.sublist (List.Sublist.filterMap _ (List.sublist_cons_self first rest))
    have hfirst : shape.declared? first.1 = some name → name ∉ shape.names rest := by
      intro hfirst
      rw [shape.names_cons_some hfirst] at h
      exact (List.nodup_cons.mp h).1
    rcases List.mem_cons.mp hfield with heq | hfield <;>
      rcases List.mem_cons.mp hother with heqOther | hother
    · rw [heq, heqOther]
    · exact absurd ((shape.mem_names_iff rest name).mpr ⟨other, hother, hsame⟩)
        (hfirst (heq ▸ hname))
    · exact absurd ((shape.mem_names_iff rest name).mpr ⟨field, hfield, hname⟩)
        (hfirst (heqOther ▸ hsame))
    · exact ih hrest hfield hother

theorem gather_cons_none {field : String × Json} (h : shape.declared? field.1 = none)
    (seen : List String) (gathered : π) (rest : List (String × Json)) :
    shape.gather seen gathered (field :: rest) = shape.gather seen gathered rest := by
  simp only [gather, h]

theorem gather_cons_eq_ok_iff {field : String × Json} {name : String}
    (h : shape.declared? field.1 = some name) (seen : List String) (gathered next : π)
    (rest : List (String × Json)) :
    shape.gather seen gathered (field :: rest) = .ok next ↔
      name ∉ seen ∧ ∃ between, shape.set name field.2 gathered = .ok between ∧
        shape.gather (name :: seen) between rest = .ok next := by
  simp only [gather, h]
  by_cases hseen : name ∈ seen
  · simp [hseen]
  · simp [hseen, Attempt.bind_eq_ok_iff]

end Names

section Made

variable {shape : Shape π ρ} {slots : List (Slot π ρ)} (h : shape.IsMadeOf slots)

include h

theorem IsMadeOf.exists_set_iff {slot : Slot π ρ} (hslot : slot ∈ slots) (value : Json)
    (gathered : π) : (∃ next, shape.set slot.name value gathered = .ok next) ↔
      ∃ decoded, slot.decode value = .ok decoded := by
  obtain ⟨put, hset, -⟩ := h.set_eq slot hslot value gathered
  rw [hset]
  cases slot.decode value <;> simp [Except.map]

/-- Setting a field puts its decoded value into its slot and leaves the other slots. -/
theorem IsMadeOf.gathered?_of_set {name : String} (hname : name ∈ shape.fields) {value : Json}
    {gathered next : π} (hset : shape.set name value gathered = .ok next) {slot : Slot π ρ}
    (hslot : slot ∈ slots) :
    (name = slot.name → ∃ decoded, slot.decode value = .ok decoded ∧
      slot.gathered? next = some decoded) ∧
    (name ≠ slot.name → slot.gathered? next = slot.gathered? gathered) := by
  have hput : ∀ found ∈ slots, found.name = name → ∃ decoded, found.decode value = .ok decoded ∧
      found.gathered? next = some decoded ∧ ∀ other ∈ slots, other.name ≠ found.name →
        other.gathered? next = other.gathered? gathered := by
    rintro found hfound rfl
    obtain ⟨put, heq, hput⟩ := h.set_eq found hfound value gathered
    rw [heq, Attempt.map_eq_ok_iff] at hset
    obtain ⟨decoded, hdecoded, rfl⟩ := hset
    exact ⟨decoded, hdecoded, hput decoded⟩
  constructor
  · intro hsame
    obtain ⟨decoded, hdecoded, hfound, -⟩ := hput slot hslot hsame.symm
    exact ⟨decoded, hdecoded, hfound⟩
  · intro hother
    obtain ⟨found, hfound, rfl⟩ := h.exists_slot name hname
    obtain ⟨-, -, -, hothers⟩ := hput found hfound rfl
    exact hothers slot hslot (Ne.symm hother)

/-- What a slot has after gathering: the value of its field, or what it had when there is none. -/
theorem IsMadeOf.gathered?_of_gather {slot : Slot π ρ} (hslot : slot ∈ slots) {seen : List String}
    {gathered next : π} {fields : List (String × Json)}
    (hgather : shape.gather seen gathered fields = .ok next) :
    (∃ field ∈ fields, shape.declared? field.1 = some slot.name ∧
      ∃ decoded, slot.decode field.2 = .ok decoded ∧ slot.gathered? next = some decoded) ∨
    (∀ field ∈ fields, shape.declared? field.1 ≠ some slot.name) ∧
      slot.gathered? next = slot.gathered? gathered := by
  induction fields generalizing seen gathered with
  | nil =>
    cases hgather
    exact .inr ⟨by simp, rfl⟩
  | cons field rest ih =>
    simp only [List.exists_mem_cons_iff, List.forall_mem_cons]
    cases hkey : shape.declared? field.1 with
    | none =>
      rw [shape.gather_cons_none hkey] at hgather
      rcases ih hgather with hfound | hnone
      · exact .inl (.inr hfound)
      · exact .inr ⟨⟨nofun, hnone.1⟩, hnone.2⟩
    | some name =>
      obtain ⟨-, between, hset, hrest⟩ := (shape.gather_cons_eq_ok_iff hkey _ _ _ _).mp hgather
      obtain ⟨hput, hkeep⟩ := h.gathered?_of_set (shape.mem_fields_of_declared? hkey) hset hslot
      rcases ih hrest with hfound | ⟨hnone, hsame⟩
      · exact .inl (.inr hfound)
      · by_cases hname : name = slot.name
        · obtain ⟨decoded, hdecoded, hbetween⟩ := hput hname
          exact .inl (.inl ⟨congrArg some hname, decoded, hdecoded, hsame.trans hbetween⟩)
        · exact .inr ⟨⟨fun heq => hname (Option.some.inj heq), hnone⟩, hsame.trans (hkeep hname)⟩

/-- Gathering succeeds when no field is repeated and every field can be decoded. -/
theorem IsMadeOf.exists_gather_iff (seen : List String) (gathered : π)
    (fields : List (String × Json)) :
    (∃ next, shape.gather seen gathered fields = .ok next) ↔
      (shape.names fields).Nodup ∧ (∀ name ∈ shape.names fields, name ∉ seen) ∧
        ∀ field ∈ fields, ∀ slot ∈ slots, shape.declared? field.1 = some slot.name →
          ∃ decoded, slot.decode field.2 = .ok decoded := by
  induction fields generalizing seen gathered with
  | nil => simp [gather, names]
  | cons field rest ih =>
    cases hkey : shape.declared? field.1 with
    | none =>
      simp only [shape.gather_cons_none hkey, shape.names_cons_none hkey, ih, List.forall_mem_cons,
        hkey, reduceCtorEq, false_implies, implies_true, true_and]
    | some name =>
      obtain ⟨found, hfound, rfl⟩ := h.exists_slot name (shape.mem_fields_of_declared? hkey)
      simp only [shape.gather_cons_eq_ok_iff hkey, shape.names_cons_some hkey,
        List.forall_mem_cons, List.nodup_cons, hkey, Option.some.injEq]
      constructor
      · rintro ⟨next, hseen, between, hset, hrest⟩
        obtain ⟨hnodup, hunseen, hdecodes⟩ := (ih _ _).mp ⟨next, hrest⟩
        refine ⟨⟨fun hmem => hunseen _ hmem List.mem_cons_self, hnodup⟩,
          ⟨hseen, fun name hname hmem => hunseen name hname (List.mem_cons_of_mem _ hmem)⟩,
          fun slot hslot hname => ?_, hdecodes⟩
        exact (h.exists_set_iff hslot field.2 gathered).mp ⟨between, hname ▸ hset⟩
      · rintro ⟨⟨hfresh, hnodup⟩, ⟨hseen, hunseen⟩, hdecodes, hothers⟩
        obtain ⟨between, hset⟩ :=
          (h.exists_set_iff hfound field.2 gathered).mpr (hdecodes found hfound rfl)
        obtain ⟨next, hnext⟩ := (ih (found.name :: seen) between).mpr
          ⟨hnodup, fun name hname hmem => (List.mem_cons.mp hmem).elim
            (fun heq => hfresh (heq ▸ hname)) (hunseen name hname), hothers⟩
        exact ⟨next, hseen, between, hset, hnext⟩

/-- A record is what its slots give, when no field is repeated. -/
theorem IsMadeOf.decode_object_eq_ok_iff (fields : List (String × Json)) (record : ρ) :
    shape.decode (.object fields) = .ok record ↔
      (shape.names fields).Nodup ∧ ∀ slot ∈ slots, shape.Gives fields slot (slot.value record) := by
  rw [decode, Attempt.bind_eq_ok_iff]
  constructor
  · rintro ⟨next, hgather, hfinish⟩
    refine ⟨((h.exists_gather_iff _ _ _).mp ⟨next, hgather⟩).1, fun slot hslot => ?_⟩
    have hvalue := (h.finish_eq_ok_iff _ _ _).mp hfinish slot hslot
    rcases h.gathered?_of_gather hslot hgather with
      ⟨field, hfield, hname, decoded, hdecoded, hnext⟩ | ⟨hnone, hnext⟩
    · rw [hnext, Option.some_or] at hvalue
      exact .inl ⟨field, hfield, hname, hdecoded.trans (congrArg _ (Option.some.inj hvalue))⟩
    · rw [hnext, h.empty slot hslot, Option.none_or] at hvalue
      exact .inr ⟨hnone, hvalue⟩
  · rintro ⟨hnodup, hgives⟩
    obtain ⟨next, hgather⟩ : ∃ next, shape.gather [] shape.empty fields = .ok next := by
      refine (h.exists_gather_iff _ _ _).mpr ⟨hnodup, by simp, ?_⟩
      intro field hfield slot hslot hname
      rcases hgives slot hslot with ⟨other, hother, hsame, hdecoded⟩ | ⟨hnone, -⟩
      · rw [shape.eq_of_nodup_names hnodup hfield hother hname hsame]
        exact ⟨_, hdecoded⟩
      · exact absurd hname (hnone field hfield)
    refine ⟨next, hgather, (h.finish_eq_ok_iff _ _ _).mpr fun slot hslot => ?_⟩
    rcases h.gathered?_of_gather hslot hgather with
      ⟨field, hfield, hname, decoded, hdecoded, hnext⟩ | ⟨hnone, hnext⟩ <;>
      rcases hgives slot hslot with ⟨other, hother, hsame, hgiven⟩ | ⟨habsent, hdefault⟩
    · rw [← shape.eq_of_nodup_names hnodup hfield hother hname hsame, hdecoded] at hgiven
      rw [hnext, Option.some_or, Except.ok.inj hgiven]
    · exact absurd hname (habsent field hfield)
    · exact absurd hsame (hnone other hother)
    · rw [hnext, h.empty slot hslot, Option.none_or, hdefault]

/-- The order of the keys does not matter. -/
theorem IsMadeOf.alike_of_perm {fields others : List (String × Json)} (hperm : fields.Perm others) :
    Alike shape.decode (.object fields) (.object others) := by
  have hnames : (shape.names fields).Nodup ↔ (shape.names others).Nodup :=
    (hperm.filterMap _).nodup_iff
  intro record
  simp only [h.decode_object_eq_ok_iff, hnames, Gives, hperm.mem_iff]

theorem IsMadeOf.eq_of_name {slot other : Slot π ρ} (hslot : slot ∈ slots) (hother : other ∈ slots)
    (hname : slot.name = other.name) : slot = other :=
  List.inj_on_of_nodup_map h.distinct hslot hother hname

/-- A field may be written in another way that its slot decodes alike. -/
theorem IsMadeOf.alike_cons_of_sameField {field other : String × Json}
    (hsame : shape.SameField slots field other) (rest : List (String × Json)) :
    Alike shape.decode (.object (field :: rest)) (.object (other :: rest)) := by
  obtain ⟨slot, hslot, hfield, hother, halike⟩ := hsame
  intro record
  rw [h.decode_object_eq_ok_iff, h.decode_object_eq_ok_iff, shape.names_cons_some hfield,
    shape.names_cons_some hother]
  refine and_congr_right fun _ => forall₂_congr fun found hfound => ?_
  have hhead : (slot.name = found.name ∧ found.decode field.2 = .ok (found.value record)) ↔
      (slot.name = found.name ∧ found.decode other.2 = .ok (found.value record)) := by
    refine and_congr_right fun hname => ?_
    rw [← h.eq_of_name hslot hfound hname]
    exact halike _
  simp only [Gives, List.exists_mem_cons_iff, List.forall_mem_cons, hfield, hother,
    Option.some.injEq, hhead]

/-- A field that is missing may be written with its default. -/
theorem IsMadeOf.alike_cons_of_isDefault {field : String × Json}
    (hfield : shape.IsDefault slots field) {rest : List (String × Json)}
    (hrest : ∀ other ∈ rest, shape.declared? other.1 ≠ shape.declared? field.1) :
    Alike shape.decode (.object (field :: rest)) (.object rest) := by
  obtain ⟨slot, hslot, hname, decoded, hdecoded, hdefault⟩ := hfield
  rw [hname] at hrest
  have hfresh : slot.name ∉ shape.names rest := fun hmem =>
    have ⟨other, hother, heq⟩ := (shape.mem_names_iff rest slot.name).mp hmem
    hrest other hother heq
  intro record
  rw [h.decode_object_eq_ok_iff, h.decode_object_eq_ok_iff, shape.names_cons_some hname,
    List.nodup_cons, and_iff_right hfresh]
  refine and_congr_right fun _ => forall₂_congr fun found hfound => ?_
  simp only [Gives, List.exists_mem_cons_iff, List.forall_mem_cons, hname, Option.some.injEq]
  by_cases heq : slot.name = found.name
  · obtain rfl := h.eq_of_name hslot hfound heq
    have hnotHeld : ¬∃ other ∈ rest, shape.declared? other.1 = some slot.name ∧
        slot.decode other.2 = .ok (slot.value record) :=
      fun ⟨other, hother, hsame, _⟩ => hrest other hother hsame
    simp only [hdecoded, hdefault, hnotHeld, or_false, false_or, ne_eq, not_true_eq_false,
      false_and, true_and, Except.ok.injEq, Option.some.injEq, and_iff_right hrest]
  · simp [heq]

theorem IsMadeOf.exists_decoded_of_gatherItems {gathered next : π} {names : List String}
    {items : List Json} (hgather : shape.gatherItems gathered names items = .ok next)
    {slot : Slot π ρ} (hslot : slot ∈ slots) {value : Json}
    (hvalue : (slot.name, value) ∈ names.zip items) :
    ∃ decoded, slot.decode value = .ok decoded := by
  induction names generalizing gathered items with
  | nil => cases hvalue
  | cons name names ih =>
    cases items with
    | nil => cases hvalue
    | cons item items =>
      rw [gatherItems, Attempt.bind_eq_ok_iff] at hgather
      obtain ⟨between, hset, hgather⟩ := hgather
      rcases List.mem_cons.mp hvalue with heq | hrest
      · cases heq
        exact (h.exists_set_iff hslot value gathered).mp ⟨between, hset⟩
      · exact ih hgather hrest

/-- A record with a field that cannot be decoded cannot be either. -/
theorem IsMadeOf.decode_ne_ok {json : Json} {slot : Slot π ρ} (hslot : slot ∈ slots)
    (hname : shape.declared? slot.name = some slot.name) {value : Json}
    (hvalue : HoldsField shape.fields slot.name value json)
    (hbad : ∀ decoded, slot.decode value ≠ .ok decoded) (record : ρ) :
    shape.decode json ≠ .ok record := by
  intro hdecode
  cases hvalue with
  | named hfield =>
    obtain ⟨hnodup, hgives⟩ := (h.decode_object_eq_ok_iff _ _).mp hdecode
    rcases hgives slot hslot with ⟨other, hother, hsame, hdecoded⟩ | ⟨hnone, -⟩
    · rw [← shape.eq_of_nodup_names hnodup hfield hother hname hsame] at hdecoded
      exact hbad _ hdecoded
    · exact hnone _ hfield hname
  | placed hitem =>
    obtain ⟨next, hgather, -⟩ := (Attempt.bind_eq_ok_iff _ _ _).mp hdecode
    obtain ⟨decoded, hdecoded⟩ := h.exists_decoded_of_gatherItems hgather hslot hitem
    exact hbad decoded hdecoded

end Made

/-- An unknown key does not count. -/
theorem alike_cons_of_unknown {shape : Shape π ρ} {field : String × Json}
    (h : shape.declared? field.1 = none) (rest : List (String × Json)) :
    Alike shape.decode (.object (field :: rest)) (.object rest) := by
  intro record
  rw [decode, decode, shape.gather_cons_none h]

end Shape

end GuestCases.Settings
