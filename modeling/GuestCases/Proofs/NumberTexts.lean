import GuestCases.Proofs.CollectedEntries
import GuestCases.Proofs.PrintedTokens
import Mathlib.Data.Nat.Digits.Defs

/-!
What the texts of numbers denote. A digit is a place in the list of digits of either case, and a row
of them denotes the sum of its digits, each times the power of the base at its place. Digits may
stand behind a sign. A cell is read as what its trimmed text denotes, or refused as it was written.
-/

namespace GuestCases.Numeral

def IsDigitOf (base : Nat) (c : Char) (digit : Nat) : Prop :=
  digit < base ∧ ("0123456789abcdef".toList[digit]? = some c ∨
    "0123456789ABCDEF".toList[digit]? = some c)

def DenotesDigits (base : Nat) (cs : List Char) (value : Nat) : Prop :=
  cs ≠ [] ∧ ∃ digits, List.Forall₂ (IsDigitOf base) cs digits ∧
    value = Nat.ofDigits base digits.reverse

def DenotesUnsigned (base : Nat) (cs : List Char) (value : Nat) : Prop :=
  ∃ sign digits, cs = sign ++ digits ∧ (sign = [] ∨ sign = ['+']) ∧ DenotesDigits base digits value

def DenotesSigned (base : Nat) (cs : List Char) (value : Int) : Prop :=
  ∃ sign digits distance, cs = sign ++ digits ∧ DenotesDigits base digits distance ∧
    ((sign = [] ∨ sign = ['+']) ∧ value = distance ∨ sign = ['-'] ∧ value = -distance)

inductive IsFaultOf {α : Type} (denotes : List Char → α → Prop) (refuse : String → CellFault)
    (cell : String) : CellFault → Prop where
  | empty (h : Text.trimChars cell.toList = []) : IsFaultOf denotes refuse cell .empty
  | refused (h : Text.trimChars cell.toList ≠ [])
      (hnone : ¬∃ value, denotes (Text.trimChars cell.toList) value) :
      IsFaultOf denotes refuse cell (refuse cell)

def readWith {α : Type} (value? : List Char → Option α) (refuse : String → CellFault)
    (cell : String) : Except CellFault α :=
  let cs := Text.trimChars cell.toList
  if cs.isEmpty then .error .empty
  else
    match value? cs with
    | some value => .ok value
    | none => .error (refuse cell)

theorem digit?_eq_some_iff (c : Char) (digit : Nat) :
    digit? c = some digit ↔ IsDigitOf 16 c digit := by
  have hread : ∀ code < 103, ∀ digit, digit? (Char.ofNat code) = some digit → digit < 16 ∧
      ("0123456789abcdef".toList[digit]? = some (Char.ofNat code) ∨
        "0123456789ABCDEF".toList[digit]? = some (Char.ofNat code)) := by
    decide
  have hlower : ∀ digit < 16, "0123456789abcdef".toList[digit]?.bind digit? = some digit := by
    decide
  have hupper : ∀ digit < 16, "0123456789ABCDEF".toList[digit]?.bind digit? = some digit := by
    decide
  constructor
  · intro h
    have hcode : c.toNat < 103 := by
      by_contra hlarge
      have hnone : ∀ low high : Char, high.toNat < 103 → ¬(low ≤ c ∧ c ≤ high) := by
        intro low high hhigh hbetween
        have hle : c.toNat ≤ high.toNat := UInt32.le_iff_toNat_le.mp hbetween.2
        omega
      simp [digit?, hnone _ '9' (by decide), hnone _ 'f' (by decide), hnone _ 'F' (by decide)] at h
    rw [← Char.ofNat_toNat c] at h ⊢
    exact hread c.toNat hcode digit h
  · rintro ⟨hdigit, hchar | hchar⟩
    · simpa only [hchar, Option.bind_some] using hlower digit hdigit
    · simpa only [hchar, Option.bind_some] using hupper digit hdigit

theorem isDigitOf_iff (base : Nat) (hbase : base ≤ 16) (c : Char) (digit : Nat) :
    IsDigitOf base c digit ↔ digit? c = some digit ∧ digit < base := by
  rw [digit?_eq_some_iff, IsDigitOf, IsDigitOf]
  constructor
  · rintro ⟨hlt, hchar⟩
    exact ⟨⟨by omega, hchar⟩, hlt⟩
  · rintro ⟨⟨-, hchar⟩, hlt⟩
    exact ⟨hlt, hchar⟩

theorem valueFrom_eq_some_iff (base : Nat) (hbase : base ≤ 16) (high value : Nat)
    (cs : List Char) :
    valueFrom base high cs = some value ↔ ∃ digits, List.Forall₂ (IsDigitOf base) cs digits ∧
      value = Nat.ofDigits base digits.reverse + base ^ digits.length * high := by
  induction cs generalizing high with
  | nil => simp [valueFrom, eq_comm]
  | cons c rest ih =>
    simp only [valueFrom_cons_eq_some_iff, ih, ← isDigitOf_iff base hbase]
    have hvalue : ∀ (digit : Nat) (digits : List Nat),
        Nat.ofDigits base digits.reverse + base ^ digits.length * (high * base + digit) =
          Nat.ofDigits base (digit :: digits).reverse + base ^ (digit :: digits).length * high := by
      intro digit digits
      rw [Nat.ofDigits_reverse_cons, List.length_cons, pow_succ]
      ring
    constructor
    · rintro ⟨digit, hdigit, digits, hdigits, rfl⟩
      exact ⟨digit :: digits, .cons hdigit hdigits, hvalue digit digits⟩
    · rintro ⟨digits, hdigits, rfl⟩
      cases hdigits with
      | cons hdigit hrest => exact ⟨_, hdigit, _, hrest, (hvalue _ _).symm⟩

theorem natural?_eq_some_iff_denotes (base : Nat) (hbase : base ≤ 16) (cs : List Char)
    (value : Nat) : natural? base cs = some value ↔ DenotesDigits base cs value := by
  simp [natural?_eq_some_iff, valueFrom_eq_some_iff base hbase, DenotesDigits]

theorem DenotesDigits.exists_digit {base : Nat} {cs : List Char} {value : Nat}
    (h : DenotesDigits base cs value) (c : Char) (hc : c ∈ cs) :
    ∃ digit, IsDigitOf base c digit := by
  obtain ⟨-, digits, hdigits, -⟩ := h
  obtain ⟨digit, -, hdigit⟩ := exists_of_forall₂ (List.Forall₂.flip hdigits) c hc
  exact ⟨digit, hdigit⟩

theorem digitIn?_plus (base : Nat) : digitIn? base '+' = none := rfl

/-- No sign and no mark stands among digits. -/
theorem DenotesDigits.not_mem {base : Nat} {cs : List Char} {value : Nat} (hbase : base ≤ 16)
    (h : DenotesDigits base cs value) (c : Char) (hc : digitIn? base c = none) : c ∉ cs := by
  intro hmem
  obtain ⟨digit, hdigit⟩ := h.exists_digit c hmem
  rw [(digitIn?_eq_some_iff base c digit).mpr ((isDigitOf_iff base hbase c digit).mp hdigit)] at hc
  cases hc

theorem isDigitOf_digitChar {base : Nat} (hbase : base ≤ 16) (digit : Nat) (h : digit < base) :
    IsDigitOf base (Nat.digitChar digit) digit := by
  have hchar : ∀ digit < 16, "0123456789abcdef".toList[digit]? = some (Nat.digitChar digit) := by
    decide
  exact ⟨h, .inl (hchar digit (by omega))⟩

theorem denotesDigits_singleton {base : Nat} {c : Char} {digit : Nat} (h : IsDigitOf base c digit) :
    DenotesDigits base [c] digit :=
  ⟨by simp, [digit], .cons h .nil, by simp⟩

theorem DenotesDigits.concat {base : Nat} {cs : List Char} {c : Char} {high digit : Nat}
    (h : DenotesDigits base cs high) (hdigit : IsDigitOf base c digit) :
    DenotesDigits base (cs ++ [c]) (digit + base * high) := by
  obtain ⟨-, digits, hdigits, rfl⟩ := h
  refine ⟨by simp, digits ++ [digit], List.rel_append hdigits (.cons hdigit .nil), ?_⟩
  rw [List.reverse_append, List.reverse_singleton, List.singleton_append, Nat.ofDigits_cons]

/-- Leading zeros count nothing. -/
theorem DenotesDigits.zeros {base : Nat} (hbase : 0 < base) {cs : List Char} {value : Nat}
    (h : DenotesDigits base cs value) (count : Nat) :
    DenotesDigits base (List.replicate count '0' ++ cs) value := by
  obtain ⟨hne, digits, hdigits, rfl⟩ := h
  have hzeros : List.Forall₂ (IsDigitOf base) (List.replicate count '0')
      (List.replicate count 0) := by
    induction count with
    | zero => exact .nil
    | succ count ih => exact .cons ⟨hbase, .inl rfl⟩ ih
  refine ⟨by simp [hne], List.replicate count 0 ++ digits, List.rel_append hzeros hdigits, ?_⟩
  rw [List.reverse_append, List.reverse_replicate, Nat.ofDigits_append_replicate_zero]

/-- The digits of a number denote it. -/
theorem denotesDigits_toDigits {base : Nat} (hlow : 1 < base) (hbase : base ≤ 16) (value : Nat) :
    DenotesDigits base (Nat.toDigits base value) value := by
  induction value using Nat.strongRecOn with
  | ind value ih =>
    by_cases hsmall : value < base
    · rw [Nat.toDigits_of_lt_base hsmall]
      exact denotesDigits_singleton (isDigitOf_digitChar hbase value hsmall)
    · have hlast : value % base < base := Nat.mod_lt value (by omega)
      have hhigh := (ih (value / base) (Nat.div_lt_self (by omega) hlow)).concat
        (isDigitOf_digitChar hbase (value % base) hlast)
      rw [Nat.mod_add_div] at hhigh
      rw [Nat.toDigits_of_base_le hlow (by omega)]
      exact hhigh

theorem unsigned?_eq_some_iff (base : Nat) (hbase : base ≤ 16) (cs : List Char) (value : Nat) :
    unsigned? base cs = some value ↔ DenotesUnsigned base cs value := by
  constructor
  · intro h
    unfold unsigned? at h
    split at h
    · rename_i rest
      exact ⟨['+'], rest, rfl, .inr rfl, (natural?_eq_some_iff_denotes base hbase _ _).mp h⟩
    · exact ⟨[], cs, rfl, .inl rfl, (natural?_eq_some_iff_denotes base hbase _ _).mp h⟩
  · rintro ⟨sign, digits, rfl, hsign, hdigits⟩
    have hvalue := (natural?_eq_some_iff_denotes base hbase _ _).mpr hdigits
    rcases hsign with rfl | rfl
    · have hplus := hdigits.not_mem hbase '+' (digitIn?_plus base)
      rw [List.nil_append, unsigned?_eq_natural? base digits hplus]
      exact hvalue
    · exact hvalue

/-- A text denotes one number. -/
theorem DenotesUnsigned.unique {base : Nat} {cs : List Char} {value other : Nat}
    (hbase : base ≤ 16) (h : DenotesUnsigned base cs value)
    (hother : DenotesUnsigned base cs other) : value = other := by
  rw [← unsigned?_eq_some_iff base hbase] at h hother
  exact Option.some.inj (h.symm.trans hother)

/-- No blank stands among digits. -/
theorem DenotesDigits.isBlank_eq_false {base : Nat} {cs : List Char} {value : Nat}
    (hbase : base ≤ 16) (h : DenotesDigits base cs value) (c : Char) (hc : c ∈ cs) :
    Text.isBlank c = false := by
  have hlower : ∀ digit < 16,
      "0123456789abcdef".toList[digit]?.map Text.isBlank = some false := by
    decide
  have hupper : ∀ digit < 16,
      "0123456789ABCDEF".toList[digit]?.map Text.isBlank = some false := by
    decide
  obtain ⟨digit, hdigit, hchar | hchar⟩ := h.exists_digit c hc
  · simpa only [hchar, Option.map_some, Option.some.injEq] using hlower digit (by omega)
  · simpa only [hchar, Option.map_some, Option.some.injEq] using hupper digit (by omega)

theorem DenotesUnsigned.isBlank_eq_false {base : Nat} {cs : List Char} {value : Nat}
    (hbase : base ≤ 16) (h : DenotesUnsigned base cs value) (c : Char) (hc : c ∈ cs) :
    Text.isBlank c = false := by
  obtain ⟨sign, digits, rfl, hsign, hdigits⟩ := h
  rcases List.mem_append.mp hc with hmem | hmem
  · rcases hsign with rfl | rfl
    · cases hmem
    · rw [List.mem_singleton.mp hmem]
      rfl
  · exact hdigits.isBlank_eq_false hbase c hmem

theorem DenotesUnsigned.ne_nil {base : Nat} {cs : List Char} {value : Nat}
    (h : DenotesUnsigned base cs value) : cs ≠ [] := by
  obtain ⟨sign, digits, rfl, -, hne, -⟩ := h
  simp [hne]

theorem word?_eq_some_iff (base : Nat) (hbase : base ≤ 16) (cs : List Char) (value : Nat) :
    word? base cs = some value ↔ DenotesUnsigned base cs value ∧ value < 0x10000000000000000 := by
  rw [word?, Option.filter_eq_some_iff, unsigned?_eq_some_iff base hbase, wordBound,
    decide_eq_true_eq]

theorem signed?_minus (base : Nat) (rest : List Char) :
    signed? base ('-' :: rest) = (natural? base rest).map fun distance => -Int.ofNat distance := by
  have hbind : signed? base ('-' :: rest) =
      ((natural? base rest).bind fun distance => some (distance : Int)).map fun n => -n := rfl
  rw [hbind]
  cases natural? base rest <;> rfl

theorem signed?_of_ne_minus (base : Nat) (cs : List Char) (h : '-' ∉ cs) :
    signed? base cs = (unsigned? base cs).map Int.ofNat := by
  unfold signed?
  split
  · simp at h
  · rfl

theorem signed?_eq_some_iff (base : Nat) (hbase : base ≤ 16) (cs : List Char) (value : Int) :
    signed? base cs = some value ↔ DenotesSigned base cs value := by
  constructor
  · intro h
    by_cases hminus : ∃ rest, cs = '-' :: rest
    · obtain ⟨rest, rfl⟩ := hminus
      rw [signed?_minus] at h
      obtain ⟨distance, hdistance, rfl⟩ := Option.map_eq_some_iff.mp h
      exact ⟨['-'], rest, distance, rfl, (natural?_eq_some_iff_denotes base hbase _ _).mp hdistance,
        .inr ⟨rfl, rfl⟩⟩
    · unfold signed? at h
      split at h
      · exact absurd ⟨_, rfl⟩ hminus
      · obtain ⟨distance, hdistance, rfl⟩ := Option.map_eq_some_iff.mp h
        obtain ⟨sign, digits, rfl, hsign, hdigits⟩ :=
          (unsigned?_eq_some_iff base hbase _ _).mp hdistance
        exact ⟨sign, digits, distance, rfl, hdigits, .inl ⟨hsign, rfl⟩⟩
  · rintro ⟨sign, digits, distance, rfl, hdigits, ⟨hsign, rfl⟩ | ⟨rfl, rfl⟩⟩
    · have hminus : '-' ∉ sign ++ digits := by
        have hnone := hdigits.not_mem hbase '-' rfl
        rcases hsign with rfl | rfl <;> simpa using hnone
      have hunsigned := (unsigned?_eq_some_iff base hbase _ distance).mpr
        ⟨sign, digits, rfl, hsign, hdigits⟩
      rw [signed?_of_ne_minus base _ hminus, hunsigned]
      rfl
    · rw [List.singleton_append, signed?_minus,
        (natural?_eq_some_iff_denotes base hbase digits distance).mpr hdigits]
      rfl

theorem DenotesSigned.ne_nil {base : Nat} {cs : List Char} {value : Int}
    (h : DenotesSigned base cs value) : cs ≠ [] := by
  obtain ⟨sign, digits, distance, rfl, ⟨hne, -⟩, -⟩ := h
  simp [hne]

theorem DenotesSigned.not_mem {base : Nat} {cs : List Char} {value : Int} (hbase : base ≤ 16)
    (h : DenotesSigned base cs value) (c : Char) (hc : digitIn? base c = none)
    (hsign : c ≠ '+' ∧ c ≠ '-') : c ∉ cs := by
  obtain ⟨sign, digits, distance, rfl, hdigits, ⟨rfl | rfl, -⟩ | ⟨rfl, -⟩⟩ := h <;>
    simp [hdigits.not_mem hbase c hc, hsign]

theorem DenotesSigned.isBlank_eq_false {base : Nat} {cs : List Char} {value : Int}
    (hbase : base ≤ 16) (h : DenotesSigned base cs value) (c : Char) (hc : c ∈ cs) :
    Text.isBlank c = false := by
  obtain ⟨sign, digits, distance, rfl, hdigits, hsign⟩ := h
  rcases List.mem_append.mp hc with hmem | hmem
  · rcases hsign with ⟨rfl | rfl, -⟩ | ⟨rfl, -⟩
    · cases hmem
    · rw [List.mem_singleton.mp hmem]
      rfl
    · rw [List.mem_singleton.mp hmem]
      rfl
  · exact hdigits.isBlank_eq_false hbase c hmem

/-- The decimal text of an integer denotes it. -/
theorem denotesSigned_repr (number : Int) : DenotesSigned 10 number.repr.toList number := by
  have hdigits : ∀ distance : Nat, DenotesDigits 10 distance.repr.toList distance := by
    intro distance
    rw [Nat.repr, String.toList_ofList]
    exact denotesDigits_toDigits (by decide) (by decide) distance
  cases number with
  | ofNat number => exact ⟨[], _, number, rfl, hdigits number, .inl ⟨.inl rfl, rfl⟩⟩
  | negSucc number =>
    refine ⟨['-'], _, number + 1, ?_, hdigits (number + 1), .inr ⟨rfl, Int.negSucc_eq number⟩⟩
    rw [Int.repr, String.toList_append]
    rfl

section Cells

variable {α : Type} {value? : List Char → Option α} {denotes : List Char → α → Prop}
  (hvalue : ∀ cs value, value? cs = some value ↔ denotes cs value) (refuse : String → CellFault)
  (cell : String)

include hvalue

theorem readWith_eq_ok_iff (hne : ∀ cs value, denotes cs value → cs ≠ []) (value : α) :
    readWith value? refuse cell = .ok value ↔ denotes (Text.trimChars cell.toList) value := by
  by_cases hempty : Text.trimChars cell.toList = []
  · have hread : readWith value? refuse cell = .error .empty := by simp [readWith, hempty]
    exact iff_of_false (by simp [hread]) fun h => hne _ _ h hempty
  · rw [← hvalue]
    cases hfound : value? (Text.trimChars cell.toList) <;> simp [readWith, hempty, hfound]

theorem readWith_eq_error_iff (fault : CellFault) :
    readWith value? refuse cell = .error fault ↔ IsFaultOf denotes refuse cell fault := by
  by_cases hempty : Text.trimChars cell.toList = []
  · have hread : readWith value? refuse cell = .error .empty := by simp [readWith, hempty]
    rw [hread]
    constructor
    · rintro ⟨⟩
      exact .empty hempty
    · intro h
      cases h with
      | empty => rfl
      | refused h => exact absurd hempty h
  · cases hfound : value? (Text.trimChars cell.toList) with
    | some value =>
      have hread : readWith value? refuse cell = .ok value := by simp [readWith, hempty, hfound]
      rw [hread]
      refine iff_of_false (by simp) fun h => ?_
      cases h with
      | empty h => exact hempty h
      | refused _ hnone => exact hnone ⟨value, (hvalue _ _).mp hfound⟩
    | none =>
      have hread : readWith value? refuse cell = .error (refuse cell) := by
        simp [readWith, hempty, hfound]
      have hnone : ¬∃ value, denotes (Text.trimChars cell.toList) value := by
        simp [← hvalue, hfound]
      rw [hread]
      constructor
      · rintro ⟨⟩
        exact .refused hempty hnone
      · intro h
        cases h with
        | empty h => exact absurd h hempty
        | refused => rfl

end Cells

end GuestCases.Numeral
