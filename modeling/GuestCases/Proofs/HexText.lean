import GuestCases.Numeral.Digits

/-!
The normal form of hexadecimal cells reads back. The digits of a number, read from the left,
give the number again, and neither a blank nor a sign stands among them.
-/

namespace GuestCases.Numeral

theorem valueFrom_append (base high : Nat) (cs : List Char) (c : Char) :
    valueFrom base high (cs ++ [c]) =
      (valueFrom base high cs).bind fun value =>
        (digitIn? base c).map fun digit => value * base + digit := by
  induction cs generalizing high with
  | nil =>
    simp only [List.nil_append, valueFrom, Option.bind_some]
    cases digitIn? base c <;> rfl
  | cons d rest ih =>
    simp only [List.cons_append, valueFrom]
    cases digitIn? base d with
    | none => rfl
    | some digit => exact ih _

theorem digitIn?_digitChar : ∀ digit < 16, digitIn? 16 (Nat.digitChar digit) = some digit := by
  decide

theorem isBlank_digitChar : ∀ digit < 16, Text.isBlank (Nat.digitChar digit) = false := by
  decide

theorem digitChar_ne_plus : ∀ digit < 16, Nat.digitChar digit ≠ '+' := by
  decide

theorem exists_digit_of_mem_toDigits (value : Nat) (c : Char) (h : c ∈ Nat.toDigits 16 value) :
    ∃ digit < 16, c = Nat.digitChar digit := by
  induction value using Nat.strongRecOn with
  | ind value ih =>
    by_cases hsmall : value < 16
    · rw [Nat.toDigits_of_lt_base hsmall, List.mem_singleton] at h
      exact ⟨value, hsmall, h⟩
    · rw [Nat.toDigits_of_base_le (by omega) (by omega), List.mem_append,
        List.mem_singleton] at h
      rcases h with hhigh | hlow
      · exact ih (value / 16) (by omega) hhigh
      · exact ⟨value % 16, by omega, hlow⟩

/-- The first digit of a number is no zero when another one follows. -/
theorem toDigits_eq_cons {base : Nat} (hlow : 1 < base) (hbase : base ≤ 16) (value : Nat) :
    ∃ first rest, Nat.toDigits base value = first :: rest ∧ (first = '0' → rest = []) ∧
      (first = '0' → value = 0) := by
  induction value using Nat.strongRecOn with
  | ind value ih =>
    by_cases hsmall : value < base
    · have hzero : ∀ digit < 16, Nat.digitChar digit = '0' → digit = 0 := by decide
      exact ⟨Nat.digitChar value, [], Nat.toDigits_of_lt_base hsmall, fun _ => rfl,
        hzero value (by omega)⟩
    · obtain ⟨first, rest, hdigits, -, hnone⟩ :=
        ih (value / base) (Nat.div_lt_self (by omega) hlow)
      have hfirst : first ≠ '0' := fun heq => by
        have hdiv := Nat.div_pos (Nat.le_of_not_lt hsmall) (by omega)
        have := hnone heq
        omega
      rw [Nat.toDigits_of_base_le hlow (by omega), hdigits]
      exact ⟨first, _, rfl, fun heq => absurd heq hfirst, fun heq => absurd heq hfirst⟩

theorem valueFrom_toDigits (value : Nat) : valueFrom 16 0 (Nat.toDigits 16 value) = some value := by
  induction value using Nat.strongRecOn with
  | ind value ih =>
    by_cases hsmall : value < 16
    · rw [Nat.toDigits_of_lt_base hsmall]
      simp [valueFrom, digitIn?_digitChar value hsmall]
    · have hlow : value % 16 < 16 := Nat.mod_lt value (by omega)
      rw [Nat.toDigits_of_base_le (by omega) (by omega), valueFrom_append,
        ih (value / 16) (by omega), digitIn?_digitChar _ hlow]
      simp only [Option.bind_some, Option.map_some, Option.some.injEq]
      omega

theorem unsigned?_toDigits (value : Nat) : unsigned? 16 (Nat.toDigits 16 value) = some value := by
  have hnatural : natural? 16 (Nat.toDigits 16 value) = some value := by
    simp [natural?, Nat.toDigits_ne_nil, valueFrom_toDigits]
  unfold unsigned?
  split
  · rename_i rest hdigits
    obtain ⟨digit, hdigit, heq⟩ := exists_digit_of_mem_toDigits value '+' (by simp [hdigits])
    exact absurd heq.symm (digitChar_ne_plus digit hdigit)
  · exact hnatural

theorem toList_hexText (value : Nat) :
    (hexText value).toList = '0' :: 'x' :: Nat.toDigits 16 value :=
  String.toList_ofList

theorem trimChars_hexText (value : Nat) :
    Text.trimChars (hexText value).toList = (hexText value).toList := by
  have hblank : ∀ c ∈ (hexText value).toList, Text.isBlank c = false := by
    rw [toList_hexText]
    intro c hc
    rcases List.mem_cons.mp hc with rfl | hc
    · decide
    · rcases List.mem_cons.mp hc with rfl | hc
      · decide
      · obtain ⟨digit, hdigit, rfl⟩ := exists_digit_of_mem_toDigits value c hc
        exact isBlank_digitChar digit hdigit
  exact Text.trimChars_eq_self _ (fun c hc => hblank c (List.mem_of_head? hc))
    (fun c hc => hblank c (List.mem_of_getLast? hc))

/-- The normal form of a word reads back as the word. -/
theorem readHex_hexText (value : Nat) (h : value < wordBound) :
    readHex (hexText value) = .ok value := by
  have hvalue : hexValue? (hexText value).toList = some value := by
    simp [toList_hexText, hexValue?, afterHexMark?, word?, unsigned?_toDigits, h]
  rw [readHex, trimChars_hexText, hvalue, toList_hexText]
  rfl

theorem readHex_lt (cell : String) (value : Nat) (h : readHex cell = .ok value) :
    value < wordBound := by
  simp only [readHex] at h
  split at h
  · cases h
  · split at h
    · rename_i found hfound
      cases h
      have hword := (Option.filter_eq_some_iff.mp hfound).2
      simpa using hword
    · cases h

end GuestCases.Numeral
