import GuestCases.Proofs.NumberParts
import GuestCases.Proofs.ShortestDecimals

/-!
The texts of numbers in JSON read back. What a text spells has an exact value, and a decimal is
written so that the text spells the value of the decimal. So the text of a whole number that was
read is read as the number again, and the text of a real one spells a value that rounds to it.
-/

namespace GuestCases.Json

open Numeral

def Parts.power (parts : Parts) : ℤ :=
  match parts.exponent with
  | none => 0
  | some (isNegative, digits) =>
    if isNegative then -(Nat.ofDigitChars 10 digits 0 : ℤ) else Nat.ofDigitChars 10 digits 0

def Parts.magnitude (parts : Parts) : ℚ :=
  Nat.ofDigitChars 10 (parts.whole ++ parts.fraction.getD []) 0 *
    10 ^ (parts.power - (parts.fraction.getD []).length)

end GuestCases.Json

namespace GuestCases.Numeral

open Json

namespace Decimal

/-- The digits make up a whole part, and zero stands in front of the point. -/
structure IsWritable (d : Decimal) : Prop where
  whole : IsWhole d.digits
  zero : d.digits.head? = some '0' → d.point ≤ 1

theorem IsNormal.isWritable {d : Decimal} (h : d.IsNormal) : d.IsWritable := by
  obtain ⟨first, rest, hfirst, hzero⟩ := h.first
  have hhead : d.digits.head? ≠ some '0' := by
    rw [hfirst]
    exact fun heq => hzero (Option.some.inj heq)
  exact ⟨⟨by simp [hfirst], fun heq => absurd heq hhead, h.digits⟩, fun heq => absurd heq hhead⟩

theorem isDigit_of_mem_zeros (count : ℕ) : ∀ c ∈ List.replicate count '0', isDigit c = true := by
  intro c hc
  rw [List.eq_of_mem_replicate hc]
  rfl

theorem ofDigitChars_zeros (count : ℕ) (digits : List Char) :
    Nat.ofDigitChars 10 (List.replicate count '0' ++ digits) 0 = Nat.ofDigitChars 10 digits 0 := by
  rw [Nat.ofDigitChars_append, Nat.ofDigitChars_replicate_zero, Nat.mul_zero]

theorem exponentOf?_toDigits (power : ℤ) :
    exponentOf? ('e' :: (if power < 0 then '-' else '+') :: Nat.toDigits 10 power.natAbs) =
      some (some (decide (power < 0), Nat.toDigits 10 power.natAbs)) := by
  have hdigits : (Nat.toDigits 10 power.natAbs).all isDigit = true :=
    List.all_eq_true.mpr (isDigit_of_mem_toDigits _)
  by_cases hsign : power < 0 <;>
    simp [exponentOf?, hsign, Nat.toDigits_ne_nil, hdigits]

section Texts

variable {d : Decimal} (h : d.IsWritable) (isNegative : Bool)

include h

/-- A decimal in which the point is behind all digits. -/
theorem spelledBy_whole (hpoint : (d.digits.length : ℤ) ≤ d.point) :
    let parts : Parts := ⟨isNegative,
      d.digits ++ List.replicate (d.point - d.digits.length).toNat '0', some ['0'], none⟩
    parts.SpelledBy d.positional ∧ parts.magnitude = d.value := by
  let zeros := (d.point - d.digits.length).toNat
  have hzeros : (zeros : ℤ) = d.point - d.digits.length := Int.toNat_of_nonneg (by omega)
  refine ⟨⟨⟨?_, fun hhead => ?_, ?_⟩, ?_, [], rfl, ?_⟩, ?_⟩
  · simp [h.whole.ne_nil]
  · rw [List.head?_append_of_ne_nil _ h.whole.ne_nil] at hhead
    have hone := h.whole.zero hhead
    have := h.zero hhead
    simp only [List.length_append, List.length_replicate]
    omega
  · exact List.forall_mem_append.mpr ⟨h.whole.digits, isDigit_of_mem_zeros _⟩
  · rintro digits ⟨⟩
    exact ⟨by simp, by simp [isDigit]⟩
  · simp [positional, hpoint, fractionText]
  · have hcount : Nat.ofDigitChars 10 (d.digits ++ List.replicate zeros '0' ++ ['0']) 0 =
        10 ^ (zeros + 1) * d.count := by
      rw [List.append_assoc, ← List.replicate_succ', Nat.ofDigitChars_append,
        Nat.ofDigitChars_replicate_zero, Decimal.count]
    change ((Nat.ofDigitChars 10 (d.digits ++ List.replicate zeros '0' ++ ['0']) 0 : ℕ) : ℚ) *
      10 ^ (0 - ((1 : ℕ) : ℤ)) = d.value
    rw [hcount, Decimal.value, ← hzeros, Nat.cast_mul, Nat.cast_pow, Nat.cast_ofNat, zpow_natCast,
      pow_succ, Nat.cast_one, zero_sub, zpow_neg_one]
    field_simp

/-- A decimal with the point among its digits. -/
theorem spelledBy_inside (hlow : 0 < d.point) (hhigh : d.point < d.digits.length) :
    let parts : Parts := ⟨isNegative, d.digits.take d.point.toNat,
      some (d.digits.drop d.point.toNat), none⟩
    parts.SpelledBy d.positional ∧ parts.magnitude = d.value := by
  obtain ⟨place, hplace⟩ := Int.eq_ofNat_of_zero_le hlow.le
  have hpositional : d.positional = d.digits.take place ++ '.' :: d.digits.drop place := by
    rw [positional, if_neg (by omega), if_pos hlow, hplace, Int.toNat_natCast]
  have hsplit := List.take_append_drop place d.digits
  have hlength : 0 < place ∧ place < d.digits.length := by omega
  rw [hplace, Int.toNat_natCast]
  have hdigits : ∀ c ∈ d.digits.take place ++ d.digits.drop place, isDigit c = true := by
    rw [hsplit]
    exact h.whole.digits
  obtain ⟨htake, hdrop⟩ := List.forall_mem_append.mp hdigits
  refine ⟨⟨⟨?_, fun hhead => ?_, htake⟩, ?_, [], rfl, ?_⟩, ?_⟩
  · exact List.ne_nil_of_length_pos (by rw [List.length_take]; omega)
  · rw [List.head?_take, if_neg hlength.1.ne'] at hhead
    have hone := h.whole.zero hhead
    omega
  · rintro digits ⟨⟩
    exact ⟨List.ne_nil_of_length_pos (by rw [List.length_drop]; omega), hdrop⟩
  · simp [hpositional, fractionText]
  · change ((Nat.ofDigitChars 10 (d.digits.take place ++ d.digits.drop place) 0 : ℕ) : ℚ) *
      10 ^ (0 - ((d.digits.drop place).length : ℤ)) = d.value
    rw [hsplit, Decimal.value, Decimal.count, List.length_drop]
    congr 2
    omega

/-- A decimal with the point in front of all digits. -/
theorem spelledBy_fraction (hpoint : d.point ≤ 0) :
    let parts : Parts := ⟨isNegative, ['0'],
      some (List.replicate (-d.point).toNat '0' ++ d.digits), none⟩
    parts.SpelledBy d.positional ∧ parts.magnitude = d.value := by
  obtain ⟨zeros, hzeros⟩ := Int.eq_ofNat_of_zero_le (neg_nonneg.mpr hpoint)
  have hsome : 0 < d.digits.length := List.length_pos_iff.mpr h.whole.ne_nil
  have hpositional : d.positional = '0' :: '.' :: List.replicate zeros '0' ++ d.digits := by
    rw [positional, if_neg (by omega), if_neg (by omega), hzeros, Int.toNat_natCast]
  rw [hzeros, Int.toNat_natCast]
  refine ⟨⟨⟨by simp, fun _ => rfl, by simp [isDigit]⟩, ?_, [], rfl, ?_⟩, ?_⟩
  · rintro digits ⟨⟩
    exact ⟨by simp [h.whole.ne_nil],
      List.forall_mem_append.mpr ⟨isDigit_of_mem_zeros _, h.whole.digits⟩⟩
  · simp [hpositional, fractionText]
  · have hcount := ofDigitChars_zeros (zeros + 1) d.digits
    change ((Nat.ofDigitChars 10 ('0' :: (List.replicate zeros '0' ++ d.digits)) 0 : ℕ) : ℚ) *
      10 ^ (0 - ((List.replicate zeros '0' ++ d.digits).length : ℤ)) = d.value
    rw [← List.cons_append, ← List.replicate_succ, hcount, Decimal.value, Decimal.count,
      List.length_append, List.length_replicate]
    congr 2
    push_cast
    omega

/-- A decimal with an exponent. -/
theorem spelledBy_scientific (first : Char) (rest : List Char) (hfirst : d.digits = first :: rest) :
    let parts : Parts := ⟨isNegative, [first], if rest = [] then none else some rest,
      some (decide (d.point - 1 < 0), Nat.toDigits 10 (d.point - 1).natAbs)⟩
    parts.SpelledBy d.scientific ∧ parts.magnitude = d.value := by
  have hdigits : ∀ c ∈ first :: rest, isDigit c = true := hfirst ▸ h.whole.digits
  obtain ⟨hone, hrest⟩ := List.forall_mem_cons.mp hdigits
  have hpower : (if d.point - 1 < 0 then -(Nat.ofDigitChars 10
        (Nat.toDigits 10 (d.point - 1).natAbs) 0 : ℤ)
      else Nat.ofDigitChars 10 (Nat.toDigits 10 (d.point - 1).natAbs) 0) = d.point - 1 := by
    rw [Nat.ofDigitChars_toDigits (by decide) (by decide)]
    split <;> omega
  refine ⟨⟨⟨by simp, fun _ => rfl, by simpa using hone⟩, ?_, _,
    exponentOf?_toDigits (d.point - 1), ?_⟩, ?_⟩
  · split
    · simp
    · rename_i hmore
      rintro digits ⟨⟩
      exact ⟨hmore, hrest⟩
  · cases rest <;> simp [scientific, hfirst, fractionText]
  · have hfraction : (if rest = [] then none else some rest).getD [] = rest := by
      split <;> simp_all
    simp only [Parts.magnitude, Parts.power, hfraction, List.singleton_append, ← hfirst,
      decide_eq_true_eq, hpower, Decimal.value, Decimal.count]
    congr 2
    rw [hfirst, List.length_cons]
    push_cast
    ring

end Texts

/-- A decimal is written so that its value is spelled. -/
theorem exists_spelledBy_text (style : DecimalStyle) {d : Decimal} (h : d.IsWritable)
    (isNegative : Bool) :
    ∃ parts : Parts, parts.isNegative = isNegative ∧ parts.SpelledBy (d.text style) ∧
      parts.magnitude = d.value := by
  rw [text]
  split
  · rcases le_or_gt (d.digits.length : ℤ) d.point with hwhole | hinside
    · exact ⟨_, rfl, spelledBy_whole h isNegative hwhole⟩
    rcases lt_or_ge 0 d.point with hpos | hfraction
    · exact ⟨_, rfl, spelledBy_inside h isNegative hpos hinside⟩
    · exact ⟨_, rfl, spelledBy_fraction h isNegative hfraction⟩
  · obtain ⟨first, rest, hfirst⟩ := List.exists_cons_of_ne_nil h.whole.ne_nil
    exact ⟨_, rfl, spelledBy_scientific h isNegative first rest hfirst⟩

end Decimal

namespace Binary64

/-- What a magnitude is written as is covered by it. -/
theorem shortest_isWritable (x : Binary64) (h : x.Canonical) :
    x.shortest.IsWritable ∧ x.Covers x.shortest.value := by
  rcases Nat.eq_zero_or_pos x.mantissa with hzero | hpos
  · have hshortest : x.shortest = ⟨['0'], 1⟩ := by rw [shortest, if_pos hzero]
    have hvalue : x.shortest.value = x.value := by
      rw [hshortest, value, hzero, Decimal.value, Decimal.count]
      simp [Nat.ofDigitChars]
    rw [hvalue, hshortest]
    exact ⟨⟨⟨by simp, fun _ => rfl, by simp [isDigit]⟩, fun _ => le_rfl⟩, x.covers_value⟩
  · have hshortest := isShortest_shortest x h hpos
    exact ⟨hshortest.normal.isWritable, hshortest.reads_back⟩

end Binary64

end GuestCases.Numeral

namespace GuestCases.Json

open Numeral

/-- The text of a real number spells the shortest decimal of its magnitude. -/
theorem Number.exists_partsOf?_real (isNegative : Bool) (x : Binary64) (h : x.Canonical) :
    ∃ parts, partsOf? (Number.real isNegative x).text.toList = some parts ∧
      parts.isNegative = isNegative ∧ parts.magnitude = x.shortest.value ∧
      x.Covers x.shortest.value := by
  obtain ⟨hwritable, hcovers⟩ := x.shortest_isWritable h
  obtain ⟨parts, hsign, hspelled, hvalue⟩ :=
    Decimal.exists_spelledBy_text style hwritable isNegative
  have htext : (Number.real isNegative x).text.toList =
      (if parts.isNegative then ['-'] else []) ++ x.shortest.text style := by
    rw [Number.text, String.toList_ofList, hsign]
  exact ⟨parts, (partsOf?_eq_some_iff _ _).mpr ⟨_, htext, hspelled⟩, hsign, hvalue, hcovers⟩

def Number.IsRead : Number → Prop
  | .natural value => value < wordBound
  | .negative distance => 0 < distance ∧ distance ≤ 0x8000000000000000
  | .real _ magnitude => magnitude.Canonical

section Canonical

variable {x y z : Binary64}

/-- A magnitude to which a ratio of at least one is rounded is not zero. -/
theorem mantissa_pos_of_ofRatio? (numerator denominator : ℕ) (hdenominator : 0 < denominator)
    (hle : denominator ≤ numerator)
    (h : Binary64.ofRatio? numerator denominator = some x) : 0 < x.mantissa := by
  obtain ⟨hcanonical, hcovers⟩ := (Binary64.ofRatio?_eq_some_iff _ _ hdenominator x).mp h
  refine Nat.pos_of_ne_zero fun hzero => ?_
  have hexponent : x.exponent = -1074 :=
    hcanonical.full_or_least.resolve_left (by rw [hzero]; decide)
  have hone : 1 ≤ (numerator : ℚ) / denominator := by
    rw [one_le_div (by exact_mod_cast hdenominator)]
    exact_mod_cast hle
  have hunits : 1 ≤ (numerator : ℚ) / denominator / 2 ^ x.exponent := by
    rw [one_le_div (by positivity), hexponent]
    exact (Binary64.two_zpow_le (by decide : (-1074 : ℤ) ≤ 0)).trans hone
  have hnear := (hcovers.near (by positivity)).1
  rw [hzero, Nat.cast_zero, sub_zero, abs_of_nonneg (by linarith)] at hnear
  linarith

theorem canonical_of_ofRatio? (numerator denominator : ℕ) (hdenominator : 0 < denominator)
    (h : Binary64.ofRatio? numerator denominator = some x) : x.Canonical :=
  ((Binary64.ofRatio?_eq_some_iff _ _ hdenominator x).mp h).1

theorem ratio_denominator_pos (x : Binary64) : 0 < x.ratio.2 :=
  Binary64.scale_pos _ _ one_pos _

theorem canonical_of_mul? (h : x.mul? y = some z) : z.Canonical :=
  canonical_of_ofRatio? _ _ (Nat.mul_pos (ratio_denominator_pos x) (ratio_denominator_pos y)) h

theorem canonical_of_div? (hpos : 0 < y.mantissa) (h : x.div? y = some z) : z.Canonical :=
  canonical_of_ofRatio? _ _ (Nat.mul_pos (ratio_denominator_pos x) (y.ratio_pos hpos).1) h

theorem mantissa_pos_of_powerOfTen? (exponent : ℕ) (h : Binary64.powerOfTen? exponent = some x) :
    0 < x.mantissa :=
  mantissa_pos_of_ofRatio? _ 1 one_pos (Nat.one_le_iff_ne_zero.mpr (by simp)) h

theorem canonical_of_magnitude? (significand : ℕ) (exponent : ℤ)
    (h : magnitude? significand exponent = some x) : x.Canonical := by
  obtain ⟨start, hstart, h⟩ := Option.bind_eq_some_iff.mp h
  split at h
  · cases h
    exact canonical_of_ofRatio? _ 1 one_pos hstart
  split at h
  · cases h
  split at h
  · obtain ⟨power, -, h⟩ := Option.bind_eq_some_iff.mp h
    exact canonical_of_mul? h
  split at h
  · obtain ⟨power, hpower, h⟩ := Option.bind_eq_some_iff.mp h
    exact canonical_of_div? (mantissa_pos_of_powerOfTen? _ hpower) h
  split at h
  · obtain ⟨first, -, h⟩ := Option.bind_eq_some_iff.mp h
    obtain ⟨scaled, -, h⟩ := Option.bind_eq_some_iff.mp h
    obtain ⟨power, hpower, h⟩ := Option.bind_eq_some_iff.mp h
    exact canonical_of_div? (mantissa_pos_of_powerOfTen? _ hpower) h
  · cases h
    exact Binary64.canonical_zero

end Canonical

theorem gather_lt (significand : ℕ) (cs : List Char) (h : significand < wordBound) :
    (gather significand cs).1 < wordBound := by
  induction cs generalizing significand with
  | nil => exact h
  | cons c rest ih =>
    simp only [gather]
    split
    · exact h
    · rename_i hlt
      exact ih _ (not_le.mp hlt)

theorem isRead_of_map {magnitude : Option Binary64} {isNegative : Bool} {number : Number}
    (hcanonical : ∀ x, magnitude = some x → x.Canonical)
    (h : magnitude.map (Number.real isNegative) = some number) : number.IsRead := by
  obtain ⟨x, hx, rfl⟩ := Option.map_eq_some_iff.mp h
  exact hcanonical x hx

theorem isRead_of_wholeNumber (isNegative : Bool) (value : ℕ) (number : Number)
    (hlt : value < wordBound) (h : wholeNumber isNegative value = some number) :
    number.IsRead := by
  unfold wholeNumber at h
  split at h
  · cases h
    exact hlt
  split at h
  · rename_i hfits
    cases h
    exact hfits
  · exact isRead_of_map (fun x => canonical_of_magnitude? _ _) h

theorem isRead_of_number? (parts : Parts) (number : Number) (h : parts.number? = some number) :
    number.IsRead := by
  have hlt := gather_lt 0 parts.whole (by decide)
  unfold Parts.number? at h
  simp only at h
  split at h
  · split at h
    · exact isRead_of_wholeNumber _ _ _ hlt h
    · exact isRead_of_map (fun x => canonical_of_magnitude? _ _) h
  · refine isRead_of_map (fun x hx => ?_) h
    split at hx
    · exact canonical_of_magnitude? _ _ hx
    split at hx
    · split at hx
      · cases hx
      · cases hx
        exact Binary64.canonical_zero
    · exact canonical_of_magnitude? _ _ hx

theorem isRead_of_ofChars? (cs : List Char) (number : Number)
    (h : Number.ofChars? cs = some number) : number.IsRead := by
  obtain ⟨parts, -, hnumber⟩ := Option.bind_eq_some_iff.mp h
  exact isRead_of_number? parts number hnumber

/-- Whole numbers are read from their text again. The text of a real one spells the shortest decimal
that rounds to its magnitude. -/
def Number.ReadsBack : Number → Prop
  | .natural value =>
    Number.ofChars? (Number.natural value).text.toList = some (.natural value)
  | .negative distance =>
    Number.ofChars? (Number.negative distance).text.toList = some (.negative distance)
  | .real isNegative x => ∃ parts,
    partsOf? (Number.real isNegative x).text.toList = some parts ∧
      parts.isNegative = isNegative ∧ parts.magnitude = x.shortest.value ∧
      x.Covers x.shortest.value ∧ (0 < x.mantissa → x.IsShortest x.shortest)

/-- The text of a number that was read reads back. -/
theorem readsBack_of_ofChars? (cs : List Char) (number : Number)
    (h : Number.ofChars? cs = some number) : number.ReadsBack := by
  have hread := isRead_of_ofChars? cs number h
  cases number with
  | natural value => exact Number.ofChars?_natural value hread
  | negative distance => exact Number.ofChars?_negative distance hread.1 hread.2
  | real isNegative x =>
    obtain ⟨parts, hparts, hsign, hvalue, hcovers⟩ :=
      Number.exists_partsOf?_real isNegative x hread
    exact ⟨parts, hparts, hsign, hvalue, hcovers, x.isShortest_shortest hread⟩

/-- The shortest decimal of a tenth has one digit. -/
example : (Number.ofChars? "100e-3".toList).map Number.text = some "0.1" := by
  decide +kernel

end GuestCases.Json
