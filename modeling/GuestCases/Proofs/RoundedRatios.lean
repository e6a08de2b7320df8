import GuestCases.Numeral.Binary64
import Mathlib.Algebra.Order.Field.Power
import Mathlib.Data.Rat.Floor
import Mathlib.Tactic.FieldSimp
import Mathlib.Tactic.Linarith
import Mathlib.Tactic.NormNum
import Mathlib.Tactic.Positivity
import Mathlib.Tactic.Ring

/-!
Rounding a ratio to a magnitude of 64 bits. Magnitudes are compared as rational numbers, in units
of a last bit. The numbers that round to a magnitude make up an interval, and the magnitude is the
nearest one to each of them; the main statement, `ofRatio?_eq_some_iff`, is that a ratio is rounded
to the magnitude in whose interval it lies.
-/

namespace GuestCases.Numeral

/-- A power with an exponent of either sign, as a ratio of two powers. -/
theorem zpow_eq_div (base : ℕ) (hbase : 0 < base) (power : ℤ) :
    (base : ℚ) ^ power =
      ((Nat.pow base power.toNat : ℕ) : ℚ) / ((Nat.pow base (-power).toNat : ℕ) : ℚ) := by
  have hne : (base : ℚ) ≠ 0 := by positivity
  simp only [Nat.pow_eq, Nat.cast_pow, ← zpow_natCast, ← zpow_sub₀ hne]
  congr 1
  omega

namespace Binary64

structure IsRounded (q : ℚ) (whole : ℕ) : Prop where
  near : |q - whole| ≤ 1 / 2
  even : |q - whole| = 1 / 2 → whole % 2 = 0

theorem IsRounded.eq {q : ℚ} {first second : ℕ} (h : IsRounded q first)
    (h' : IsRounded q second) : first = second := by
  -- Two that differ are a step apart, with the number half-way between them.
  have hapart : ∀ {low high : ℕ}, IsRounded q low → IsRounded q high → ¬low < high := by
    intro low high hlow hhigh hlt
    have hstep : (low : ℚ) + 1 ≤ high := by exact_mod_cast hlt
    have hbelow := (abs_le.mp hlow.near).2
    have habove := (abs_le.mp hhigh.near).1
    have hnext : high = low + 1 := by
      have : (high : ℚ) ≤ low + 1 := by linarith
      exact_mod_cast le_antisymm this hstep
    have heven := hlow.even (by rw [abs_of_nonneg] <;> linarith)
    have heven' := hhigh.even (by rw [abs_of_nonpos] <;> linarith)
    omega
  exact le_antisymm (not_lt.mp (hapart h' h)) (not_lt.mp (hapart h h'))

/-- A half goes to the even neighbour, less than it down and more than it up. -/
theorem isRounded_add (whole : ℕ) (part : ℚ) (hnonneg : 0 ≤ part) (hlt : part < 1) :
    IsRounded (whole + part) (if part < 1 / 2 then whole
      else if 1 / 2 < part then whole + 1 else whole + whole % 2) := by
  have hup : (whole : ℚ) + part - (whole + 1 : ℕ) = part - 1 := by
    push_cast
    ring
  rcases lt_trichotomy part (1 / 2) with hbelow | rfl | habove
  · rw [if_pos hbelow]
    constructor <;> rw [add_sub_cancel_left, abs_of_nonneg hnonneg]
    · exact hbelow.le
    · exact fun heq => absurd heq hbelow.ne
  · simp only [lt_irrefl, if_false]
    rcases Nat.mod_two_eq_zero_or_one whole with heven | hodd
    · rw [heven, add_zero]
      constructor <;> norm_num [heven]
    · rw [hodd]
      constructor <;> rw [hup]
      · norm_num
      · omega
  · rw [if_neg habove.not_gt, if_pos habove]
    constructor <;> rw [hup, abs_of_nonpos (by linarith)]
    · linarith
    · intro heq
      linarith

/-- Dividing with rounding gives the nearest whole number. -/
theorem isRounded_roundDiv (numerator denominator : ℕ) (hpos : 0 < denominator) :
    IsRounded ((numerator : ℚ) / denominator) (roundDiv numerator denominator) := by
  have hden : (0 : ℚ) < denominator := by exact_mod_cast hpos
  let rest := numerator % denominator
  let part : ℚ := rest / denominator
  have hvalue : (numerator : ℚ) / denominator = (numerator / denominator : ℕ) + part := by
    have hsplit : (numerator : ℚ) = denominator * (numerator / denominator : ℕ) + rest := by
      exact_mod_cast (Nat.div_add_mod numerator denominator).symm
    rw [div_eq_iff hden.ne', add_mul, div_mul_cancel₀ _ hden.ne', hsplit, mul_comm]
  have hlt : part < 1 := by
    rw [div_lt_one hden]
    exact_mod_cast Nat.mod_lt numerator hpos
  have hbelow : part < 1 / 2 ↔ 2 * rest < denominator := by
    rw [div_lt_div_iff₀ hden two_pos, one_mul, mul_comm]
    exact_mod_cast Iff.rfl
  have habove : 1 / 2 < part ↔ denominator < 2 * rest := by
    rw [div_lt_div_iff₀ two_pos hden, one_mul, mul_comm]
    exact_mod_cast Iff.rfl
  have hrounded := isRounded_add (numerator / denominator) part (by positivity) hlt
  simp only [hbelow, habove] at hrounded
  rw [hvalue]
  exact hrounded

theorem scale_pos (numerator denominator : ℕ) (hpos : 0 < denominator) (shift : ℤ) :
    0 < (scale numerator denominator shift).2 :=
  Nat.mul_pos hpos (Nat.pow_pos two_pos)

theorem div_scale (numerator denominator : ℕ) (shift : ℤ) :
    ((scale numerator denominator shift).1 : ℚ) / (scale numerator denominator shift).2 =
      (numerator : ℚ) / denominator * 2 ^ shift := by
  have hpower := zpow_eq_div 2 two_pos shift
  rw [Nat.cast_ofNat] at hpower
  rw [scale, hpower, Nat.cast_mul, Nat.cast_mul, mul_div_mul_comm]

theorem fullMantissa_mul_zpow (exponent : ℤ) :
    (fullMantissa : ℚ) * 2 ^ exponent = 2 ^ (52 + exponent) := by
  have hfull : (fullMantissa : ℚ) = 2 ^ (52 : ℤ) := by norm_num [fullMantissa]
  rw [hfull, ← zpow_add₀ two_ne_zero]

theorem full_le_iff (q : ℚ) (exponent : ℤ) :
    (fullMantissa : ℚ) ≤ q / 2 ^ exponent ↔ 2 ^ (52 + exponent) ≤ q := by
  rw [le_div_iff₀ (by positivity), fullMantissa_mul_zpow]

theorem lt_full_iff (q : ℚ) (exponent : ℤ) :
    q / 2 ^ exponent < 2 * fullMantissa ↔ q < 2 ^ (53 + exponent) := by
  rw [div_lt_iff₀ (by positivity), mul_assoc, fullMantissa_mul_zpow, ← zpow_one_add₀ two_ne_zero,
    ← add_assoc]
  rfl

theorem div_zpow_succ (q : ℚ) (exponent : ℤ) : q / 2 ^ (exponent + 1) = q / 2 ^ exponent / 2 := by
  rw [zpow_add_one₀ two_ne_zero, div_div]

theorem two_zpow_le {low high : ℤ} (h : low ≤ high) : (2 : ℚ) ^ low ≤ 2 ^ high :=
  zpow_le_zpow_right₀ one_le_two h

structure IsExponentOf (q : ℚ) (exponent : ℤ) : Prop where
  least_le : -1074 ≤ exponent
  below : q < 2 ^ (53 + exponent)
  above : exponent = -1074 ∨ 2 ^ (52 + exponent) ≤ q

theorem IsExponentOf.eq {q : ℚ} {first second : ℤ} (h : IsExponentOf q first)
    (h' : IsExponentOf q second) : first = second := by
  -- The numbers with the next exponent begin where those with one end.
  have hapart : ∀ {low high : ℤ}, IsExponentOf q low → IsExponentOf q high → ¬low < high := by
    intro low high hlow hhigh hlt
    have habove := hhigh.above.resolve_left (by have := hlow.least_le; omega)
    have hpower : (2 : ℚ) ^ (53 + low) ≤ 2 ^ (52 + high) := two_zpow_le (by omega)
    linarith [hlow.below]
  exact le_antisymm (not_lt.mp (hapart h' h)) (not_lt.mp (hapart h h'))

/-- The lengths of two numbers in bits bound their ratio. -/
theorem log2_bounds (numerator denominator : ℕ) (hnumerator : 0 < numerator)
    (hdenominator : 0 < denominator) :
    (2 : ℚ) ^ ((numerator.log2 : ℤ) - denominator.log2 - 1) < (numerator : ℚ) / denominator ∧
      (numerator : ℚ) / denominator < 2 ^ ((numerator.log2 : ℤ) - denominator.log2 + 1) := by
  have hsub : ∀ a b : ℕ, (2 : ℚ) ^ ((a : ℤ) - b) = (2 ^ a : ℕ) / (2 ^ b : ℕ) := fun a b => by
    rw [zpow_sub₀ two_ne_zero, zpow_natCast, zpow_natCast, Nat.cast_pow, Nat.cast_pow,
      Nat.cast_ofNat]
  have hden : (0 : ℚ) < denominator := by exact_mod_cast hdenominator
  have hpower : ∀ a : ℕ, (0 : ℚ) < (2 ^ a : ℕ) := fun a => by positivity
  constructor
  · rw [sub_sub, ← Nat.cast_succ, hsub, div_lt_div_iff₀ (hpower _) hden]
    have hlow := Nat.log2_self_le hnumerator.ne'
    have hhigh := Nat.lt_log2_self (n := denominator)
    exact_mod_cast Nat.mul_lt_mul_of_le_of_lt hlow hhigh hnumerator
  · rw [sub_add_eq_add_sub, ← Nat.cast_succ, hsub, div_lt_div_iff₀ hden (hpower _)]
    have hlow := Nat.log2_self_le hdenominator.ne'
    have hhigh := Nat.lt_log2_self (n := numerator)
    exact_mod_cast Nat.mul_lt_mul_of_lt_of_le hhigh hlow hdenominator

theorem isExponentOf_exponentFor (numerator denominator : ℕ) (hnumerator : 0 < numerator)
    (hdenominator : 0 < denominator) :
    IsExponentOf ((numerator : ℚ) / denominator) (exponentFor numerator denominator) := by
  obtain ⟨hlow, hhigh⟩ := log2_bounds numerator denominator hnumerator hdenominator
  let guess : ℤ := (numerator.log2 : ℤ) - denominator.log2 - 52
  let scaled := scale numerator denominator (-guess)
  have hcompare : scaled.1 < fullMantissa * scaled.2 ↔
      (numerator : ℚ) / denominator < 2 ^ (52 + guess) := by
    have hdiv := div_scale numerator denominator (-guess)
    have hpos : (0 : ℚ) < scaled.2 := by
      exact_mod_cast scale_pos numerator denominator hdenominator _
    rw [← fullMantissa_mul_zpow, ← div_lt_iff₀ (by positivity), div_eq_mul_inv, ← zpow_neg,
      ← hdiv, div_lt_iff₀ hpos]
    exact_mod_cast Iff.rfl
  -- The estimate is the exponent, or one above it.
  obtain ⟨found, hfound, hbelow, habove⟩ : ∃ found : ℤ,
      exponentFor numerator denominator = max (-1074) found ∧
        (numerator : ℚ) / denominator < 2 ^ (53 + found) ∧
        2 ^ (52 + found) ≤ (numerator : ℚ) / denominator := by
    refine ⟨if scaled.1 < fullMantissa * scaled.2 then guess - 1 else guess, rfl, ?_⟩
    by_cases hless : scaled.1 < fullMantissa * scaled.2
    · rw [if_pos hless]
      exact ⟨(hcompare.mp hless).trans_le (two_zpow_le (by omega)),
        (two_zpow_le (by omega)).trans hlow.le⟩
    · rw [if_neg hless]
      exact ⟨hhigh.trans_le (two_zpow_le (by omega)), not_lt.mp (mt hcompare.mpr hless)⟩
  rw [hfound]
  constructor
  · exact le_max_left _ _
  · exact hbelow.trans_le (two_zpow_le (by omega))
  · rcases le_total (-1074) found with hle | hle
    · exact .inr (by rwa [max_eq_right hle])
    · exact .inl (max_eq_left hle)

/-- A ratio is rounded at its exponent; a mantissa of 54 bits moves on to the next one. -/
theorem ofRatio?_of_isExponentOf (numerator denominator : ℕ) (hnumerator : 0 < numerator)
    (hdenominator : 0 < denominator) (exponent : ℤ) (mantissa : ℕ)
    (hexponent : IsExponentOf ((numerator : ℚ) / denominator) exponent)
    (hmantissa : IsRounded ((numerator : ℚ) / denominator / 2 ^ exponent) mantissa) :
    ofRatio? numerator denominator =
      let rounded : Binary64 := if mantissa = 2 * fullMantissa then ⟨fullMantissa, exponent + 1⟩
        else ⟨mantissa, exponent⟩
      if 971 < rounded.exponent then none else some rounded := by
  obtain rfl := hexponent.eq (isExponentOf_exponentFor _ _ hnumerator hdenominator)
  let scaled := scale numerator denominator (-exponentFor numerator denominator)
  have hrounded := isRounded_roundDiv scaled.1 scaled.2 (scale_pos _ _ hdenominator _)
  rw [div_scale, zpow_neg, ← div_eq_mul_inv] at hrounded
  obtain rfl := hmantissa.eq hrounded
  rw [ofRatio?, if_neg hnumerator.ne']

structure Canonical (x : Binary64) : Prop where
  mantissa_lt : x.mantissa < 2 * fullMantissa
  full_or_least : fullMantissa ≤ x.mantissa ∨ x.exponent = -1074
  least_le : -1074 ≤ x.exponent
  le_most : x.exponent ≤ 971

def value (x : Binary64) : ℚ :=
  x.mantissa * 2 ^ x.exponent

def quarters (x : Binary64) (q : ℚ) : ℚ :=
  4 * (q / 2 ^ x.exponent)

/-- The number lies between the ends of the interval that rounds to the magnitude; the ends belong
to it when the mantissa is even. -/
structure Covers (x : Binary64) (q : ℚ) : Prop where
  low_le : x.bounds.1 ≤ x.quarters q
  le_high : x.quarters q ≤ x.bounds.2
  inside : x.mantissa % 2 = 1 → x.bounds.1 < x.quarters q ∧ x.quarters q < x.bounds.2

theorem cast_sub_le_iff (first second : ℕ) (q : ℚ) (hnonneg : 0 ≤ q) :
    ((first - second : ℕ) : ℚ) ≤ q ↔ (first : ℚ) - second ≤ q := by
  rcases le_total second first with hle | hle
  · rw [Nat.cast_sub hle]
  · have : (first : ℚ) ≤ second := by exact_mod_cast hle
    rw [Nat.sub_eq_zero_of_le hle, Nat.cast_zero]
    exact ⟨fun _ => by linarith, fun _ => hnonneg⟩

/-- Where magnitudes are equally spaced, one covers what rounds to its mantissa. -/
theorem covers_iff_isRounded (x : Binary64) (q : ℚ) (hnonneg : 0 ≤ q)
    (hspaced : ¬(x.mantissa = fullMantissa ∧ -1074 < x.exponent)) :
    x.Covers q ↔ IsRounded (q / 2 ^ x.exponent) x.mantissa := by
  have hunits : 0 ≤ q / 2 ^ x.exponent := by positivity
  have hbounds : x.bounds = (4 * x.mantissa - 2, 4 * x.mantissa + 2) := by
    rw [bounds, if_neg hspaced]
  have hlow := cast_sub_le_iff (4 * x.mantissa) 2 (4 * (q / 2 ^ x.exponent)) (by positivity)
  push_cast at hlow
  have hodd : x.mantissa % 2 = 1 → ((4 * x.mantissa - 2 : ℕ) : ℚ) = 4 * x.mantissa - 2 := by
    intro hodd
    rw [Nat.cast_sub (by omega)]
    push_cast
    rfl
  constructor
  · rintro ⟨hbelow, habove, hinside⟩
    simp only [quarters, hbounds] at hbelow habove hinside
    rw [hlow] at hbelow
    push_cast at habove
    have hnear : |q / 2 ^ x.exponent - x.mantissa| ≤ 1 / 2 :=
      abs_le.mpr ⟨by linarith, by linarith⟩
    refine ⟨hnear, fun hhalf => ?_⟩
    by_contra hne
    have hone : x.mantissa % 2 = 1 := by omega
    obtain ⟨hbelow', habove'⟩ := hinside hone
    rw [hodd hone] at hbelow'
    push_cast at habove'
    have : |q / 2 ^ x.exponent - x.mantissa| < 1 / 2 :=
      abs_lt.mpr ⟨by linarith, by linarith⟩
    exact this.ne hhalf
  · intro hrounded
    obtain ⟨hbelow, habove⟩ := abs_le.mp hrounded.near
    constructor <;> simp only [quarters, hbounds]
    · rw [hlow]
      linarith
    · push_cast
      linarith
    · intro hone
      have hlt : |q / 2 ^ x.exponent - x.mantissa| < 1 / 2 :=
        lt_of_le_of_ne hrounded.near fun hhalf => by
          have := hrounded.even hhalf
          omega
      obtain ⟨hbelow', habove'⟩ := abs_lt.mp hlt
      rw [hodd hone]
      push_cast
      exact ⟨by linarith, by linarith⟩

/-- Below a power of two the next magnitude is half as far away. -/
theorem covers_iff_of_full (x : Binary64) (q : ℚ) (hfull : x.mantissa = fullMantissa)
    (hleast : -1074 < x.exponent) :
    x.Covers q ↔ fullMantissa - 1 / 4 ≤ q / 2 ^ x.exponent ∧
      q / 2 ^ x.exponent ≤ fullMantissa + 1 / 2 := by
  have hbounds : x.bounds = (4 * fullMantissa - 1, 4 * fullMantissa + 2) := by
    rw [bounds, if_pos ⟨hfull, hleast⟩, hfull]
  have hcast : ((4 * fullMantissa - 1 : ℕ) : ℚ) = 4 * fullMantissa - 1 := by
    norm_num [fullMantissa]
  have heven : x.mantissa % 2 ≠ 1 := by
    rw [hfull]
    decide
  constructor
  · rintro ⟨hbelow, habove, -⟩
    simp only [quarters, hbounds, hcast] at hbelow habove
    push_cast at habove
    exact ⟨by linarith, by linarith⟩
  · rintro ⟨hbelow, habove⟩
    constructor <;> simp only [quarters, hbounds, hcast]
    · linarith
    · push_cast
      linarith
    · exact fun hodd => absurd hodd heven

theorem exists_isRounded (numerator denominator : ℕ) (hdenominator : 0 < denominator)
    (exponent : ℤ) :
    ∃ mantissa, IsRounded ((numerator : ℚ) / denominator / 2 ^ exponent) mantissa := by
  let scaled := scale numerator denominator (-exponent)
  have hrounded := isRounded_roundDiv scaled.1 scaled.2 (scale_pos _ _ hdenominator _)
  rw [div_scale, zpow_neg, ← div_eq_mul_inv] at hrounded
  exact ⟨_, hrounded⟩

/-- What a ratio is rounded to is canonical and covers it. -/
theorem covers_of_ofRatio? (numerator denominator : ℕ) (hnumerator : 0 < numerator)
    (hdenominator : 0 < denominator) (x : Binary64)
    (h : ofRatio? numerator denominator = some x) :
    x.Canonical ∧ x.Covers ((numerator : ℚ) / denominator) := by
  have hexponent := isExponentOf_exponentFor _ _ hnumerator hdenominator
  have hleast := hexponent.least_le
  obtain ⟨mantissa, hrounded⟩ := exists_isRounded numerator denominator hdenominator
    (exponentFor numerator denominator)
  rw [ofRatio?_of_isExponentOf _ _ hnumerator hdenominator _ _ hexponent hrounded] at h
  obtain ⟨hlow, hhigh⟩ := abs_le.mp hrounded.near
  have hbelow := (lt_full_iff _ _).mpr hexponent.below
  have habove := hexponent.above.imp_right (full_le_iff _ _).mpr
  have hnonneg : 0 ≤ (numerator : ℚ) / denominator := by positivity
  by_cases hfull : mantissa = 2 * fullMantissa
  · simp only [if_pos hfull] at h
    split at h
    · cases h
    rename_i hmost
    obtain rfl := Option.some.inj h
    have hcast : (mantissa : ℚ) = 2 * fullMantissa := by exact_mod_cast hfull
    refine ⟨⟨?_, .inl le_rfl, by simp only; omega, not_lt.mp hmost⟩, ?_⟩
    · exact (by decide : fullMantissa < 2 * fullMantissa)
    rw [covers_iff_of_full _ _ rfl (by simp only; omega), div_zpow_succ]
    constructor <;> linarith
  · simp only [if_neg hfull] at h
    split at h
    · cases h
    rename_i hmost
    obtain rfl := Option.some.inj h
    have hlt : mantissa < 2 * fullMantissa := by
      have : (mantissa : ℚ) < (2 * fullMantissa + 1 : ℕ) := by
        push_cast
        linarith
      have : mantissa < 2 * fullMantissa + 1 := by exact_mod_cast this
      omega
    refine ⟨⟨hlt, ?_, hleast, not_lt.mp hmost⟩, ?_⟩
    · refine habove.symm.imp_left fun hle => ?_
      have : (fullMantissa : ℚ) < (mantissa + 1 : ℕ) := by
        push_cast
        linarith
      have : fullMantissa < mantissa + 1 := by exact_mod_cast this
      exact Nat.lt_succ_iff.mp this
    · by_cases hspaced : mantissa = fullMantissa ∧ -1074 < exponentFor numerator denominator
      · have hle := habove.resolve_left hspaced.2.ne'
        have hcast : (mantissa : ℚ) = fullMantissa := by exact_mod_cast hspaced.1
        rw [covers_iff_of_full _ _ hspaced.1 hspaced.2]
        exact ⟨by linarith, by linarith⟩
      · exact (covers_iff_isRounded _ _ hnonneg hspaced).mpr hrounded

theorem ofRatio?_of_covers (numerator denominator : ℕ) (hnumerator : 0 < numerator)
    (hdenominator : 0 < denominator) (x : Binary64) (hcanonical : x.Canonical)
    (hcovers : x.Covers ((numerator : ℚ) / denominator)) :
    ofRatio? numerator denominator = some x := by
  let units : ℚ := (numerator : ℚ) / denominator / 2 ^ x.exponent
  have hnonneg : 0 ≤ (numerator : ℚ) / denominator := by positivity
  have hcast : (x.mantissa : ℚ) ≤ 2 * fullMantissa - 1 := by
    have : x.mantissa + 1 ≤ 2 * fullMantissa := hcanonical.mantissa_lt
    have : ((x.mantissa + 1 : ℕ) : ℚ) ≤ (2 * fullMantissa : ℕ) := by exact_mod_cast this
    push_cast at this
    linarith
  -- A number covered at its own exponent is rounded there; one below a power of two moves up.
  have hsame : IsExponentOf ((numerator : ℚ) / denominator) x.exponent →
      IsRounded units x.mantissa → ofRatio? numerator denominator = some x := by
    intro hexponent hrounded
    rw [ofRatio?_of_isExponentOf _ _ hnumerator hdenominator _ _ hexponent hrounded]
    simp only [if_neg hcanonical.mantissa_lt.ne, if_neg (not_lt.mpr hcanonical.le_most)]
  by_cases hspaced : x.mantissa = fullMantissa ∧ -1074 < x.exponent
  · obtain ⟨hlow, hhigh⟩ := (covers_iff_of_full _ _ hspaced.1 hspaced.2).mp hcovers
    have hfull : (1 : ℚ) < fullMantissa := by exact_mod_cast (by decide : 1 < fullMantissa)
    rcases le_or_gt (fullMantissa : ℚ) units with habove | hbelow
    · refine hsame ⟨hcanonical.least_le, (lt_full_iff _ _).mp (by linarith),
        .inr ((full_le_iff _ _).mp habove)⟩ ?_
      rw [hspaced.1]
      exact ⟨abs_le.mpr ⟨by linarith, by linarith⟩, fun _ => by decide⟩
    · have hunits := div_zpow_succ ((numerator : ℚ) / denominator) (x.exponent - 1)
      rw [sub_add_cancel] at hunits
      have hexponent : IsExponentOf ((numerator : ℚ) / denominator) (x.exponent - 1) :=
        ⟨by omega, (lt_full_iff _ _).mp (by linarith), .inr ((full_le_iff _ _).mp (by linarith))⟩
      have hrounded : IsRounded ((numerator : ℚ) / denominator / 2 ^ (x.exponent - 1))
          (2 * fullMantissa) := by
        refine ⟨?_, fun _ => by decide⟩
        push_cast
        exact abs_le.mpr ⟨by linarith, by linarith⟩
      rw [ofRatio?_of_isExponentOf _ _ hnumerator hdenominator _ _ hexponent hrounded]
      simp only [if_true, sub_add_cancel, if_neg (not_lt.mpr hcanonical.le_most), ← hspaced.1]
  · have hrounded := (covers_iff_isRounded _ _ hnonneg hspaced).mp hcovers
    obtain ⟨hlow, hhigh⟩ := abs_le.mp hrounded.near
    refine hsame ⟨hcanonical.least_le, (lt_full_iff _ _).mp (by linarith), ?_⟩ hrounded
    rw [or_iff_not_imp_left, ← full_le_iff]
    intro hne
    have hlt : fullMantissa + 1 ≤ x.mantissa := by
      have := hcanonical.full_or_least.resolve_right hne
      have := hcanonical.least_le
      omega
    have : ((fullMantissa + 1 : ℕ) : ℚ) ≤ x.mantissa := by exact_mod_cast hlt
    push_cast at this
    linarith

theorem canonical_zero : zero.Canonical :=
  ⟨by decide, .inr rfl, by decide, by decide⟩

/-- A ratio is rounded to the canonical magnitude that covers it. -/
theorem ofRatio?_eq_some_iff (numerator denominator : ℕ) (hdenominator : 0 < denominator)
    (x : Binary64) :
    ofRatio? numerator denominator = some x ↔
      x.Canonical ∧ x.Covers ((numerator : ℚ) / denominator) := by
  rcases Nat.eq_zero_or_pos numerator with rfl | hnumerator
  · have hzero : ∀ x : Binary64, x.quarters ((0 : ℕ) / denominator : ℚ) = 0 := by simp [quarters]
    rw [ofRatio?, if_pos rfl, Option.some.injEq]
    constructor
    · rintro rfl
      refine ⟨canonical_zero, ?_⟩
      constructor <;> rw [hzero] <;> simp [bounds, zero]
    · rintro ⟨hcanonical, hlow, -, -⟩
      rw [hzero, ← Nat.cast_zero, Nat.cast_le, bounds] at hlow
      have hmantissa : x.mantissa = 0 := by
        dsimp only at hlow
        split at hlow <;> omega
      have hexponent := hcanonical.full_or_least.resolve_left
        (by rw [hmantissa]; decide)
      obtain ⟨mantissa, exponent⟩ := x
      simp only at hmantissa hexponent
      rw [hmantissa, hexponent, zero]
  · exact ⟨covers_of_ofRatio? _ _ hnumerator hdenominator x,
      fun h => ofRatio?_of_covers _ _ hnumerator hdenominator x h.1 h.2⟩

/-- A magnitude in units of the last bit of another one is apart from its mantissa by a unit, or
by half a unit below a power of two. -/
theorem units_apart (x y : Binary64) (hx : x.Canonical) (hy : y.Canonical) :
    y.value / 2 ^ x.exponent = x.mantissa ∨
      x.mantissa + 1 ≤ y.value / 2 ^ x.exponent ∨
      y.value / 2 ^ x.exponent ≤ x.mantissa - 1 ∨
      (x.mantissa = fullMantissa ∧ -1074 < x.exponent) ∧
        y.value / 2 ^ x.exponent ≤ x.mantissa - 1 / 2 := by
  have hunits : y.value / 2 ^ x.exponent = y.mantissa * 2 ^ (y.exponent - x.exponent) := by
    rw [value, mul_div_assoc, ← zpow_sub₀ two_ne_zero]
  rcases le_or_gt x.exponent y.exponent with hle | hlt
  · have hwhole : y.value / 2 ^ x.exponent =
        (y.mantissa * 2 ^ (y.exponent - x.exponent).toNat : ℕ) := by
      rw [hunits, Nat.cast_mul, Nat.cast_pow, Nat.cast_ofNat, ← zpow_natCast,
        Int.toNat_of_nonneg (sub_nonneg.mpr hle)]
    rw [hwhole]
    rcases lt_trichotomy (y.mantissa * 2 ^ (y.exponent - x.exponent).toNat) x.mantissa with
      hbelow | heq | habove
    · refine .inr (.inr (.inl ?_))
      rw [le_sub_iff_add_le]
      exact_mod_cast hbelow
    · exact .inl (by exact_mod_cast heq)
    · exact .inr (.inl (by exact_mod_cast habove))
  · -- At a lower exponent a magnitude is below all that have 53 bits at this one.
    have hleast : -1074 < x.exponent := lt_of_le_of_lt hy.least_le hlt
    have hfull : fullMantissa ≤ x.mantissa := hx.full_or_least.resolve_right hleast.ne'
    have hbelow : y.value / 2 ^ x.exponent ≤ fullMantissa - 1 / 2 := by
      have hpower : (2 : ℚ) ^ (y.exponent - x.exponent) ≤ 2 ^ (-1 : ℤ) := two_zpow_le (by omega)
      have hmantissa : ((y.mantissa + 1 : ℕ) : ℚ) ≤ (2 * fullMantissa : ℕ) := by
        exact_mod_cast hy.mantissa_lt
      push_cast at hmantissa
      calc y.value / 2 ^ x.exponent
          ≤ y.mantissa * 2 ^ (-1 : ℤ) := by
            rw [hunits]
            exact mul_le_mul_of_nonneg_left hpower (Nat.cast_nonneg _)
        _ ≤ fullMantissa - 1 / 2 := by
            rw [zpow_neg_one]
            linarith
    rcases hfull.eq_or_lt with heq | hmore
    · exact .inr (.inr (.inr ⟨⟨heq.symm, hleast⟩, heq ▸ hbelow⟩))
    · have hmore' : ((fullMantissa + 1 : ℕ) : ℚ) ≤ x.mantissa := by exact_mod_cast hmore
      push_cast at hmore'
      exact .inr (.inr (.inl (by linarith)))

theorem abs_sub_eq_scaled (q r : ℚ) (exponent : ℤ) :
    |q - r| = |q / 2 ^ exponent - r / 2 ^ exponent| * 2 ^ exponent := by
  have hpos : (0 : ℚ) < 2 ^ exponent := by positivity
  rw [← sub_div, abs_div, abs_of_pos hpos, div_mul_cancel₀ _ hpos.ne']

theorem value_div (x : Binary64) : x.value / 2 ^ x.exponent = x.mantissa :=
  mul_div_cancel_right₀ _ (by positivity)

/-- A covered number is at most half a unit away, and less than that from an odd mantissa. -/
theorem Covers.near {x : Binary64} {q : ℚ} (h : x.Covers q) (hnonneg : 0 ≤ q) :
    |q / 2 ^ x.exponent - x.mantissa| ≤ 1 / 2 ∧
      (x.mantissa % 2 = 1 → |q / 2 ^ x.exponent - x.mantissa| < 1 / 2) := by
  by_cases hspaced : x.mantissa = fullMantissa ∧ -1074 < x.exponent
  · obtain ⟨hlow, hhigh⟩ := (covers_iff_of_full x q hspaced.1 hspaced.2).mp h
    have heven : x.mantissa % 2 ≠ 1 := by
      rw [hspaced.1]
      decide
    rw [hspaced.1]
    exact ⟨abs_le.mpr ⟨by linarith, by linarith⟩, fun hodd => absurd (hspaced.1 ▸ hodd) heven⟩
  · have hrounded := (covers_iff_isRounded x q hnonneg hspaced).mp h
    refine ⟨hrounded.near, fun hodd => lt_of_le_of_ne hrounded.near fun hhalf => ?_⟩
    have := hrounded.even hhalf
    omega

/-- No canonical magnitude is nearer to a number than one that covers it, and one with an odd
mantissa is the only nearest. -/
theorem Covers.nearest {x : Binary64} {q : ℚ} (h : x.Covers q) (hnonneg : 0 ≤ q)
    (hx : x.Canonical) (y : Binary64) (hy : y.Canonical) :
    |q - x.value| ≤ |q - y.value| ∧
      (x.mantissa % 2 = 1 → y.value ≠ x.value → |q - x.value| < |q - y.value|) := by
  have hpos : (0 : ℚ) < 2 ^ x.exponent := by positivity
  obtain ⟨hnear, hodd⟩ := h.near hnonneg
  rw [abs_sub_eq_scaled q x.value x.exponent, abs_sub_eq_scaled q y.value x.exponent, value_div,
    mul_le_mul_iff_left₀ hpos, mul_lt_mul_iff_left₀ hpos]
  -- Any other magnitude is at least half a unit away, or the next one below a power of two.
  have hfar : 1 / 2 ≤ |q / 2 ^ x.exponent - y.value / 2 ^ x.exponent| →
      |q / 2 ^ x.exponent - x.mantissa| ≤ |q / 2 ^ x.exponent - y.value / 2 ^ x.exponent| ∧
        (x.mantissa % 2 = 1 → y.value ≠ x.value → |q / 2 ^ x.exponent - x.mantissa| <
          |q / 2 ^ x.exponent - y.value / 2 ^ x.exponent|) :=
    fun hhalf => ⟨hnear.trans hhalf, fun hone _ => (hodd hone).trans_le hhalf⟩
  obtain ⟨hlow, hhigh⟩ := abs_le.mp hnear
  rcases units_apart x y hx hy with heq | habove | hbelow | ⟨hspaced, hbelow⟩
  · rw [heq]
    refine ⟨le_rfl, fun _ hne => absurd ?_ hne⟩
    rw [← div_mul_cancel₀ y.value hpos.ne', heq, value]
  · exact hfar (le_abs.mpr (.inr (by linarith)))
  · exact hfar (le_abs.mpr (.inl (by linarith)))
  · obtain ⟨hquarter, -⟩ := (covers_iff_of_full x q hspaced.1 hspaced.2).mp h
    rw [← hspaced.1] at hquarter
    have hself := le_abs_self (q / 2 ^ x.exponent - y.value / 2 ^ x.exponent)
    refine ⟨abs_le.mpr ⟨by linarith, by linarith⟩, fun hone => ?_⟩
    rw [hspaced.1] at hone
    exact absurd hone (by decide)

end Binary64

end GuestCases.Numeral
