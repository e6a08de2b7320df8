import GuestCases.Proofs.RoundedRatios
import Mathlib.Data.Nat.Digits.Defs

/-!
Decimals that read back as a magnitude of 64 bits. Decimals with a given number of digits stand on
the grid of multiples of a power of ten, and those that read back are an interval of it. Of them the
nearest is one of the two around the magnitude, a decimal below the grid is no better than one on
it, and the grid of decimals with seventeen digits always holds one.
-/

namespace GuestCases.Numeral

namespace Binary64

theorem quarters_decimal (x : Binary64) (count : ℕ) (power : ℤ) :
    x.quarters (count * 10 ^ power) =
      ((count * Nat.pow 10 power.toNat * (scale 1 4 x.exponent).2 : ℕ) : ℚ) /
        ((Nat.pow 10 (-power).toNat * (scale 1 4 x.exponent).1 : ℕ) : ℚ) := by
  have hten := zpow_eq_div 10 (by decide) power
  have hunit := div_scale 1 4 x.exponent
  have hpower : (2 : ℚ) ^ x.exponent =
      4 * ((scale 1 4 x.exponent).1 / (scale 1 4 x.exponent).2) := by
    rw [hunit]
    push_cast
    ring
  rw [Nat.cast_ofNat] at hten
  rw [quarters, hten, hpower]
  push_cast
  field_simp

/-- A decimal reads back as the magnitude exactly when the magnitude covers it. -/
theorem readsBack_iff (x : Binary64) (count : ℕ) (power : ℤ) :
    x.readsBack count power = true ↔ x.Covers (count * 10 ^ power) := by
  let value := count * Nat.pow 10 power.toNat * (scale 1 4 x.exponent).2
  let grid := Nat.pow 10 (-power).toNat * (scale 1 4 x.exponent).1
  have hgrid : (0 : ℚ) < grid := by
    have hpos : 0 < grid := Nat.mul_pos (Nat.pow_pos (by decide))
      (Nat.mul_pos one_pos (Nat.pow_pos two_pos))
    exact_mod_cast hpos
  have hquarters : x.quarters (count * 10 ^ power) = (value : ℚ) / grid :=
    quarters_decimal x count power
  have hle : ∀ bound : ℕ,
      bound * grid ≤ value ↔ (bound : ℚ) ≤ x.quarters (count * 10 ^ power) := by
    intro bound
    rw [hquarters, le_div_iff₀ hgrid]
    exact_mod_cast Iff.rfl
  have hge : ∀ bound : ℕ,
      value ≤ bound * grid ↔ x.quarters (count * 10 ^ power) ≤ bound := by
    intro bound
    rw [hquarters, div_le_iff₀ hgrid]
    exact_mod_cast Iff.rfl
  have hread : x.readsBack count power =
      if x.mantissa % 2 = 0 then
        decide (x.bounds.1 * grid ≤ value) && decide (value ≤ x.bounds.2 * grid)
      else decide (x.bounds.1 * grid < value) && decide (value < x.bounds.2 * grid) := rfl
  rw [hread]
  rcases Nat.mod_two_eq_zero_or_one x.mantissa with heven | hodd
  · simp only [heven, if_true, Bool.and_eq_true, decide_eq_true_eq, hle, hge]
    exact ⟨fun h => ⟨h.1, h.2, by omega⟩, fun h => ⟨h.low_le, h.le_high⟩⟩
  · simp only [hodd, one_ne_zero, if_false, Bool.and_eq_true, decide_eq_true_eq, ← not_le, hle,
      hge]
    simp only [not_le]
    exact ⟨fun h => ⟨h.1.le, h.2.le, fun _ => h⟩, fun h => h.inside hodd⟩

theorem quarters_le (x : Binary64) {q r : ℚ} (h : q ≤ r) : x.quarters q ≤ x.quarters r :=
  mul_le_mul_of_nonneg_left (div_le_div_of_nonneg_right h (by positivity)) (by norm_num)

/-- What lies between two covered numbers is covered. -/
theorem Covers.between {x : Binary64} {low high q : ℚ} (hlow : x.Covers low)
    (hhigh : x.Covers high) (hle : low ≤ q) (hge : q ≤ high) : x.Covers q where
  low_le := hlow.low_le.trans (x.quarters_le hle)
  le_high := (x.quarters_le hge).trans hhigh.le_high
  inside hodd := ⟨(hlow.inside hodd).1.trans_le (x.quarters_le hle),
    (x.quarters_le hge).trans_lt (hhigh.inside hodd).2⟩

/-- A number within a quarter of a unit is covered, and one within half a unit too unless it is
below a power of two. -/
theorem covers_of_near (x : Binary64) (q : ℚ) (hnonneg : 0 ≤ q)
    (hnear : |q / 2 ^ x.exponent - x.mantissa| < 1 / 2)
    (hfull : x.mantissa = fullMantissa → |q / 2 ^ x.exponent - x.mantissa| < 1 / 4) :
    x.Covers q := by
  by_cases hspaced : x.mantissa = fullMantissa ∧ -1074 < x.exponent
  · obtain ⟨hlow, hhigh⟩ := abs_lt.mp (hfull hspaced.1)
    rw [covers_iff_of_full x q hspaced.1 hspaced.2, ← hspaced.1]
    exact ⟨by linarith, by linarith⟩
  · rw [covers_iff_isRounded x q hnonneg hspaced]
    exact ⟨hnear.le, fun hhalf => absurd hhalf hnear.ne⟩

theorem value_nonneg (x : Binary64) : 0 ≤ x.value :=
  mul_nonneg (Nat.cast_nonneg _) (by positivity)

theorem covers_value (x : Binary64) : x.Covers x.value :=
  covers_of_near x x.value x.value_nonneg (by norm_num [value_div]) (by norm_num [value_div])

/-- Only zero covers zero. -/
theorem Covers.pos {x : Binary64} {q : ℚ} (h : x.Covers q) (hpos : 0 < x.mantissa) : 0 < q := by
  by_contra hle
  have hquarters := x.quarters_le (not_lt.mp hle)
  have hzero : x.quarters 0 = 0 := by simp [quarters]
  have hlow : (x.bounds.1 : ℚ) ≤ 0 := h.low_le.trans (hquarters.trans_eq hzero)
  rw [← Nat.cast_zero, Nat.cast_le, bounds] at hlow
  dsimp only at hlow
  split at hlow <;> omega

theorem ten_zpow_le {low high : ℤ} (h : low ≤ high) : (10 : ℚ) ^ low ≤ 10 ^ high :=
  zpow_le_zpow_right₀ (by norm_num) h

/-- Powers of ten and of two are compared through `10 ^ 3 < 2 ^ 10` above one, and through
`2 ^ 63 < 10 ^ 19` below. -/
theorem ten_zpow_le_two_zpow (ten two : ℤ) (habove : 0 ≤ ten → 10 * ten ≤ 3 * two)
    (hbelow : ten < 0 → 63 * ten ≤ 19 * two) : (10 : ℚ) ^ ten ≤ 2 ^ two := by
  rcases le_or_gt 0 ten with hten | hten
  · refine (pow_le_pow_iff_left₀ (by positivity) (by positivity) three_ne_zero).mp ?_
    calc ((10 : ℚ) ^ ten) ^ 3
        = (10 ^ 3) ^ ten := by rw [← zpow_natCast, ← zpow_natCast, zpow_comm]
      _ ≤ (2 ^ 10) ^ ten := zpow_le_zpow_left₀ hten (by norm_num) (by norm_num)
      _ = 2 ^ (10 * ten) := by rw [← zpow_natCast, ← zpow_mul]; rfl
      _ ≤ 2 ^ (3 * two) := two_zpow_le (habove hten)
      _ = (2 ^ two) ^ 3 := by rw [mul_comm, zpow_mul]; rfl
  · refine (pow_le_pow_iff_left₀ (by positivity) (by positivity) (by decide : 19 ≠ 0)).mp ?_
    calc ((10 : ℚ) ^ ten) ^ 19
        = ((10 ^ 19) ^ (-ten))⁻¹ := by
          rw [zpow_neg, inv_inv, ← zpow_natCast, ← zpow_natCast, zpow_comm]
      _ ≤ ((2 ^ 63) ^ (-ten))⁻¹ := inv_anti₀ (by positivity)
          (zpow_le_zpow_left₀ (by omega) (by norm_num) (by norm_num))
      _ = 2 ^ (63 * ten) := by
          rw [zpow_neg, inv_inv, ← zpow_natCast, ← zpow_mul]
          rfl
      _ ≤ 2 ^ (19 * two) := two_zpow_le (hbelow hten)
      _ = (2 ^ two) ^ 19 := by
          rw [mul_comm, zpow_mul]
          rfl

/-- Steps from an estimate that is not above the place of the point reach it. -/
theorem pointFrom_spec (fuel numerator denominator : ℕ) (estimate : ℤ)
    (hdenominator : 0 < denominator)
    (hlow : (10 : ℚ) ^ (estimate - 1) ≤ (numerator : ℚ) / denominator)
    (hhigh : (numerator : ℚ) / denominator < 10 ^ (estimate + fuel)) :
    (10 : ℚ) ^ (pointFrom fuel numerator denominator estimate - 1) ≤
        (numerator : ℚ) / denominator ∧
      (numerator : ℚ) / denominator < 10 ^ pointFrom fuel numerator denominator estimate := by
  have hden : (0 : ℚ) < denominator := by exact_mod_cast hdenominator
  induction fuel generalizing estimate with
  | zero => exact ⟨hlow, by simpa [pointFrom] using hhigh⟩
  | succ fuel ih =>
    have hcompare : numerator * Nat.pow 10 (-estimate).toNat <
        denominator * Nat.pow 10 estimate.toNat ↔
          (numerator : ℚ) / denominator < 10 ^ estimate := by
      have hten := zpow_eq_div 10 (by decide) estimate
      have hpos : (0 : ℚ) < (Nat.pow 10 (-estimate).toNat : ℕ) := by
        exact_mod_cast (Nat.pow_pos (by decide) : 0 < 10 ^ (-estimate).toNat)
      rw [Nat.cast_ofNat] at hten
      rw [hten, div_lt_div_iff₀ hden hpos, mul_comm (Nat.cast (Nat.pow 10 estimate.toNat))]
      exact_mod_cast Iff.rfl
    rw [pointFrom]
    by_cases hless : numerator * Nat.pow 10 (-estimate).toNat <
        denominator * Nat.pow 10 estimate.toNat
    · rw [if_pos hless]
      exact ⟨hlow, hcompare.mp hless⟩
    · rw [if_neg hless]
      refine ih (estimate + 1) ?_ ?_
      · rw [add_sub_cancel_right]
        exact not_lt.mp (mt hcompare.mpr hless)
      · rw [add_right_comm, add_assoc]
        exact_mod_cast hhigh

theorem value_bounds (x : Binary64) (h : x.Canonical) (hpos : 0 < x.mantissa) :
    (2 : ℚ) ^ (-1074 : ℤ) ≤ x.value ∧ x.value < 2 ^ (1024 : ℤ) := by
  constructor
  · calc (2 : ℚ) ^ (-1074 : ℤ)
        ≤ 2 ^ x.exponent := two_zpow_le h.least_le
      _ ≤ x.mantissa * 2 ^ x.exponent :=
          le_mul_of_one_le_left (by positivity) (by exact_mod_cast hpos)
  · have hbelow : x.value / 2 ^ x.exponent < 2 * fullMantissa := by
      rw [value_div]
      exact_mod_cast h.mantissa_lt
    have := h.le_most
    exact ((lt_full_iff _ _).mp hbelow).trans_le (two_zpow_le (by omega))

theorem div_ratio (x : Binary64) : (x.ratio.1 : ℚ) / x.ratio.2 = x.value := by
  rw [ratio, div_scale, Nat.cast_one, div_one, value]

theorem ratio_pos (x : Binary64) (hpos : 0 < x.mantissa) : 0 < x.ratio.1 ∧ 0 < x.ratio.2 :=
  ⟨Nat.mul_pos hpos (Nat.pow_pos two_pos), scale_pos _ _ one_pos _⟩

/-- The first digit of a magnitude stands right behind its point. -/
theorem point_spec (x : Binary64) (h : x.Canonical) (hpos : 0 < x.mantissa) :
    (10 : ℚ) ^ (x.point - 1) ≤ x.value ∧ x.value < 10 ^ x.point := by
  obtain ⟨hnumerator, hdenominator⟩ := x.ratio_pos hpos
  obtain ⟨hleast, hmost⟩ := x.value_bounds h hpos
  obtain ⟨hlow, hhigh⟩ := log2_bounds _ _ hnumerator hdenominator
  let size : ℤ := (x.ratio.1.log2 : ℤ) - x.ratio.2.log2
  rw [div_ratio] at hlow hhigh
  have hsize : size - 1 < 1024 :=
    (zpow_lt_zpow_iff_right₀ one_lt_two).mp (hlow.trans hmost)
  have hsize' : -1074 < size + 1 :=
    (zpow_lt_zpow_iff_right₀ one_lt_two).mp (hleast.trans_lt hhigh)
  have hfrom := pointFrom_spec 800 x.ratio.1 x.ratio.2 ((size - 1) * 30103 / 100000 - 1)
    hdenominator
  rw [div_ratio] at hfrom
  refine hfrom ((ten_zpow_le_two_zpow _ _ ?_ ?_).trans hlow.le) ?_
  · omega
  · omega
  · calc x.value
        < 2 ^ (16 * 64 : ℤ) := hmost
      _ = (2 ^ (16 : ℤ)) ^ (64 : ℤ) := zpow_mul _ _ _
      _ ≤ (10 ^ (5 : ℤ)) ^ (64 : ℤ) :=
          zpow_le_zpow_left₀ (by norm_num) (by norm_num) (by norm_num)
      _ = 10 ^ (5 * 64 : ℤ) := (zpow_mul _ _ _).symm
      _ ≤ 10 ^ ((size - 1) * 30103 / 100000 - 1 + (800 : ℕ) : ℤ) := ten_zpow_le (by omega)

structure IsNearestOn (x : Binary64) (power : ℤ) (count : ℕ) : Prop where
  reads_back : x.Covers (count * 10 ^ power)
  nearest : ∀ other : ℕ, x.Covers (other * 10 ^ power) →
    |x.value - count * 10 ^ power| ≤ |x.value - other * 10 ^ power|

/-- The whole numbers around a number: one next to it on each side, the nearer one first. -/
structure AreAround (q : ℚ) (best other : ℕ) : Prop where
  near : |q - best| ≤ 1 / 2
  sides : (best : ℚ) ≤ q ∧ q ≤ other ∧ other = best + 1 ∨
    (other : ℚ) ≤ q ∧ q ≤ best ∧ best = other + 1

/-- A whole number is beyond one of the two around a number. -/
theorem AreAround.between {q : ℚ} {best other : ℕ} (h : AreAround q best other) (count : ℕ) :
    ((count : ℚ) ≤ best ∧ (best : ℚ) ≤ q ∨ q ≤ best ∧ (best : ℚ) ≤ count) ∨
      ((count : ℚ) ≤ other ∧ (other : ℚ) ≤ q ∨ q ≤ other ∧ (other : ℚ) ≤ count) := by
  rcases h.sides with ⟨hbest, hother, hnext⟩ | ⟨hother, hbest, hnext⟩
  · rcases Nat.lt_or_ge count other with hlt | hge
    · exact .inl (.inl ⟨by exact_mod_cast (by omega : count ≤ best), hbest⟩)
    · exact .inr (.inr ⟨hother, by exact_mod_cast hge⟩)
  · rcases Nat.lt_or_ge count best with hlt | hge
    · exact .inr (.inl ⟨by exact_mod_cast (by omega : count ≤ other), hother⟩)
    · exact .inl (.inr ⟨hbest, by exact_mod_cast hge⟩)

/-- A whole number within half a step is the nearest one. -/
theorem abs_sub_le_of_near {q : ℚ} {best : ℕ} (h : |q - best| ≤ 1 / 2) (count : ℕ) :
    |q - best| ≤ |q - count| := by
  rcases eq_or_ne count best with rfl | hne
  · exact le_rfl
  · have hstep : (1 : ℚ) ≤ |(best : ℚ) - count| := by
      exact_mod_cast Int.one_le_abs (by omega : (best : ℤ) - count ≠ 0)
    have htriangle := abs_sub_le (best : ℚ) q count
    rw [abs_sub_comm (best : ℚ) q] at htriangle
    linarith

theorem abs_sub_le_of_between {q near far : ℚ}
    (h : far ≤ near ∧ near ≤ q ∨ q ≤ near ∧ near ≤ far) : |q - near| ≤ |q - far| := by
  rcases h with ⟨hfar, hnear⟩ | ⟨hnear, hfar⟩
  · rw [abs_of_nonneg (by linarith), abs_of_nonneg (by linarith)]
    linarith
  · rw [abs_of_nonpos (by linarith), abs_of_nonpos (by linarith)]
    linarith

theorem roundDiv_eq_or (numerator denominator : ℕ) :
    roundDiv numerator denominator = numerator / denominator ∨
      roundDiv numerator denominator = numerator / denominator + 1 := by
  unfold roundDiv
  dsimp only
  split
  · exact .inl rfl
  split
  · exact .inr rfl
  · omega

theorem areAround_roundDiv (numerator denominator : ℕ) (hdenominator : 0 < denominator) :
    AreAround ((numerator : ℚ) / denominator) (roundDiv numerator denominator)
      (if roundDiv numerator denominator = numerator / denominator then
        numerator / denominator + 1 else numerator / denominator) := by
  have hden : (0 : ℚ) < denominator := by exact_mod_cast hdenominator
  have hlow : ((numerator / denominator : ℕ) : ℚ) ≤ (numerator : ℚ) / denominator := by
    rw [le_div_iff₀ hden]
    exact_mod_cast Nat.div_mul_le_self numerator denominator
  have hhigh : (numerator : ℚ) / denominator ≤ (numerator / denominator + 1 : ℕ) := by
    rw [div_le_iff₀ hden, mul_comm]
    exact_mod_cast (Nat.lt_mul_div_succ numerator hdenominator).le
  refine ⟨(isRounded_roundDiv numerator denominator hdenominator).near, ?_⟩
  rcases roundDiv_eq_or numerator denominator with heq | heq
  · rw [if_pos heq, heq]
    exact .inl ⟨hlow, hhigh, rfl⟩
  · rw [if_neg (by omega), heq]
    exact .inr ⟨hlow, hhigh, rfl⟩

/-- The better neighbour is the nearer of the two around the magnitude when that reads back, and
the other one when only that does. -/
theorem exists_areAround (x : Binary64) (power : ℤ) :
    ∃ best other, AreAround (x.value / 10 ^ power) best other ∧
      x.neighbour? power =
        if x.readsBack best power then some best
        else if x.readsBack other power then some other else none := by
  let numerator := x.ratio.1 * Nat.pow 10 (-power).toNat
  let denominator := x.ratio.2 * Nat.pow 10 power.toNat
  have hdenominator : 0 < denominator :=
    Nat.mul_pos (scale_pos _ _ one_pos _) (Nat.pow_pos (by decide))
  have hvalue : (numerator : ℚ) / denominator = x.value / 10 ^ power := by
    have hten := zpow_eq_div 10 (by decide) power
    rw [Nat.cast_ofNat] at hten
    rw [← div_ratio, hten, Nat.cast_mul, Nat.cast_mul, mul_div_mul_comm, div_div_eq_mul_div,
      mul_div_assoc]
  refine ⟨_, _, hvalue ▸ areAround_roundDiv numerator denominator hdenominator, rfl⟩

/-- A decimal on a grid is beyond one of the two around the magnitude, which then reads back. -/
theorem Covers.of_beyond {x : Binary64} {power : ℤ} {near far : ℕ}
    (h : x.Covers (far * 10 ^ power))
    (hbeyond : (far : ℚ) ≤ near ∧ (near : ℚ) ≤ x.value / 10 ^ power ∨
      x.value / 10 ^ power ≤ near ∧ (near : ℚ) ≤ far) : x.Covers (near * 10 ^ power) := by
  have hpos : (0 : ℚ) < 10 ^ power := by positivity
  rw [le_div_iff₀ hpos, div_le_iff₀ hpos] at hbeyond
  rcases hbeyond with ⟨hfar, hnear⟩ | ⟨hnear, hfar⟩
  · exact h.between x.covers_value (mul_le_mul_of_nonneg_right hfar hpos.le) hnear
  · exact x.covers_value.between h hnear (mul_le_mul_of_nonneg_right hfar hpos.le)

theorem abs_sub_le_iff_scaled (q : ℚ) (power : ℤ) (first second : ℕ) :
    |q - first * 10 ^ power| ≤ |q - second * 10 ^ power| ↔
      |q / 10 ^ power - first| ≤ |q / 10 ^ power - second| := by
  have hpos : (0 : ℚ) < 10 ^ power := by positivity
  have hscaled : ∀ count : ℕ,
      |q - count * 10 ^ power| = |q / 10 ^ power - count| * 10 ^ power := fun count => by
    nth_rewrite 3 [← abs_of_pos hpos]
    rw [← abs_mul, sub_mul, div_mul_cancel₀ _ hpos.ne']
  rw [hscaled, hscaled, mul_le_mul_iff_left₀ hpos]

/-- The better neighbour is the nearest multiple that reads back. -/
theorem isNearestOn_of_neighbour? (x : Binary64) (power : ℤ) (found : ℕ)
    (h : x.neighbour? power = some found) : IsNearestOn x power found := by
  obtain ⟨best, other, haround, hneighbour⟩ := exists_areAround x power
  rw [hneighbour] at h
  split at h
  · rename_i hreads
    rw [readsBack_iff] at hreads
    obtain rfl := Option.some.inj h
    refine ⟨hreads, fun count _ => ?_⟩
    rw [abs_sub_le_iff_scaled]
    exact abs_sub_le_of_near haround.near count
  · rename_i hfar
    rw [readsBack_iff] at hfar
    split at h
    · rename_i hreads
      rw [readsBack_iff] at hreads
      obtain rfl := Option.some.inj h
      refine ⟨hreads, fun count hcount => ?_⟩
      rw [abs_sub_le_iff_scaled]
      -- What reads back is not beyond the nearer neighbour, which does not.
      have hother := (haround.between count).resolve_left fun hbest =>
        hfar (hcount.of_beyond hbest)
      exact abs_sub_le_of_between hother
    · cases h

/-- Without a better neighbour no multiple reads back. -/
theorem not_covers_of_neighbour?_eq_none (x : Binary64) (power : ℤ)
    (h : x.neighbour? power = none) (count : ℕ) : ¬x.Covers (count * 10 ^ power) := by
  obtain ⟨best, other, haround, hneighbour⟩ := exists_areAround x power
  rw [hneighbour] at h
  intro hcount
  rcases haround.between count with hbest | hother
  · rw [if_pos ((readsBack_iff _ _ _).mpr (hcount.of_beyond hbest))] at h
    cases h
  · rw [if_pos ((readsBack_iff _ _ _).mpr (hcount.of_beyond hother))] at h
    split at h <;> cases h

theorem le_of_neighbour? (x : Binary64) (power : ℤ) (found bound : ℕ)
    (h : x.neighbour? power = some found) (hbound : x.value < bound * 10 ^ power) :
    found ≤ bound := by
  obtain ⟨best, other, haround, hneighbour⟩ := exists_areAround x power
  rw [← div_lt_iff₀ (by positivity)] at hbound
  have hfound : found = best ∨ found = other := by
    rw [hneighbour] at h
    split at h
    · exact .inl (Option.some.inj h).symm
    split at h
    · exact .inr (Option.some.inj h).symm
    · cases h
  have hless : ∀ {count : ℕ}, (count : ℚ) ≤ x.value / 10 ^ power → count < bound :=
    fun hle => by exact_mod_cast hle.trans_lt hbound
  rcases haround.sides with ⟨hbest, -, hnext⟩ | ⟨hother, -, hnext⟩
  · have := hless hbest
    omega
  · have := hless hother
    omega

section Grids

variable {x : Binary64} (hcanonical : x.Canonical) (hpos : 0 < x.mantissa)

include hcanonical hpos

/-- For a decimal with few digits that reads back there is one on the grid of decimals with so many
digits that does and is no farther. Below the grid the power of ten in front of the magnitude is. -/
theorem exists_on_grid (digits count : ℕ) (power : ℤ) (hdigits : 0 < digits)
    (hcount : count < 10 ^ digits) (hcovers : x.Covers (count * 10 ^ power)) :
    ∃ other : ℕ, x.Covers (other * 10 ^ (x.point - digits)) ∧
      |x.value - other * 10 ^ (x.point - digits)| ≤ |x.value - count * 10 ^ power| := by
  rcases le_or_gt (x.point - digits) power with hle | hlt
  · have hsame : ((count * 10 ^ (power - (x.point - digits)).toNat : ℕ) : ℚ) *
        10 ^ (x.point - digits) = count * 10 ^ power := by
      rw [Nat.cast_mul, Nat.cast_pow, Nat.cast_ofNat, ← zpow_natCast,
        Int.toNat_of_nonneg (by omega), mul_assoc, ← zpow_add₀ (by norm_num), sub_add_cancel]
    exact ⟨_, hsame ▸ hcovers, by rw [hsame]⟩
  · obtain ⟨hlow, -⟩ := x.point_spec hcanonical hpos
    have hfirst : ((10 ^ (digits - 1) : ℕ) : ℚ) * 10 ^ (x.point - digits) =
        10 ^ (x.point - 1) := by
      rw [Nat.cast_pow, Nat.cast_ofNat, ← zpow_natCast, ← zpow_add₀ (by norm_num)]
      congr 1
      omega
    have hbelow : (count : ℚ) * 10 ^ power ≤ 10 ^ (x.point - 1) := by
      calc (count : ℚ) * 10 ^ power
          ≤ 10 ^ (digits : ℤ) * 10 ^ power :=
            mul_le_mul_of_nonneg_right (by exact_mod_cast hcount.le) (by positivity)
        _ = 10 ^ (digits + power) := (zpow_add₀ (by norm_num) _ _).symm
        _ ≤ 10 ^ (x.point - 1) := ten_zpow_le (by omega)
    refine ⟨10 ^ (digits - 1), ?_, ?_⟩ <;> rw [hfirst]
    · exact hcovers.between x.covers_value hbelow hlow
    · exact abs_sub_le_of_between (.inl ⟨hbelow, hlow⟩)

/-- Decimals with seventeen digits stand closer than magnitudes. -/
theorem exists_covers_seventeen : ∃ count : ℕ, x.Covers (count * 10 ^ (x.point - 17)) := by
  obtain ⟨hlow, -⟩ := x.point_spec hcanonical hpos
  obtain ⟨best, -, ⟨hnear, -⟩, -⟩ := exists_areAround x (x.point - 17)
  let grid : ℚ := 10 ^ (x.point - 17)
  have hgrid : 0 < grid := by positivity
  have hunit : (0 : ℚ) < 2 ^ x.exponent := by positivity
  -- Half a step of the grid is at most `5 / 10 ^ 17` of the magnitude.
  have hstep : grid * 10 ^ 16 ≤ x.value := by
    refine hlow.trans' (le_of_eq ?_)
    rw [← zpow_natCast, ← zpow_add₀ (by norm_num)]
    congr 1
    ring
  have hclose : |best * grid / 2 ^ x.exponent - x.mantissa| * (2 * 10 ^ 16) ≤ x.mantissa := by
    have hscaled : |best * grid / 2 ^ x.exponent - x.mantissa| =
        |x.value / grid - best| * grid / 2 ^ x.exponent := by
      rw [← value_div x, ← sub_div, abs_div, abs_of_pos hunit, abs_sub_comm]
      nth_rewrite 3 [← abs_of_pos hgrid]
      rw [← abs_mul, sub_mul, div_mul_cancel₀ _ hgrid.ne']
    calc |best * grid / 2 ^ x.exponent - x.mantissa| * (2 * 10 ^ 16)
        ≤ 1 / 2 * grid / 2 ^ x.exponent * (2 * 10 ^ 16) := by
          rw [hscaled]
          gcongr
      _ = grid * 10 ^ 16 / 2 ^ x.exponent := by ring
      _ ≤ x.value / 2 ^ x.exponent := div_le_div_of_nonneg_right hstep hunit.le
      _ = x.mantissa := value_div x
  have hmantissa : (x.mantissa : ℚ) < 2 * fullMantissa := by exact_mod_cast hcanonical.mantissa_lt
  have hfull : (fullMantissa : ℚ) = 4503599627370496 := by norm_num [fullMantissa]
  rw [hfull] at hmantissa
  refine ⟨best, covers_of_near x _ (by positivity) (by linarith) fun heq => ?_⟩
  have hcast : (x.mantissa : ℚ) = 4503599627370496 := by rw [heq, hfull]
  linarith

end Grids

end Binary64

end GuestCases.Numeral
