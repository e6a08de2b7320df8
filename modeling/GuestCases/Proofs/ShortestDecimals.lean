import GuestCases.Proofs.DecimalGrids
import GuestCases.Proofs.HexText
import Mathlib.Data.List.TakeWhile

/-!
The shortest decimal of a magnitude of 64 bits reads back as the magnitude, no decimal with fewer
digits does, and none with as many that does is nearer.
-/

namespace GuestCases.Numeral

namespace Binary64

/-- The decimal on the first grid that holds one which reads back. -/
theorem exists_firstGrid? (x : Binary64) (start length last : ℕ) (hstart : start ≤ last)
    (hlast : last < start + length) (h : x.neighbour? (x.point - last) ≠ none) :
    ∃ count found : ℕ, start ≤ count ∧ count ≤ last ∧
      (∀ earlier : ℕ, start ≤ earlier → earlier < count →
        x.neighbour? (x.point - earlier) = none) ∧
      x.neighbour? (x.point - count) = some found ∧
      x.firstGrid? (List.range' start length) =
        some ⟨dropZeros (Nat.toDigits 10 found),
          x.point - count + (Nat.toDigits 10 found).length⟩ := by
  induction length generalizing start with
  | zero => omega
  | succ length ih =>
    rw [List.range'_succ, firstGrid?]
    cases hfound : x.neighbour? (x.point - start) with
    | some found =>
      exact ⟨start, found, le_rfl, hstart, fun _ _ _ => by omega, hfound, rfl⟩
    | none =>
      have hne : start ≠ last := fun heq => h (heq ▸ hfound)
      obtain ⟨count, found, hle, hcount, hbefore, hneighbour, hgrid⟩ :=
        ih (start + 1) (by omega) (by omega)
      refine ⟨count, found, by omega, hcount, fun earlier hearlier hlt => ?_, hneighbour, hgrid⟩
      rcases hearlier.eq_or_lt with rfl | hmore
      · exact hfound
      · exact hbefore earlier hmore hlt

end Binary64

namespace Decimal

def count (d : Decimal) : ℕ :=
  Nat.ofDigitChars 10 d.digits 0

def value (d : Decimal) : ℚ :=
  d.count * 10 ^ (d.point - d.digits.length)

structure IsNormal (d : Decimal) : Prop where
  digits : ∀ c ∈ d.digits, c.isDigit = true
  first : ∃ first rest, d.digits = first :: rest ∧ first ≠ '0'
  last : d.digits.getLast? ≠ some '0'

end Decimal

namespace Binary64

/-- Zeros are dropped from the end of digits. -/
theorem exists_dropZeros (digits : List Char) :
    ∃ zeros, digits = dropZeros digits ++ List.replicate zeros '0' ∧
      (dropZeros digits).getLast? ≠ some '0' := by
  obtain ⟨zeros, hzeros⟩ : ∃ zeros,
      digits.reverse.takeWhile (· == '0') = List.replicate zeros '0' :=
    ⟨_, List.eq_replicate_of_mem fun c hc => by simpa using List.mem_takeWhile_imp hc⟩
  refine ⟨zeros, ?_, ?_⟩
  · calc digits
        = (digits.reverse.takeWhile (· == '0') ++ digits.reverse.dropWhile (· == '0')).reverse := by
          rw [List.takeWhile_append_dropWhile, List.reverse_reverse]
      _ = dropZeros digits ++ List.replicate zeros '0' := by
          rw [List.reverse_append, hzeros, List.reverse_replicate, dropZeros]
  · intro h
    have hfirst := List.head?_dropWhile_not (· == '0') digits.reverse
    rw [dropZeros, List.getLast?_reverse] at h
    simp [h] at hfirst

/-- A number has as many digits as the power of ten below it. -/
theorem pow_length_toDigits_le (found : ℕ) (hpos : 0 < found) :
    10 ^ ((Nat.toDigits 10 found).length - 1) ≤ found := by
  rcases Nat.eq_zero_or_pos ((Nat.toDigits 10 found).length - 1) with hzero | hmore
  · rw [hzero]
    exact hpos
  · by_contra hlt
    have hle := (Nat.length_toDigits_le_iff (by decide) hmore).mpr (not_le.mp hlt)
    omega

structure IsTrimmed (d : Decimal) (found : ℕ) (power : ℤ) : Prop where
  normal : d.IsNormal
  value_eq : d.value = found * 10 ^ power
  count_le : d.count ≤ found
  pow_le : 10 ^ (d.digits.length - 1) ≤ d.count
  count_lt : d.count < 10 ^ d.digits.length

theorem isTrimmed_of_digits (d : Decimal) (found zeros : ℕ) (power : ℤ) (hpos : 0 < found)
    (hsplit : Nat.toDigits 10 found = d.digits ++ List.replicate zeros '0')
    (hlast : d.digits.getLast? ≠ some '0')
    (hpoint : d.point = power + (Nat.toDigits 10 found).length) : IsTrimmed d found power := by
  have hlength : (Nat.toDigits 10 found).length = d.digits.length + zeros := by
    rw [hsplit, List.length_append, List.length_replicate]
  have hcount : 10 ^ zeros * d.count = found := by
    rw [Decimal.count, ← Nat.ofDigitChars_replicate_zero, ← Nat.ofDigitChars_append, ← hsplit,
      Nat.ofDigitChars_toDigits (by decide) (by decide)]
  have hzeros : 0 < 10 ^ zeros := Nat.pow_pos (by decide)
  obtain ⟨first, rest, hfirst⟩ : ∃ first rest, d.digits = first :: rest := by
    refine List.exists_cons_of_ne_nil fun hnil => ?_
    rw [Decimal.count, hnil, Nat.ofDigitChars_nil, Nat.mul_zero] at hcount
    exact hpos.ne hcount
  have hmore : 0 < d.digits.length := by simp [hfirst]
  constructor
  case normal =>
    refine ⟨fun c hc => ?_, ⟨first, rest, hfirst, ?_⟩, hlast⟩
    · have hmem : c ∈ Nat.toDigits 10 found := hsplit ▸ List.mem_append_left _ hc
      exact Nat.isDigit_of_mem_toDigits (by decide) (by decide) hmem
    · obtain ⟨digit, others, hcons, -, hzero⟩ :=
        toDigits_eq_cons (by decide : 1 < 10) (by decide) found
      rw [hcons, hfirst, List.cons_append] at hsplit
      obtain ⟨rfl, -⟩ := List.cons.inj hsplit
      exact fun heq => hpos.ne' (hzero heq)
  case value_eq =>
    have hexponent : d.point - d.digits.length = power + zeros := by
      rw [hpoint, hlength]
      push_cast
      ring
    rw [Decimal.value, hexponent, zpow_add₀ (by norm_num), zpow_natCast, ← hcount]
    push_cast
    ring
  case count_le => exact hcount ▸ Nat.le_mul_of_pos_left _ hzeros
  case pow_le =>
    refine Nat.le_of_mul_le_mul_left ?_ hzeros
    rw [hcount, ← pow_add, ← Nat.add_sub_assoc hmore, Nat.add_comm, ← hlength]
    exact pow_length_toDigits_le found hpos
  case count_lt =>
    refine Nat.lt_of_mul_lt_mul_left (a := 10 ^ zeros) ?_
    rw [hcount, ← pow_add, Nat.add_comm, ← hlength,
      ← Nat.length_toDigits_le_iff (by decide) (by omega)]

/-- Digits without a zero at their end do not make up a multiple of ten. -/
theorem count_mod_ten_ne_zero (d : Decimal) (h : d.IsNormal) : d.count % 10 ≠ 0 := by
  obtain ⟨first, rest, hfirst, -⟩ := h.first
  cases hend : d.digits.getLast? with
  | none => simp [hfirst] at hend
  | some last =>
    obtain ⟨init, hsplit⟩ := List.getLast?_eq_some_iff.mp hend
    have hdigit := h.digits last (by simp [hsplit])
    have hzero : last.toNat ≠ '0'.toNat := fun heq =>
      h.last (hend.trans (congrArg some (Char.toNat_inj.mp heq)))
    simp only [Char.isDigit, Bool.and_eq_true, decide_eq_true_eq] at hdigit
    have hlow : '0'.toNat ≤ last.toNat := UInt32.le_iff_toNat_le.mp hdigit.1
    have hhigh : last.toNat ≤ '9'.toNat := UInt32.le_iff_toNat_le.mp hdigit.2
    have hcodes : '0'.toNat = 48 ∧ '9'.toNat = 57 := ⟨rfl, rfl⟩
    rw [Decimal.count, hsplit, Nat.ofDigitChars_append, Nat.ofDigitChars_cons,
      Nat.ofDigitChars_nil]
    omega

/-- The decimal reads back as the magnitude, no decimal with fewer digits does, and none with as
many that does is nearer. -/
structure IsShortest (x : Binary64) (d : Decimal) : Prop where
  normal : d.IsNormal
  reads_back : x.Covers d.value
  fewest : ∀ (count : ℕ) (power : ℤ), x.Covers (count * 10 ^ power) →
    10 ^ (d.digits.length - 1) ≤ count
  nearest : ∀ (count : ℕ) (power : ℤ), count < 10 ^ d.digits.length →
    x.Covers (count * 10 ^ power) → |x.value - d.value| ≤ |x.value - count * 10 ^ power|

/-- The digits are those of the nearest decimal on the first grid that holds one which reads back,
and there are as many as the grid is for. -/
theorem exists_shortest (x : Binary64) (hcanonical : x.Canonical) (hpos : 0 < x.mantissa) :
    ∃ digits found : ℕ, 0 < digits ∧
      (∀ fewer : ℕ, 0 < fewer → fewer < digits → x.neighbour? (x.point - fewer) = none) ∧
      IsNearestOn x (x.point - digits) found ∧ found ≤ 10 ^ digits ∧
      IsTrimmed x.shortest found (x.point - digits) := by
  have hlast : x.neighbour? (x.point - (17 : ℕ)) ≠ none := by
    intro hnone
    obtain ⟨count, hcount⟩ := exists_covers_seventeen hcanonical hpos
    exact not_covers_of_neighbour?_eq_none x _ hnone count hcount
  obtain ⟨digits, found, hdigits, -, hbefore, hfound, hgrid⟩ :=
    exists_firstGrid? x 1 17 17 (by decide) (by decide) hlast
  have hnearest := isNearestOn_of_neighbour? x _ found hfound
  have hbound : x.value < (10 ^ digits : ℕ) * 10 ^ (x.point - digits) := by
    rw [Nat.cast_pow, Nat.cast_ofNat, ← zpow_natCast, ← zpow_add₀ (by norm_num),
      add_sub_cancel]
    exact (x.point_spec hcanonical hpos).2
  have hfoundpos : 0 < found := by
    refine Nat.pos_of_ne_zero fun hzero => ?_
    have := hnearest.reads_back.pos hpos
    simp [hzero] at this
  obtain ⟨zeros, hsplit, hend⟩ := exists_dropZeros (Nat.toDigits 10 found)
  have hshortest : x.shortest = ⟨dropZeros (Nat.toDigits 10 found),
      x.point - digits + (Nat.toDigits 10 found).length⟩ := by
    rw [shortest, if_neg hpos.ne', hgrid, Option.getD_some]
  rw [hshortest]
  exact ⟨digits, found, hdigits, fun fewer hfewer => hbefore fewer hfewer, hnearest,
    le_of_neighbour? x _ found _ hfound hbound,
    isTrimmed_of_digits _ found zeros _ hfoundpos hsplit hend rfl⟩

theorem isShortest_shortest (x : Binary64) (hcanonical : x.Canonical) (hpos : 0 < x.mantissa) :
    IsShortest x x.shortest := by
  obtain ⟨digits, found, hdigits, hbefore, hnearest, hle, htrimmed⟩ :=
    exists_shortest x hcanonical hpos
  let d := x.shortest
  have hreads : x.Covers d.value := htrimmed.value_eq ▸ hnearest.reads_back
  have hnofewer : ∀ (fewer count : ℕ) (power : ℤ), 0 < fewer → fewer < digits →
      count < 10 ^ fewer → ¬x.Covers (count * 10 ^ power) := by
    intro fewer count power hfewer hlt hcount hcovers
    obtain ⟨other, hother, -⟩ :=
      exists_on_grid hcanonical hpos fewer count power hfewer hcount hcovers
    exact not_covers_of_neighbour?_eq_none x _ (hbefore fewer hfewer hlt) other hother
  have hsome : 0 < d.digits.length := by
    obtain ⟨first, rest, hfirst, -⟩ := htrimmed.normal.first
    simp [d, hfirst]
  have hlength : d.digits.length = digits := by
    rcases lt_trichotomy d.digits.length digits with hlt | heq | hgt
    · exact absurd hreads (hnofewer _ _ _ hsome hlt htrimmed.count_lt)
    · exact heq
    · -- Only the power of ten at the end of the grid could have more digits.
      have hpow : 10 ^ digits ≤ 10 ^ (d.digits.length - 1) :=
        Nat.pow_le_pow_right (by decide) (by omega)
      have hcount : d.count = 10 ^ digits :=
        le_antisymm (htrimmed.count_le.trans hle) (hpow.trans htrimmed.pow_le)
      obtain ⟨fewer, rfl⟩ := Nat.exists_eq_succ_of_ne_zero hdigits.ne'
      refine absurd ?_ (count_mod_ten_ne_zero d htrimmed.normal)
      rw [hcount, pow_succ, Nat.mul_mod_left]
  constructor
  case normal => exact htrimmed.normal
  case reads_back => exact hreads
  case fewest =>
    intro count power hcovers
    by_contra hless
    rcases Nat.eq_zero_or_pos (d.digits.length - 1) with hzero | hmore
    · have hnone : count = 0 := by
        simp only [d] at hzero
        rw [hzero] at hless
        omega
      have := hcovers.pos hpos
      simp [hnone] at this
    · exact hnofewer _ count power hmore (by omega) (not_le.mp hless) hcovers
  case nearest =>
    intro count power hcount hcovers
    obtain ⟨other, hother, hdistance⟩ := exists_on_grid hcanonical hpos digits count power hdigits
      (hlength ▸ hcount) hcovers
    rw [htrimmed.value_eq]
    exact (hnearest.nearest other hother).trans hdistance

end Binary64

end GuestCases.Numeral
