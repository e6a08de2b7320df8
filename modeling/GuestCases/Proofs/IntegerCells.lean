import GuestCases.Proofs.CanonicalHex

/-!
Which cells hold integers. Between blanks stand a mark and hexadecimal digits, or decimal digits
that a fraction of zeros may follow, both behind an optional sign; the number fits a signed word of
64 bits. The bounds and sizes of CPUID fields have to fit 32 bits, and those that do not are
refused, so that no number is ever cut off.
-/

namespace GuestCases

namespace Numeral

def IsZeroFraction (cs : List Char) : Prop :=
  cs = [] ∨ ∃ count, cs = '.' :: List.replicate (count + 1) '0'

def DenotesInteger (cs : List Char) (value : Int) : Prop :=
  ((∃ mark rest, IsHexMark mark ∧ cs = mark ++ rest ∧ DenotesSigned 16 rest value) ∨
    (∀ mark, IsHexMark mark → ¬mark <+: cs) ∧
      ∃ whole fraction, cs = whole ++ fraction ∧ DenotesSigned 10 whole value ∧
        IsZeroFraction fraction) ∧
  -0x8000000000000000 ≤ value ∧ value < 0x8000000000000000

def WritesInteger (text : String) (number : Int) : Prop :=
  ∃ before fraction after, text.toList = before ++ (number.repr.toList ++ fraction) ++ after ∧
    (∀ c ∈ before, Text.isBlank c = true) ∧ (∀ c ∈ after, Text.isBlank c = true) ∧
    IsZeroFraction fraction

theorem DenotesInteger.ne_nil {cs : List Char} {value : Int} (h : DenotesInteger cs value) :
    cs ≠ [] := by
  obtain ⟨⟨mark, rest, -, rfl, hrest⟩ | ⟨-, whole, fraction, rfl, hwhole, -⟩, -⟩ := h
  · simp [hrest.ne_nil]
  · simp [hwhole.ne_nil]

theorem signedWord?_eq_some_iff (base : Nat) (hbase : base ≤ 16) (cs : List Char) (value : Int) :
    signedWord? base cs = some value ↔ DenotesSigned base cs value ∧
      -0x8000000000000000 ≤ value ∧ value < 0x8000000000000000 := by
  rw [signedWord?, Option.filter_eq_some_iff, signed?_eq_some_iff base hbase, decide_eq_true_eq]

/-- The part before the point is all of it, or what a fraction of zeros follows. -/
theorem wholePart?_eq_some_iff (cs whole : List Char) :
    wholePart? cs = some whole ↔
      '.' ∉ whole ∧ ∃ fraction, cs = whole ++ fraction ∧ IsZeroFraction fraction := by
  constructor
  · intro h
    have hcs : cs.takeWhile (· ≠ '.') ++ cs.dropWhile (· ≠ '.') = cs :=
      List.takeWhile_append_dropWhile
    have hnone : '.' ∉ cs.takeWhile (· ≠ '.') := fun hmem => by
      simpa using List.all_eq_true.mp List.all_takeWhile '.' hmem
    unfold wholePart? at h
    split at h
    · rename_i hdrop
      rw [hdrop, List.append_nil] at hcs
      rw [hcs] at hnone
      obtain rfl := Option.some.inj h
      exact ⟨hnone, [], (List.append_nil cs).symm, .inl rfl⟩
    · rename_i point zeros hdrop
      rw [Option.ite_none_right_eq_some, Bool.and_eq_true] at h
      obtain ⟨⟨hne, hzeros⟩, hwhole⟩ := h
      obtain rfl := Option.some.inj hwhole
      obtain rfl : point = '.' := by
        have hhead := List.head?_dropWhile_not (fun c => decide (c ≠ '.')) cs
        rw [hdrop] at hhead
        simpa using hhead
      have hcount : zeros = List.replicate zeros.length '0' :=
        List.eq_replicate_iff.mpr ⟨rfl, by simpa using hzeros⟩
      refine ⟨hnone, '.' :: zeros, by rw [← hdrop, hcs], .inr ⟨zeros.length - 1, ?_⟩⟩
      have hpos : 0 < zeros.length := by
        cases zeros with
        | nil => simp at hne
        | cons => simp
      rw [Nat.sub_add_cancel hpos, ← hcount]
  · rintro ⟨hwhole, fraction, rfl, rfl | ⟨count, rfl⟩⟩
    · have hdrop : (whole ++ []).dropWhile (· ≠ '.') = [] :=
        List.dropWhile_append_of_pos (decide_ne_of_not_mem '.' whole hwhole)
      rw [wholePart?, hdrop, List.append_nil]
    · rw [wholePart?, dropWhile_ne_append '.' whole _ hwhole,
        takeWhile_ne_append '.' whole _ hwhole]
      simp

theorem integerValue?_eq_some_iff (cs : List Char) (value : Int) :
    integerValue? cs = some value ↔ DenotesInteger cs value := by
  rw [integerValue?]
  cases hmark : afterHexMark? cs with
  | some rest =>
    dsimp only
    rw [signedWord?_eq_some_iff 16 (by decide)]
    refine and_congr_left fun _ => ?_
    constructor
    · intro h
      obtain ⟨mark, hhex, hcs⟩ := (afterHexMark?_eq_some_iff _ _).mp hmark
      exact .inl ⟨mark, rest, hhex, hcs, h⟩
    · rintro (⟨mark, other, hhex, hcs, h⟩ | ⟨hnone, -⟩)
      · have hother := (afterHexMark?_eq_some_iff cs other).mpr ⟨mark, hhex, hcs⟩
        rwa [← Option.some.inj (hmark.symm.trans hother)] at h
      · obtain ⟨mark, hhex, hcs⟩ := (afterHexMark?_eq_some_iff _ _).mp hmark
        exact absurd ⟨rest, hcs.symm⟩ (hnone mark hhex)
  | none =>
    have hnone : ∀ mark, IsHexMark mark → ¬mark <+: cs := by
      rintro mark hhex ⟨rest, rfl⟩
      rw [(afterHexMark?_eq_some_iff _ rest).mpr ⟨mark, hhex, rfl⟩] at hmark
      cases hmark
    simp only [Option.bind_eq_some_iff, wholePart?_eq_some_iff,
      signedWord?_eq_some_iff 10 (by decide)]
    constructor
    · rintro ⟨whole, ⟨-, fraction, hcs, hfraction⟩, hwhole, hrange⟩
      exact ⟨.inr ⟨hnone, whole, fraction, hcs, hwhole, hfraction⟩, hrange⟩
    · rintro ⟨⟨mark, rest, hhex, rfl, -⟩ | ⟨-, whole, fraction, hcs, hwhole, hfraction⟩, hrange⟩
      · exact absurd (List.prefix_append mark rest) (hnone mark hhex)
      · have hpoint := hwhole.not_mem (by decide) '.' rfl (by decide)
        exact ⟨whole, ⟨hpoint, fraction, hcs, hfraction⟩, hwhole, hrange⟩

theorem readInteger_eq_readWith (cell : String) :
    readInteger cell = readWith integerValue? .notInteger cell := by
  dsimp only [readInteger, readWith]
  cases integerValue? (Text.trimChars cell.toList) <;> rfl

theorem readInteger_eq_ok_iff (cell : String) (value : Int) :
    readInteger cell = .ok value ↔ DenotesInteger (Text.trimChars cell.toList) value := by
  rw [readInteger_eq_readWith]
  exact readWith_eq_ok_iff integerValue?_eq_some_iff .notInteger cell (fun _ _ h => h.ne_nil) value

theorem readInteger_eq_error_iff (cell : String) (fault : CellFault) :
    readInteger cell = .error fault ↔ IsFaultOf DenotesInteger .notInteger cell fault := by
  rw [readInteger_eq_readWith]
  exact readWith_eq_error_iff integerValue?_eq_some_iff .notInteger cell fault

theorem IsZeroFraction.eq_of_mem {cs : List Char} (h : IsZeroFraction cs) (c : Char)
    (hc : c ∈ cs) : c = '.' ∨ c = '0' := by
  rcases h with rfl | ⟨count, rfl⟩
  · cases hc
  · exact (List.mem_cons.mp hc).imp_right List.eq_of_mem_replicate

theorem WritesInteger.denotesInteger {text : String} {number : Int}
    (h : WritesInteger text number)
    (hrange : -0x8000000000000000 ≤ number ∧ number < 0x8000000000000000) :
    DenotesInteger (Text.trimChars text.toList) number := by
  obtain ⟨before, fraction, after, htext, hbefore, hafter, hfraction⟩ := h
  have hnumber := denotesSigned_repr number
  have hsolid : ∀ c ∈ number.repr.toList ++ fraction, Text.isBlank c = false := by
    intro c hc
    rcases List.mem_append.mp hc with hmem | hmem
    · exact hnumber.isBlank_eq_false (by decide) c hmem
    · rcases hfraction.eq_of_mem c hmem with rfl | rfl <;> rfl
  have hunmarked : ∀ mark, IsHexMark mark → ¬mark <+: number.repr.toList ++ fraction := by
    have hnone : ∀ c, c = 'x' ∨ c = 'X' → c ∉ number.repr.toList ++ fraction := by
      intro c hc hmem
      rcases List.mem_append.mp hmem with hmem | hmem
      · rcases hc with rfl | rfl <;> exact hnumber.not_mem (by decide) _ rfl (by decide) hmem
      · rcases hc with rfl | rfl <;> simpa using hfraction.eq_of_mem _ hmem
    rintro mark (rfl | rfl) hmark
    · exact hnone 'x' (.inl rfl) (hmark.subset (by simp))
    · exact hnone 'X' (.inr rfl) (hmark.subset (by simp))
  rw [htext, Text.trimChars_between before _ after hbefore hsolid hafter]
  exact ⟨.inr ⟨hunmarked, _, fraction, rfl, hnumber, hfraction⟩, hrange⟩

end Numeral

namespace Cpuid

open Numeral

inductive IsInt32Fault (cell : String) : BadCell → Prop where
  | unread (fault : CellFault) (h : IsFaultOf DenotesInteger .notInteger cell fault) :
      IsInt32Fault cell (.numeral fault)
  | above (value : Int) (h : DenotesInteger (Text.trimChars cell.toList) value)
      (hlarge : 0x80000000 ≤ value) : IsInt32Fault cell .aboveInt32
  | below (value : Int) (h : DenotesInteger (Text.trimChars cell.toList) value)
      (hsmall : value < -0x80000000) : IsInt32Fault cell .belowInt32

/-- An integer that was read is kept as it is or refused. -/
theorem readInt32_of_denotesInteger (cell : String) (value : Int)
    (h : DenotesInteger (Text.trimChars cell.toList) value) :
    readInt32 (some cell) =
      if 0x80000000 ≤ value then .error .aboveInt32
      else if value < -0x80000000 then .error .belowInt32
      else .ok value := by
  rw [readInt32, Option.getD_some, (readInteger_eq_ok_iff cell value).mpr h]

theorem readInt32_of_isFaultOf (cell : String) (fault : CellFault)
    (h : IsFaultOf DenotesInteger .notInteger cell fault) :
    readInt32 (some cell) = .error (.numeral fault) := by
  rw [readInt32, Option.getD_some, (readInteger_eq_error_iff cell fault).mpr h]

theorem readInt32_eq_ok_iff (cell : String) (value : Int) :
    readInt32 (some cell) = .ok value ↔
      DenotesInteger (Text.trimChars cell.toList) value ∧ -0x80000000 ≤ value ∧
        value < 0x80000000 := by
  cases hread : readInteger cell with
  | error fault =>
    rw [readInt32_of_isFaultOf cell fault ((readInteger_eq_error_iff cell fault).mp hread),
      ← readInteger_eq_ok_iff, hread]
    simp
  | ok found =>
    rw [readInt32_of_denotesInteger cell found ((readInteger_eq_ok_iff cell found).mp hread),
      ← readInteger_eq_ok_iff, hread, Except.ok.injEq]
    split
    · exact iff_of_false (by simp) (by omega)
    · split
      · exact iff_of_false (by simp) (by omega)
      · rw [Except.ok.injEq]
        omega

theorem readInt32_eq_error_iff (cell : String) (fault : BadCell) :
    readInt32 (some cell) = .error fault ↔ IsInt32Fault cell fault := by
  constructor
  · intro h
    cases hread : readInteger cell with
    | error found =>
      have hfound := (readInteger_eq_error_iff cell found).mp hread
      rw [readInt32_of_isFaultOf cell found hfound] at h
      exact Except.error.inj h ▸ .unread found hfound
    | ok value =>
      have hvalue := (readInteger_eq_ok_iff cell value).mp hread
      rw [readInt32_of_denotesInteger cell value hvalue] at h
      split at h
      · rename_i hlarge
        exact Except.error.inj h ▸ .above value hvalue hlarge
      · split at h
        · rename_i hsmall
          exact Except.error.inj h ▸ .below value hvalue hsmall
        · cases h
  · intro h
    cases h with
    | unread found hfound => exact readInt32_of_isFaultOf cell found hfound
    | above value hvalue hlarge =>
      rw [readInt32_of_denotesInteger cell value hvalue, if_pos hlarge]
    | below value hvalue hsmall =>
      rw [readInt32_of_denotesInteger cell value hvalue, if_neg (by omega), if_pos hsmall]

/-- A cell is read as the integer that its trimmed text denotes, or refused as it was written; the
cells of a field hold the same integers as far as they fit 32 bits, and no others. Every integer of
32 bits is read from its decimal text, with any number of zeros behind a point. -/
theorem integer_cells_exact (cell : String) :
    (∀ value, readInteger cell = .ok value ↔
      DenotesInteger (Text.trimChars cell.toList) value) ∧
    (∀ fault, readInteger cell = .error fault ↔
      IsFaultOf DenotesInteger .notInteger cell fault) ∧
    (∀ value, readInt32 (some cell) = .ok value ↔
      readInteger cell = .ok value ∧ -0x80000000 ≤ value ∧ value < 0x80000000) ∧
    (∀ fault, readInt32 (some cell) = .error fault ↔ IsInt32Fault cell fault) ∧
    readInt32 none = .error (.numeral .empty) ∧
    (∀ number, WritesInteger cell number → -0x80000000 ≤ number → number < 0x80000000 →
      readInt32 (some cell) = .ok number) := by
  refine ⟨readInteger_eq_ok_iff cell, readInteger_eq_error_iff cell, ?_,
    readInt32_eq_error_iff cell, rfl, ?_⟩
  · intro value
    rw [readInt32_eq_ok_iff, readInteger_eq_ok_iff]
  · intro number hwrites hlow hhigh
    have hdenotes := hwrites.denotesInteger (by omega)
    exact (readInt32_eq_ok_iff cell number).mpr ⟨hdenotes, hlow, hhigh⟩

theorem integer_cells_exact_least :
    let cell := "\u2003-2147483648.00\n"
    WritesInteger cell (-0x80000000) ∧ readInt32 (some cell) = .ok (-0x80000000) ∧
      readInteger "0x-8000000000000000" = .ok (-0x8000000000000000) ∧
      IsInt32Fault "0x-8000000000000000" .belowInt32 ∧
      IsFaultOf DenotesInteger .notInteger "+.0" (.notInteger "+.0") := by
  intro cell
  have hwrites : WritesInteger cell (-0x80000000) :=
    ⟨['\u2003'], ".00".toList, ['\n'], by decide, List.forall_mem_singleton.mpr rfl,
      List.forall_mem_singleton.mpr rfl, .inr ⟨1, by decide⟩⟩
  obtain ⟨-, -, -, -, -, hnumber⟩ := integer_cells_exact cell
  obtain ⟨-, -, -, hfault, -⟩ := integer_cells_exact "0x-8000000000000000"
  obtain ⟨-, hrefused, -⟩ := integer_cells_exact "+.0"
  exact ⟨hwrites, hnumber _ hwrites (by decide) (by decide), by decide,
    (hfault _).mp (by decide), (hrefused _).mp (by decide)⟩

end Cpuid

end GuestCases
