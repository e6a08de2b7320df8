import GuestCases.Proofs.DecodedRecords
import GuestCases.Proofs.NumberParts

/-!
Numbers of rows. A text is one when it denotes a number below the bound of words, blanks around it
apart. A JSON number is one when it is written in digits alone and fits a word: every other number
has a text with a sign, a point or an exponent in it.
-/

namespace GuestCases

open Numeral

def WritesCount (text : String) (count : Nat) : Prop :=
  ∃ before sign zeros after, text.toList =
      before ++ (sign ++ (List.replicate zeros '0' ++ Nat.toDigits 10 count)) ++ after ∧
    (∀ c ∈ before, Text.isBlank c = true) ∧ (sign = [] ∨ sign = ['+']) ∧
    ∀ c ∈ after, Text.isBlank c = true

def noCountMarks : List Char := ['-', '.', 'e', 'E']

/-- The characters have one of the marks, or denote a number beyond every word. -/
def IsNoCount (cs : List Char) : Prop :=
  (∃ mark ∈ noCountMarks, mark ∈ cs) ∨
    ∃ value, DenotesUnsigned 10 cs value ∧ 0x10000000000000000 ≤ value

/-- The value is written as a number, or as a text with a number in it, that counts no rows. -/
inductive IsBadBias : Json → Prop where
  | number {cs : List Char} {number : Json.Number} (h : Json.Number.ofChars? cs = some number)
    (hcs : IsNoCount cs) : IsBadBias (.number number)
  | text {text : String} (h : IsNoCount (Text.trimChars text.toList)) : IsBadBias (.text text)

namespace Numeral

/-- The marks are no digits, no plus and no blanks. -/
theorem facts_of_mem_noCountMarks {mark : Char} (h : mark ∈ noCountMarks) :
    digitIn? 10 mark = none ∧ mark ≠ '+' ∧ Text.isBlank mark = false := by
  simp only [noCountMarks, List.mem_cons, List.not_mem_nil, or_false] at h
  rcases h with rfl | rfl | rfl | rfl <;> decide

theorem DenotesUnsigned.not_mem {cs : List Char} {value : Nat} (h : DenotesUnsigned 10 cs value)
    (mark : Char) (hmark : mark ∈ noCountMarks) : mark ∉ cs := by
  obtain ⟨sign, digits, rfl, hsign, hdigits⟩ := h
  obtain ⟨hnone, hplus, -⟩ := facts_of_mem_noCountMarks hmark
  have hnot := hdigits.not_mem (by decide) mark hnone
  rcases hsign with rfl | rfl <;> simp [hnot, hplus]

/-- A decimal is written with a point or with an exponent. -/
theorem Decimal.mem_text (style : DecimalStyle) (x : Decimal) :
    '.' ∈ x.text style ∨ 'e' ∈ x.text style := by
  unfold Decimal.text
  split
  · refine .inl ?_
    simp only [Decimal.positional]
    split
    · simp
    · split <;> simp
  · refine .inr ?_
    simp [Decimal.scientific]

end Numeral

/-- What counts no rows denotes no number that fits a word. -/
theorem IsNoCount.le_of_denotes {cs : List Char} (h : IsNoCount cs) {value : Nat}
    (hvalue : DenotesUnsigned 10 cs value) : 0x10000000000000000 ≤ value := by
  rcases h with ⟨mark, hmark, hmem⟩ | ⟨other, hother, hlarge⟩
  · exact absurd hmem (hvalue.not_mem mark hmark)
  · rwa [hvalue.unique (by decide) hother]

namespace Json

theorem exponentOf?_eq_none_iff (cs : List Char) : exponentOf? cs = some none ↔ cs = [] := by
  cases cs with
  | nil => simp [exponentOf?]
  | cons c rest =>
    simp only [exponentOf?, reduceCtorEq, iff_false]
    split <;> try split
    all_goals simp

/-- A number with neither fraction nor exponent is written as a sign and digits. -/
theorem eq_of_partsOf? (cs : List Char) (parts : Parts) (h : partsOf? cs = some parts)
    (hfraction : parts.fraction = none) (hexponent : parts.exponent = none) :
    cs = (if parts.isNegative then ['-'] else []) ++ parts.whole ∧ IsWhole parts.whole := by
  obtain ⟨body, rfl, hwhole, -, exponent, hread, rfl⟩ := (partsOf?_eq_some_iff cs parts).mp h
  rw [hexponent, exponentOf?_eq_none_iff] at hread
  simp [hread, hfraction, fractionText, hwhole]

/-- Digits that are all gathered are read to the same number, which fits a word. -/
theorem valueFrom_of_gather (significand value : Nat) (cs : List Char)
    (hlow : significand < wordBound) (hdigits : ∀ c ∈ cs, isDigit c = true)
    (h : gather significand cs = (value, 0)) :
    valueFrom 10 significand cs = some value ∧ value < wordBound := by
  induction cs generalizing significand with
  | nil =>
    cases h
    exact ⟨rfl, hlow⟩
  | cons c rest ih =>
    obtain ⟨hc, hrest⟩ := List.forall_mem_cons.mp hdigits
    simp only [gather] at h
    split at h
    · cases h
    · rename_i hnext
      obtain ⟨hvalue, hlt⟩ := ih _ (Nat.lt_of_not_le hnext) hrest h
      rw [valueFrom, digitIn?_of_isDigit c hc]
      exact ⟨hvalue, hlt⟩

theorem wholeNumber_eq_natural_iff (isNegative : Bool) (value found : Nat) :
    wholeNumber isNegative value = some (.natural found) ↔ isNegative = false ∧ value = found := by
  cases isNegative with
  | false => simp [wholeNumber]
  | true =>
    unfold wholeNumber
    split
    · contradiction
    · split <;> simp

/-- A natural number is written in digits, and it fits a word. -/
theorem denotesDigits_of_ofChars? (cs : List Char) (value : Nat)
    (h : Number.ofChars? cs = some (.natural value)) :
    DenotesDigits 10 cs value ∧ value < wordBound := by
  obtain ⟨parts, hparts, hnumber⟩ := Option.bind_eq_some_iff.mp h
  simp only [Parts.number?] at hnumber
  split at hnumber
  · rename_i hfraction hexponent
    split at hnumber
    · rename_i hbeyond
      obtain ⟨hsign, hvalue⟩ := (wholeNumber_eq_natural_iff _ _ _).mp hnumber
      obtain ⟨hcs, hne, -, hdigits⟩ := eq_of_partsOf? cs parts hparts hfraction hexponent
      rw [hsign, if_neg Bool.false_ne_true, List.nil_append] at hcs
      have hgather : gather 0 parts.whole = (value, 0) := Prod.ext hvalue hbeyond
      obtain ⟨hread, hlt⟩ := valueFrom_of_gather 0 value parts.whole (by decide) hdigits hgather
      rw [hcs, ← natural?_eq_some_iff_denotes 10 (by decide), natural?_eq_some_iff]
      exact ⟨⟨hne, hread⟩, hlt⟩
    · simp at hnumber
  · simp at hnumber

end Json

namespace Settings

theorem rowCount_number (number : Json.Number) :
    Decoder.rowCount (.number number) = Decoder.rowCount (.text number.text) := rfl

theorem rowCount_text_eq_ok_iff (text : String) (count : Nat) :
    Decoder.rowCount (.text text) = .ok count ↔
      DenotesUnsigned 10 (Text.trimChars text.toList) count ∧ count < 0x10000000000000000 := by
  rw [← word?_eq_some_iff 10 (by decide)]
  simp only [Decoder.rowCount, Decoder.numberOrText, Except.bind]
  cases word? 10 (Text.trimChars text.toList) <;> simp

end Settings

theorem writesCount_repr (count : Nat) : WritesCount count.repr count :=
  ⟨[], [], 0, [], by simp [Nat.repr], by simp, .inl rfl, by simp⟩

theorem WritesCount.denotesUnsigned {text : String} {count : Nat} (h : WritesCount text count) :
    DenotesUnsigned 10 (Text.trimChars text.toList) count := by
  obtain ⟨before, sign, zeros, after, htext, hbefore, hsign, hafter⟩ := h
  have hdenotes : DenotesUnsigned 10
      (sign ++ (List.replicate zeros '0' ++ Nat.toDigits 10 count)) count :=
    ⟨sign, _, rfl, hsign,
      (denotesDigits_toDigits (by decide) (by decide) count).zeros (by decide) zeros⟩
  rw [htext, Text.trimChars_between before _ after hbefore (hdenotes.isBlank_eq_false (by decide))
    hafter]
  exact hdenotes

namespace Settings

/-- However a number is written, it counts as many rows. -/
theorem alike_of_writesCount {text other : String} {count : Nat} (h : WritesCount text count)
    (hother : WritesCount other count) :
    Alike Decoder.rowCount (.text text) (.text other) := by
  intro decoded
  have hunique : ∀ {text : String}, WritesCount text count →
      (DenotesUnsigned 10 (Text.trimChars text.toList) decoded ↔ decoded = count) :=
    fun h => ⟨fun hdecoded => hdecoded.unique (by decide) h.denotesUnsigned,
      fun heq => heq ▸ h.denotesUnsigned⟩
  rw [rowCount_text_eq_ok_iff, rowCount_text_eq_ok_iff, hunique h, hunique hother]

/-- Only a natural number counts rows. -/
theorem eq_natural_of_rowCount {number : Json.Number} {count : Nat}
    (h : Decoder.rowCount (.number number) = .ok count) : number = .natural count := by
  rw [rowCount_number, rowCount_text_eq_ok_iff] at h
  have hmark : ∀ mark ∈ noCountMarks, mark ∉ number.text.toList := by
    intro mark hmark
    obtain ⟨-, -, hblank⟩ := facts_of_mem_noCountMarks hmark
    rw [← Text.mem_trimChars_iff mark hblank]
    exact h.1.not_mem mark hmark
  cases number with
  | natural value =>
    rw [h.1.unique (by decide) (writesCount_repr value).denotesUnsigned]
  | negative distance =>
    have htext : (Json.Number.negative distance).text.toList = '-' :: distance.repr.toList :=
      String.toList_append
    exact absurd (by simp [htext]) (hmark '-' (by decide))
  | real isNegative magnitude =>
    have htext : (Json.Number.real isNegative magnitude).text.toList =
        (if isNegative then ['-'] else []) ++ magnitude.shortest.text Json.style :=
      String.toList_ofList
    rcases Decimal.mem_text Json.style magnitude.shortest with hpoint | hexponent
    · exact absurd (by simp [htext, hpoint]) (hmark '.' (by decide))
    · exact absurd (by simp [htext, hexponent]) (hmark 'e' (by decide))

/-- A bad bias is no number of rows. -/
theorem rowCount_ne_ok_of_isBadBias {value : Json} (h : IsBadBias value) (count : Nat) :
    Decoder.rowCount value ≠ .ok count := by
  intro hcount
  cases h with
  | number hnumber hcs =>
    rw [eq_natural_of_rowCount hcount] at hnumber
    obtain ⟨hdenotes, hlt⟩ := Json.denotesDigits_of_ofChars? _ _ hnumber
    exact absurd (hcs.le_of_denotes ⟨[], _, rfl, .inl rfl, hdenotes⟩) (Nat.not_le.mpr hlt)
  | text htext =>
    obtain ⟨hdenotes, hlt⟩ := (rowCount_text_eq_ok_iff _ _).mp hcount
    exact absurd (htext.le_of_denotes hdenotes) (Nat.not_le.mpr hlt)

end Settings

end GuestCases
