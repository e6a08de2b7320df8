import GuestCases.Json.Token
import GuestCases.Proofs.NumberTexts
import Mathlib.Data.List.TakeWhile

/-!
How numbers are spelled in JSON: a minus or nothing, a whole part without a leading zero, a point
and a fraction or nothing, and an exponent or nothing. The digits of a natural number spell it, and
so do those of a negative one behind a minus, as long as the number fits a word.
-/

namespace GuestCases.Json

open Numeral

structure IsWhole (cs : List Char) : Prop where
  ne_nil : cs ≠ []
  zero : cs.head? = some '0' → cs.length = 1
  digits : ∀ c ∈ cs, isDigit c = true

def fractionText (fraction : Option (List Char)) : List Char :=
  (fraction.map ('.' :: ·)).getD []

structure Parts.SpelledBy (parts : Parts) (cs : List Char) : Prop where
  whole : IsWhole parts.whole
  fraction : ∀ digits ∈ parts.fraction, digits ≠ [] ∧ ∀ c ∈ digits, isDigit c = true
  spelled : ∃ exponent, exponentOf? exponent = some parts.exponent ∧
    cs = parts.whole ++ fractionText parts.fraction ++ exponent

theorem isWhole_iff (cs : List Char) (h : ∀ c ∈ cs, isDigit c = true) :
    IsWhole cs ↔ (cs.isEmpty || (cs.head? == some '0' && cs.length != 1)) = false := by
  constructor
  · rintro ⟨hne, hzero, -⟩
    by_cases hhead : cs.head? = some '0' <;> simp [hne, hhead, hzero]
  · intro hcheck
    simp only [Bool.or_eq_false_iff, List.isEmpty_eq_false_iff, Bool.and_eq_false_iff,
      beq_eq_false_iff_ne, bne_eq_false_iff_eq] at hcheck
    exact ⟨hcheck.1, fun hhead => hcheck.2.resolve_left (absurd hhead), h⟩

/-- An exponent begins with its letter, so no digit and no point stands before it. -/
theorem eq_of_exponentOf? (cs : List Char) (exponent : Option (Bool × List Char))
    (h : exponentOf? cs = some exponent) : ∀ c ∈ cs.head?, c = 'e' ∨ c = 'E' := by
  cases cs with
  | nil => simp
  | cons e rest =>
    simp only [exponentOf?] at h
    split at h
    · rename_i he
      simpa using he
    · cases h

theorem isNumberChar_of_isDigit {c : Char} (h : isDigit c = true) : isNumberChar c = true := by
  simp [isNumberChar, h]

theorem isNumberChar_of_exponentOf? (cs : List Char) (exponent : Option (Bool × List Char))
    (h : exponentOf? cs = some exponent) : ∀ c ∈ cs, isNumberChar c = true := by
  have hdigits : ∀ (isNegative : Bool) (digits : List Char),
      (if digits.isEmpty || !digits.all isDigit then none
        else some (some (isNegative, digits))) = some exponent →
      ∀ c ∈ digits, isNumberChar c = true := by
    intro isNegative digits hread c hc
    have hall : ∀ c ∈ digits, isDigit c = true := by
      simp only [Option.ite_none_left_eq_some, Bool.or_eq_true, not_or, Bool.not_eq_true,
        Bool.not_eq_false', List.all_eq_true] at hread
      exact hread.1.2
    exact isNumberChar_of_isDigit (hall c hc)
  cases cs with
  | nil => simp
  | cons e rest =>
    simp only [exponentOf?] at h
    split at h
    · rename_i he
      have hmark : isNumberChar e = true := by rcases he with rfl | rfl <;> rfl
      refine List.forall_mem_cons.mpr ⟨hmark, ?_⟩
      split at h
      · exact List.forall_mem_cons.mpr ⟨rfl, hdigits _ _ h⟩
      · exact List.forall_mem_cons.mpr ⟨rfl, hdigits _ _ h⟩
      · exact hdigits _ _ h
    · cases h

/-- Digits end where none follows. -/
theorem takeWhile_digits {digits rest : List Char} (hdigits : ∀ c ∈ digits, isDigit c = true)
    (hrest : ∀ c ∈ rest.head?, isDigit c = false) :
    (digits ++ rest).takeWhile isDigit = digits ∧ (digits ++ rest).dropWhile isDigit = rest := by
  rw [List.takeWhile_append_of_pos hdigits, List.dropWhile_append_of_pos hdigits]
  cases rest with
  | nil => simp
  | cons c rest => simp [hrest c rfl]

/-- Parts that are found are spelled by the characters. -/
theorem spelledBy_of_partsAfterSign? (isNegative : Bool) (cs : List Char) (parts : Parts)
    (h : partsAfterSign? isNegative cs = some parts) :
    parts.isNegative = isNegative ∧ parts.SpelledBy cs := by
  have hmem : ∀ {cs : List Char}, ∀ c ∈ cs.takeWhile isDigit, isDigit c = true :=
    fun c hc => List.mem_takeWhile_imp hc
  simp only [partsAfterSign?] at h
  split at h
  · cases h
  · rename_i hcheck
    have hwhole : IsWhole (cs.takeWhile isDigit) :=
      (isWhole_iff _ hmem).mpr (Bool.eq_false_iff.mpr hcheck)
    have hsplit : cs = cs.takeWhile isDigit ++ cs.dropWhile isDigit :=
      (List.takeWhile_append_dropWhile ..).symm
    split at h
    · rename_i rest hrest
      split at h
      · cases h
      · rename_i hfraction
        obtain ⟨exponent, hexponent, rfl⟩ := Option.map_eq_some_iff.mp h
        refine ⟨rfl, hwhole, ?_, rest.dropWhile isDigit, hexponent, ?_⟩
        · intro digits hdigits
          obtain rfl := Option.some.inj hdigits
          exact ⟨by simpa using hfraction, hmem⟩
        · simpa [fractionText, hrest] using hsplit
    · obtain ⟨exponent, hexponent, rfl⟩ := Option.map_eq_some_iff.mp h
      exact ⟨rfl, hwhole, by simp, _, hexponent, by simp [fractionText]⟩

/-- Parts are found where the characters spell them. -/
theorem Parts.SpelledBy.partsAfterSign? {parts : Parts} {cs : List Char}
    (h : parts.SpelledBy cs) : Json.partsAfterSign? parts.isNegative cs = some parts := by
  obtain ⟨hwhole, hfraction, exponent, hexponent, rfl⟩ := h
  have hletter : ∀ c ∈ exponent.head?, isDigit c = false ∧ c ≠ '.' := by
    intro c hc
    rcases eq_of_exponentOf? exponent _ hexponent c hc with rfl | rfl <;> decide
  have hcheck := (isWhole_iff _ hwhole.digits).mp hwhole
  obtain ⟨isNegative, whole, fraction, power⟩ := parts
  cases fraction with
  | none =>
    obtain ⟨htake, hdrop⟩ := takeWhile_digits hwhole.digits fun c hc => (hletter c hc).1
    simp only [fractionText, Option.map_none, Option.getD_none, List.append_nil]
    simp only [Json.partsAfterSign?, htake, hdrop, hcheck, Bool.false_eq_true, if_false]
    split
    · exact absurd rfl (hletter '.' rfl).2
    · rw [hexponent, Option.map_some]
  | some digits =>
    obtain ⟨hne, hdigits⟩ := hfraction digits rfl
    have hpoint : ∀ c ∈ ('.' :: (digits ++ exponent)).head?, isDigit c = false := by
      rintro c ⟨⟩
      rfl
    obtain ⟨htake, hdrop⟩ := takeWhile_digits hwhole.digits hpoint
    obtain ⟨htakeMore, hdropMore⟩ := takeWhile_digits hdigits fun c hc => (hletter c hc).1
    have hempty : digits.isEmpty = false := List.isEmpty_eq_false_iff.mpr hne
    simp only [fractionText, Option.map_some, Option.getD_some, List.append_assoc,
      List.cons_append]
    simp only [Json.partsAfterSign?, htake, hdrop, hcheck, htakeMore, hdropMore, hempty,
      Bool.false_eq_true, if_false, hexponent, Option.map_some]

/-- The parts after a sign are those that the characters spell. -/
theorem partsAfterSign?_eq_some_iff (isNegative : Bool) (cs : List Char) (parts : Parts) :
    partsAfterSign? isNegative cs = some parts ↔
      parts.isNegative = isNegative ∧ parts.SpelledBy cs := by
  constructor
  · exact spelledBy_of_partsAfterSign? isNegative cs parts
  · rintro ⟨rfl, hspelled⟩
    exact hspelled.partsAfterSign?

/-- What spells parts begins with a digit and has characters of numbers only. -/
theorem Parts.SpelledBy.exists_cons {parts : Parts} {cs : List Char} (h : parts.SpelledBy cs) :
    (∃ first rest, cs = first :: rest ∧ isDigit first = true) ∧
      ∀ c ∈ cs, isNumberChar c = true := by
  obtain ⟨⟨hne, -, hwhole⟩, hfraction, exponent, hexponent, rfl⟩ := h
  obtain ⟨first, rest, hcons⟩ := List.exists_cons_of_ne_nil hne
  have hpoint : ∀ c ∈ fractionText parts.fraction, isNumberChar c = true := by
    cases hcase : parts.fraction with
    | none => simp [fractionText]
    | some digits =>
      have hdigits := (hfraction digits hcase).2
      exact List.forall_mem_cons.mpr ⟨rfl, fun c hc => isNumberChar_of_isDigit (hdigits c hc)⟩
  constructor
  · rw [hcons]
    exact ⟨first, _, rfl, hwhole first (by simp [hcons])⟩
  · simp only [List.forall_mem_append]
    exact ⟨⟨fun c hc => isNumberChar_of_isDigit (hwhole c hc), hpoint⟩,
      isNumberChar_of_exponentOf? exponent _ hexponent⟩

/-- A number is spelled by a sign and what spells its parts. -/
theorem partsOf?_eq_some_iff (cs : List Char) (parts : Parts) :
    partsOf? cs = some parts ↔
      ∃ body, cs = (if parts.isNegative then ['-'] else []) ++ body ∧ parts.SpelledBy body := by
  have hminus : ∀ rest, ¬parts.SpelledBy ('-' :: rest) := by
    intro rest h
    obtain ⟨⟨first, others, hcons, hdigit⟩, -⟩ := h.exists_cons
    rw [← (List.cons.inj hcons).1] at hdigit
    cases hdigit
  unfold partsOf?
  split
  · rename_i rest
    rw [partsAfterSign?_eq_some_iff]
    cases hsign : parts.isNegative <;> simp [hminus]
  · rename_i hfirst
    rw [partsAfterSign?_eq_some_iff]
    cases hsign : parts.isNegative with
    | false => simp
    | true =>
      simp only [Bool.true_eq_false, false_and, if_true, List.singleton_append, false_iff]
      rintro ⟨body, hcs, -⟩
      exact hfirst body hcs

/-- What spells a number begins with a digit or a minus, and has characters of numbers only. -/
theorem Number.exists_cons_of_ofChars? (cs : List Char) (number : Number)
    (h : Number.ofChars? cs = some number) : ∃ first rest, cs = first :: rest ∧
      (isDigit first = true ∨ first = '-') ∧ ∀ c ∈ rest, isNumberChar c = true := by
  obtain ⟨parts, hparts, -⟩ := Option.bind_eq_some_iff.mp h
  obtain ⟨body, rfl, hbody⟩ := (partsOf?_eq_some_iff cs parts).mp hparts
  obtain ⟨⟨first, rest, rfl, hdigit⟩, hchars⟩ := hbody.exists_cons
  cases parts.isNegative with
  | true => exact ⟨'-', _, rfl, .inr rfl, hchars⟩
  | false => exact ⟨first, rest, rfl, .inl hdigit, fun c hc => hchars c (List.mem_cons_of_mem _ hc)⟩

theorem digitIn?_of_isDigit (c : Char) (h : isDigit c = true) :
    digitIn? 10 c = some (c.toNat - '0'.toNat) := by
  simp only [isDigit, Bool.and_eq_true, decide_eq_true_eq] at h
  have hlast : c.toNat ≤ '9'.toNat := UInt32.le_iff_toNat_le.mp h.2
  have hlt : c.toNat - '0'.toNat < 10 := by
    have hzero : '0'.toNat = 48 := rfl
    have hnine : '9'.toNat = 57 := rfl
    omega
  exact (digitIn?_eq_some_iff 10 c _).mpr ⟨if_pos h, hlt⟩

/-- The digits of a number that fits a word are all gathered. -/
theorem gather_of_valueFrom (significand value : Nat) (cs : List Char)
    (hdigits : ∀ c ∈ cs, isDigit c = true) (h : valueFrom 10 significand cs = some value)
    (hlt : value < wordBound) : gather significand cs = (value, 0) := by
  induction cs generalizing significand with
  | nil =>
    obtain rfl := Option.some.inj h
    rfl
  | cons c rest ih =>
    obtain ⟨hc, hrest⟩ := List.forall_mem_cons.mp hdigits
    rw [valueFrom, digitIn?_of_isDigit c hc, Option.bind_some] at h
    have hle := le_of_valueFrom 10 _ value rest (by decide) h
    simp only [gather]
    rw [if_neg (by omega)]
    exact ih _ hrest h

theorem isDigit_of_mem_toDigits (value : Nat) : ∀ c ∈ Nat.toDigits 10 value, isDigit c = true :=
  fun _ hc => Nat.isDigit_of_mem_toDigits (by decide) (by decide) hc

theorem isWhole_toDigits (value : Nat) : IsWhole (Nat.toDigits 10 value) := by
  obtain ⟨first, rest, hcons, hzero, -⟩ := toDigits_eq_cons (by decide : 1 < 10) (by decide) value
  refine ⟨Nat.toDigits_ne_nil, fun hhead => ?_, isDigit_of_mem_toDigits value⟩
  rw [hcons] at hhead ⊢
  simp [hzero (Option.some.inj hhead)]

/-- The digits of a natural number are its parts. -/
theorem number?_toDigits (isNegative : Bool) (value : Nat) (h : value < wordBound) :
    (Parts.mk isNegative (Nat.toDigits 10 value) none none).number? =
      wholeNumber isNegative value := by
  have hvalue := (natural?_eq_some_iff_denotes 10 (by decide) _ _).mpr
    (denotesDigits_toDigits (by decide) (by decide) value)
  have hgather := gather_of_valueFrom 0 value _ (isDigit_of_mem_toDigits value)
    ((natural?_eq_some_iff _ _ _).mp hvalue).2 h
  simp [Parts.number?, hgather]

theorem partsOf?_toDigits (isNegative : Bool) (value : Nat) :
    partsOf? ((if isNegative then ['-'] else []) ++ Nat.toDigits 10 value) =
      some ⟨isNegative, Nat.toDigits 10 value, none, none⟩ := by
  rw [partsOf?_eq_some_iff]
  exact ⟨_, rfl, isWhole_toDigits value, by simp, [], rfl, by simp [fractionText]⟩

/-- The text of a natural number that fits a word reads back. -/
theorem Number.ofChars?_natural (value : Nat) (h : value < wordBound) :
    Number.ofChars? (Number.natural value).text.toList = some (.natural value) := by
  have htext : (Number.natural value).text.toList = Nat.toDigits 10 value := by
    simp [Number.text, Nat.repr]
  have hparts := partsOf?_toDigits false value
  rw [if_neg Bool.false_ne_true, List.nil_append] at hparts
  rw [htext, Number.ofChars?, hparts, Option.bind_some, number?_toDigits false value h]
  rfl

/-- The text of a negative number that fits a word reads back. -/
theorem Number.ofChars?_negative (distance : Nat) (hpos : 0 < distance)
    (h : distance ≤ 0x8000000000000000) :
    Number.ofChars? (Number.negative distance).text.toList = some (.negative distance) := by
  have htext : (Number.negative distance).text.toList = '-' :: Nat.toDigits 10 distance := by
    simp [Number.text, toString, Nat.repr]
  have hlt : distance < wordBound := Nat.lt_of_le_of_lt h (by decide)
  have hparts := partsOf?_toDigits true distance
  rw [if_pos rfl, List.singleton_append] at hparts
  rw [htext, Number.ofChars?, hparts, Option.bind_some, number?_toDigits true distance hlt]
  rw [wholeNumber, if_neg (by simp), if_pos ⟨hpos, h⟩]

end GuestCases.Json
