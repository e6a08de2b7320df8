import GuestCases.Proofs.DecodedLines
import GuestCases.Proofs.NumberTexts

/-!
The normal form of hexadecimal cells. Between blanks a cell holds an optional mark, an optional plus
and the digits of a number that fits a word, or it is refused. Each number has one normal form,
which is a cell with that number again, so cells have one normal form exactly when they hold one
number.
-/

namespace GuestCases.Numeral

def IsHexMark (cs : List Char) : Prop :=
  cs = ['0', 'x'] ∨ cs = ['0', 'X']

def DenotesHex (cs : List Char) (value : Nat) : Prop :=
  ∃ mark rest, cs = mark ++ rest ∧ (mark = [] ∨ IsHexMark mark) ∧ DenotesUnsigned 16 rest value ∧
    value < 0x10000000000000000

structure IsNormalOf (text : String) (value : Nat) : Prop where
  normal : IsNormal text
  denotes : DenotesDigits 16 (text.toList.drop 2) value

theorem afterHexMark?_eq_some_iff (cs rest : List Char) :
    afterHexMark? cs = some rest ↔ ∃ mark, IsHexMark mark ∧ cs = mark ++ rest := by
  constructor
  · intro h
    unfold afterHexMark? at h
    split at h
    · obtain rfl := Option.some.inj h
      exact ⟨['0', 'x'], .inl rfl, rfl⟩
    · obtain rfl := Option.some.inj h
      exact ⟨['0', 'X'], .inr rfl, rfl⟩
    · cases h
  · rintro ⟨mark, rfl | rfl, rfl⟩ <;> rfl

/-- No mark begins digits of a base that has no letters behind `f`. -/
theorem DenotesUnsigned.afterHexMark?_eq_none {base : Nat} {cs : List Char} {value : Nat}
    (hbase : base ≤ 16) (h : DenotesUnsigned base cs value) : afterHexMark? cs = none := by
  obtain ⟨sign, digits, rfl, hsign, hdigits⟩ := h
  rw [Option.eq_none_iff_forall_ne_some]
  intro rest hrest
  obtain ⟨mark, hmark, hcs⟩ := (afterHexMark?_eq_some_iff _ _).mp hrest
  have hx := hdigits.not_mem hbase 'x' rfl
  have hX := hdigits.not_mem hbase 'X' rfl
  rcases hsign with rfl | rfl
  · rw [List.nil_append] at hcs
    rcases hmark with rfl | rfl <;> simp [hcs] at hx hX
  · rcases hmark with rfl | rfl <;> simp at hcs

theorem DenotesHex.ne_nil {cs : List Char} {value : Nat} (h : DenotesHex cs value) : cs ≠ [] := by
  obtain ⟨mark, rest, rfl, -, hrest, -⟩ := h
  simp [hrest.ne_nil]

theorem hexValue?_eq_some_iff (cs : List Char) (value : Nat) :
    hexValue? cs = some value ↔ DenotesHex cs value := by
  rw [hexValue?, word?_eq_some_iff 16 (by decide)]
  constructor
  · rintro ⟨hdigits, hlt⟩
    cases hmark : afterHexMark? cs with
    | none =>
      rw [hmark, Option.getD_none] at hdigits
      exact ⟨[], cs, rfl, .inl rfl, hdigits, hlt⟩
    | some rest =>
      rw [hmark, Option.getD_some] at hdigits
      obtain ⟨found, hfound, rfl⟩ := (afterHexMark?_eq_some_iff _ _).mp hmark
      exact ⟨found, rest, rfl, .inr hfound, hdigits, hlt⟩
  · rintro ⟨mark, rest, rfl, rfl | hmark, hdigits, hlt⟩
    · rw [List.nil_append, hdigits.afterHexMark?_eq_none (by decide), Option.getD_none]
      exact ⟨hdigits, hlt⟩
    · rw [(afterHexMark?_eq_some_iff _ rest).mpr ⟨mark, hmark, rfl⟩, Option.getD_some]
      exact ⟨hdigits, hlt⟩

theorem readHex_eq_readWith (cell : String) :
    readHex cell = readWith hexValue? .notHexadecimal cell := by
  dsimp only [readHex, readWith]
  cases hexValue? (Text.trimChars cell.toList) <;> rfl

theorem readHex_eq_ok_iff (cell : String) (value : Nat) :
    readHex cell = .ok value ↔ DenotesHex (Text.trimChars cell.toList) value := by
  rw [readHex_eq_readWith]
  exact readWith_eq_ok_iff hexValue?_eq_some_iff .notHexadecimal cell (fun _ _ h => h.ne_nil) value

theorem readHex_eq_error_iff (cell : String) (fault : CellFault) :
    readHex cell = .error fault ↔ IsFaultOf DenotesHex .notHexadecimal cell fault := by
  rw [readHex_eq_readWith]
  exact readWith_eq_error_iff hexValue?_eq_some_iff .notHexadecimal cell fault

/-- Lower-case digits are determined by their values. -/
theorem eq_map_digitChar {cs : List Char} {digits : List Nat}
    (h : List.Forall₂ (IsDigitOf 16) cs digits)
    (hlower : ∀ c ∈ cs, c ∈ "0123456789abcdef".toList) : cs = digits.map Nat.digitChar := by
  have hwritten : "0123456789abcdef".toList.map (fun c => (digit? c).map Nat.digitChar) =
      "0123456789abcdef".toList.map some := by
    decide
  have hchar : ∀ c ∈ "0123456789abcdef".toList, ∀ digit, digit? c = some digit →
      c = Nat.digitChar digit := by
    intro c hc digit hdigit
    have hmap := List.map_inj_left.mp hwritten c hc
    rw [hdigit, Option.map_some] at hmap
    exact (Option.some.inj hmap).symm
  induction h with
  | nil => rfl
  | @cons c digit _ _ hdigit _ ih =>
    rw [List.map_cons, ← ih fun d hd => hlower d (List.mem_cons_of_mem _ hd)]
    rw [hchar c (hlower c List.mem_cons_self) digit ((digit?_eq_some_iff c digit).mpr hdigit)]

theorem isNormalOf_hexText (value : Nat) : IsNormalOf (hexText value) value where
  normal := isNormal_hexText value
  denotes := by
    rw [← natural?_eq_some_iff_denotes 16 (by decide), natural?_eq_some_iff, toList_hexText]
    exact ⟨Nat.toDigits_ne_nil, valueFrom_toDigits value⟩

namespace IsNormalOf

variable {text other : String} {value : Nat}

/-- Without leading zeros, the digits are those of the number. -/
theorem drop_eq (h : IsNormalOf text value) :
    text.toList.drop 2 =
      if value = 0 then ['0'] else (Nat.digits 16 value).reverse.map Nat.digitChar := by
  obtain ⟨first, rest, htext, hlower, hzero⟩ := h.normal
  obtain ⟨-, digits, hdigits, rfl⟩ := h.denotes
  rw [htext] at hdigits ⊢
  have hchars : first :: rest = digits.map Nat.digitChar := eq_map_digitChar hdigits hlower
  have hlt : ∀ digit ∈ digits.reverse, digit < 16 := by
    intro digit hmem
    obtain ⟨c, -, hdigit⟩ := exists_of_forall₂ hdigits digit (List.mem_reverse.mp hmem)
    exact hdigit.1
  cases digits with
  | nil => cases hchars
  | cons digit others =>
    obtain ⟨hfirst, hrest⟩ := List.cons.inj hchars
    by_cases hdigit : digit = 0
    · obtain rfl : rest = [] := hzero (by rw [hfirst, hdigit]; rfl)
      obtain rfl : others = [] := List.map_eq_nil_iff.mp hrest.symm
      simp [hfirst, hdigit]
    · have hlast : ∀ hne : (digit :: others).reverse ≠ [],
          (digit :: others).reverse.getLast hne ≠ 0 := by
        intro hne
        simpa using hdigit
      have hnum := Nat.digits_ofDigits 16 (by decide) _ hlt hlast
      have hvalue : Nat.ofDigits 16 (digit :: others).reverse ≠ 0 := by
        intro hzero
        rw [hzero, Nat.digits_zero] at hnum
        simp at hnum
      rw [if_neg hvalue, hnum, List.reverse_reverse, ← hchars]
      rfl

/-- A number has one normal form. -/
theorem unique (h : IsNormalOf text value) (h' : IsNormalOf other value) : text = other := by
  have hdrop : text.toList.drop 2 = other.toList.drop 2 := h.drop_eq.trans h'.drop_eq.symm
  obtain ⟨first, rest, htext, -, -⟩ := h.normal
  obtain ⟨first', rest', hother, -, -⟩ := h'.normal
  rw [htext, hother] at hdrop
  apply String.toList_inj.mp
  rw [htext, hother]
  exact congrArg (fun digits => '0' :: 'x' :: digits) hdrop

theorem eq_hexText (h : IsNormalOf text value) : text = hexText value :=
  h.unique (isNormalOf_hexText value)

end IsNormalOf

theorem normalHex_eq_ok_iff (cell text : String) :
    normalHex cell = .ok text ↔
      ∃ value, DenotesHex (Text.trimChars cell.toList) value ∧ IsNormalOf text value := by
  simp only [← readHex_eq_ok_iff]
  rw [normalHex]
  cases hread : readHex cell with
  | error fault => simp [Except.map]
  | ok value =>
    constructor
    · intro h
      exact ⟨value, rfl, Except.ok.inj h ▸ isNormalOf_hexText value⟩
    · rintro ⟨found, hfound, hnormal⟩
      rw [hnormal.eq_hexText, ← Except.ok.inj hfound]
      rfl

theorem normalHex_eq_error_iff (cell : String) (fault : CellFault) :
    normalHex cell = .error fault ↔ IsFaultOf DenotesHex .notHexadecimal cell fault := by
  rw [← readHex_eq_error_iff, normalHex]
  cases readHex cell <;> simp [Except.map]

/-- A cell is read as the number that its trimmed text denotes, or refused as it was written. Its
normal form is the only one of its number and a cell with that number, whose normal form it is
again. Cells with numbers have one normal form exactly when they have one number. -/
theorem normal_forms_canonical (cell : String) :
    (∀ value, readHex cell = .ok value ↔ DenotesHex (Text.trimChars cell.toList) value) ∧
    (∀ fault, readHex cell = .error fault ↔ IsFaultOf DenotesHex .notHexadecimal cell fault) ∧
    (∀ fault, normalHex cell = .error fault ↔ IsFaultOf DenotesHex .notHexadecimal cell fault) ∧
    (∀ text, normalHex cell = .ok text ↔
      ∃ value, readHex cell = .ok value ∧ IsNormalOf text value) ∧
    (∀ text, normalHex cell = .ok text →
      readHex text = readHex cell ∧ normalHex text = .ok text) ∧
    (∀ other value otherValue, readHex cell = .ok value → readHex other = .ok otherValue →
      (normalHex cell = normalHex other ↔ value = otherValue)) := by
  have hform : ∀ {text : String} {value : Nat}, readHex text = .ok value →
      normalHex text = .ok (hexText value) := fun h => by rw [normalHex, h]; rfl
  refine ⟨readHex_eq_ok_iff cell, readHex_eq_error_iff cell, normalHex_eq_error_iff cell, ?_, ?_,
    ?_⟩
  · intro text
    simp only [normalHex_eq_ok_iff, readHex_eq_ok_iff]
  · intro text h
    obtain ⟨value, hvalue, hnormal⟩ := (normalHex_eq_ok_iff cell text).mp h
    have hread := (readHex_eq_ok_iff cell value).mpr hvalue
    have hagain := readHex_hexText value (readHex_lt cell value hread)
    rw [hnormal.eq_hexText]
    exact ⟨hagain.trans hread.symm, hform hagain⟩
  · intro other value otherValue hread hother
    rw [hform hread, hform hother, Except.ok.injEq]
    constructor
    · intro heq
      have hvalue := readHex_hexText value (readHex_lt cell value hread)
      rw [heq, readHex_hexText otherValue (readHex_lt other otherValue hother)] at hvalue
      exact (Except.ok.inj hvalue).symm
    · exact congrArg hexText

theorem normal_forms_canonical_spellings :
    let cell := "\u30000X+00fFFFFFFFFFFFFFFF "
    readHex cell = .ok 0xffffffffffffffff ∧ readHex "ffffFFFFffffFFFF" = .ok 0xffffffffffffffff ∧
      normalHex cell = normalHex "ffffFFFFffffFFFF" ∧
      readHex "0xffffffffffffffff" = readHex cell ∧
      normalHex "0xffffffffffffffff" = .ok "0xffffffffffffffff" ∧
      IsFaultOf DenotesHex .notHexadecimal " 1ffffFFFFffffFFFF"
        (.notHexadecimal " 1ffffFFFFffffFFFF") := by
  intro cell
  have hread : readHex cell = .ok 0xffffffffffffffff := by decide
  have hother : readHex "ffffFFFFffffFFFF" = .ok 0xffffffffffffffff := by decide
  have hnormal : normalHex cell = .ok "0xffffffffffffffff" := by decide
  obtain ⟨-, -, -, -, hagain, heq⟩ := normal_forms_canonical cell
  obtain ⟨-, hfault, -⟩ := normal_forms_canonical " 1ffffFFFFffffFFFF"
  exact ⟨hread, hother, (heq _ _ _ hread hother).mpr rfl, (hagain _ hnormal).1,
    (hagain _ hnormal).2, (hfault _).mp (by decide)⟩

end GuestCases.Numeral
