import GuestCases.Proofs.CanonicalHex
import GuestCases.Proofs.RegisterNumbers

/-!
Which entries are one case. CPUID entries fuse when their tokens spell the same numbers, or are the
same texts where they spell none, and their bits are equal, for markers also the captions; MSR
entries fuse when registers, direction and the whole outcome are equal. Entries that fuse have one
place in the order, and merging changes neither key.
-/

namespace GuestCases

namespace Cpuid

open Numeral

/-- The tokens spell one number, or neither spells a number and they are one text. -/
def SameToken (first second : String) : Prop :=
  (∃ value, DenotesHex (Text.trimChars first.toList) value ∧
    DenotesHex (Text.trimChars second.toList) value) ∨
  (∀ value, ¬DenotesHex (Text.trimChars first.toList) value) ∧
    (∀ value, ¬DenotesHex (Text.trimChars second.toList) value) ∧ first = second

structure Entry.SameField (entry other : Entry) : Prop where
  leaf : SameToken entry.leaf other.leaf
  subleaf : SameToken entry.subleaf other.subleaf
  register : entry.register = other.register
  msb : entry.msb = other.msb
  lsb : entry.lsb = other.lsb
  size : entry.size = other.size
  caption : entry.size = -1 → entry.fieldName = other.fieldName

theorem tokenValue?_eq_some_iff (token : String) (value : Nat) :
    Entry.tokenValue? token = some value ↔ DenotesHex (Text.trimChars token.toList) value := by
  rw [← readHex_eq_ok_iff, Entry.tokenValue?]
  cases readHex token <;> simp [Except.toOption]

theorem tokenValue?_eq_none_iff (token : String) :
    Entry.tokenValue? token = none ↔
      ∀ value, ¬DenotesHex (Text.trimChars token.toList) value := by
  simp only [Option.eq_none_iff_forall_ne_some, ne_eq, tokenValue?_eq_some_iff]

/-- No token that spells no number is the normal form of one. -/
theorem canonicalToken_eq_iff_sameToken (first second : String) :
    Entry.canonicalToken first (Entry.tokenValue? first) =
      Entry.canonicalToken second (Entry.tokenValue? second) ↔ SameToken first second := by
  rw [Entry.canonicalToken_eq_iff]
  constructor
  · rintro ⟨hvalues, htexts⟩
    cases hfirst : Entry.tokenValue? first with
    | none =>
      refine .inr ⟨(tokenValue?_eq_none_iff first).mp hfirst,
        (tokenValue?_eq_none_iff second).mp (hvalues ▸ hfirst), htexts hfirst⟩
    | some value =>
      exact .inl ⟨value, (tokenValue?_eq_some_iff first value).mp hfirst,
        (tokenValue?_eq_some_iff second value).mp (hvalues ▸ hfirst)⟩
  · rintro (⟨value, hfirst, hsecond⟩ | ⟨hfirst, hsecond, heq⟩)
    · rw [← tokenValue?_eq_some_iff] at hfirst hsecond
      rw [hfirst, hsecond]
      exact ⟨rfl, by simp⟩
    · exact ⟨congrArg Entry.tokenValue? heq, fun _ => heq⟩

theorem Entry.fuseKey_eq_iff (entry other : Entry) :
    entry.fuseKey = other.fuseKey ↔ entry.SameField other := by
  have hcaption : entry.size = other.size →
      ((if entry.isMarker then some entry.fieldName else none) =
        (if other.isMarker then some other.fieldName else none) ↔
        (entry.size = -1 → entry.fieldName = other.fieldName)) := by
    intro hsize
    have hmarker : ∀ field : Entry, field.isMarker = true ↔ field.size = -1 := fun _ => beq_iff_eq
    simp only [hmarker, ← hsize]
    by_cases h : entry.size = -1 <;> simp [h]
  rw [fuseKey, fuseKey, FuseKey.mk.injEq]
  constructor
  · rintro ⟨hleaf, hsubleaf, hregister, hmsb, hlsb, hsize, hcaptions⟩
    exact ⟨(canonicalToken_eq_iff_sameToken _ _).mp hleaf,
      (canonicalToken_eq_iff_sameToken _ _).mp hsubleaf, hregister, hmsb, hlsb, hsize,
      (hcaption hsize).mp hcaptions⟩
  · rintro ⟨hleaf, hsubleaf, hregister, hmsb, hlsb, hsize, hcaptions⟩
    exact ⟨(canonicalToken_eq_iff_sameToken _ _).mpr hleaf,
      (canonicalToken_eq_iff_sameToken _ _).mpr hsubleaf, hregister, hmsb, hlsb, hsize,
      (hcaption hsize).mpr hcaptions⟩

end Cpuid

namespace Msr

structure Entry.SameAccess (entry other : Entry) : Prop where
  first : entry.first = other.first
  size : entry.size = other.size
  direction : entry.direction = other.direction
  outcome : entry.outcome = other.outcome

theorem Entry.fuseKey_eq_iff (entry other : Entry) :
    entry.fuseKey = other.fuseKey ↔ entry.SameAccess other := by
  rw [fuseKey, fuseKey, FuseKey.mk.injEq]
  constructor
  · rintro ⟨hfirst, hsize, htrap, hhook, hdirection⟩
    exact ⟨hfirst, hsize, hdirection, outcome_eq_iff.mpr ⟨htrap, hhook⟩⟩
  · rintro ⟨hfirst, hsize, hdirection, houtcome⟩
    exact ⟨hfirst, hsize, congrArg Outcome.trap? houtcome, congrArg Outcome.hook? houtcome,
      hdirection⟩

end Msr

/-- Two entries fuse exactly when they are one case, and then they stand at one place. Merging an
entry into another one changes neither what the other one fuses with nor its place. -/
theorem keys_tell_cases_apart :
    (∀ entry other : Cpuid.Entry, entry.fuseKey = other.fuseKey ↔ entry.SameField other) ∧
    (∀ entry other : Cpuid.Entry, entry.fuseKey = other.fuseKey → entry.sortKey = other.sortKey) ∧
    (∀ entry other : Cpuid.Entry, (entry.merge other).fuseKey = entry.fuseKey ∧
      (entry.merge other).sortKey = entry.sortKey) ∧
    (∀ entry other : Msr.Entry, entry.fuseKey = other.fuseKey ↔ entry.SameAccess other) ∧
    (∀ entry other : Msr.Entry, entry.fuseKey = other.fuseKey → entry.sortKey = other.sortKey) ∧
    (∀ entry other : Msr.Entry, (entry.merge other).fuseKey = entry.fuseKey ∧
      (entry.merge other).sortKey = entry.sortKey) := by
  refine ⟨Cpuid.Entry.fuseKey_eq_iff, Cpuid.family_coherent, ?_, Msr.Entry.fuseKey_eq_iff,
    Msr.family_coherent, ?_⟩
  · intro entry other
    have hkey := Cpuid.family.fuseKey_merge entry other
    exact ⟨hkey, Cpuid.family_coherent _ _ hkey⟩
  · intro entry other
    have hkey := Msr.family.fuseKey_merge entry other
    exact ⟨hkey, Msr.family_coherent _ _ hkey⟩

def fieldOfSeven (leaf : String) : Cpuid.Entry :=
  ⟨leaf, "0x0", some .ebx, 0, 0, 1, "FSGSBASE", "1", "VER1_0"⟩

theorem keys_tell_cases_apart_spellings :
    let entry := fieldOfSeven "0X+07"
    let other := { fieldOfSeven " 7" with fieldName := "FSGSBASE instructions" }
    entry.SameField other ∧ entry.sortKey = other.sortKey ∧
      (entry.merge other).sortKey = other.sortKey ∧
      ¬entry.SameField (fieldOfSeven "0x7h") := by
  intro entry other
  obtain ⟨hiff, hsort, hmerge, -⟩ := keys_tell_cases_apart
  have hkey : entry.fuseKey = other.fuseKey := by decide
  have hplace := hsort entry other hkey
  have hnone : entry.fuseKey ≠ (fieldOfSeven "0x7h").fuseKey := by decide
  exact ⟨(hiff entry other).mp hkey, hplace, (hmerge entry other).2.trans hplace,
    fun h => hnone ((hiff entry _).mpr h)⟩

end GuestCases
