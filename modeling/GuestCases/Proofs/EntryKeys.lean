import GuestCases.Cpuid.Entry
import GuestCases.Msr.Entry
import GuestCases.Proofs.HexText

/-!
The keys of entries. A token that is hexadecimal has the same normal form as another token
exactly when both have one value, so entries that fuse have one place in the order of cases.
-/

namespace GuestCases

def Family.Coherent {ε κ : Type} (family : Family ε κ) : Prop :=
  ∀ first second, family.fuseKey first = family.fuseKey second →
    family.sortKey first = family.sortKey second

namespace Cpuid.Entry

def tokenValue? (token : String) : Option Nat :=
  (Numeral.readHex token).toOption

theorem readHex_of_tokenValue? (token : String) (value : Nat)
    (h : tokenValue? token = some value) : Numeral.readHex token = .ok value := by
  unfold tokenValue? at h
  cases hread : Numeral.readHex token with
  | error fault => simp [hread, Except.toOption] at h
  | ok found => simpa [hread, Except.toOption] using h

theorem tokenValue?_hexText (token : String) (value : Nat) (h : tokenValue? token = some value) :
    tokenValue? (Numeral.hexText value) = some value := by
  have hlt := Numeral.readHex_lt token value (readHex_of_tokenValue? token value h)
  rw [tokenValue?, Numeral.readHex_hexText value hlt]
  rfl

/-- Tokens have one normal form when they spell one number, or when they are one text. -/
theorem canonicalToken_eq_iff (first second : String) :
    canonicalToken first (tokenValue? first) = canonicalToken second (tokenValue? second) ↔
      tokenValue? first = tokenValue? second ∧ (tokenValue? first = none → first = second) := by
  cases hfirst : tokenValue? first with
  | none =>
    cases hsecond : tokenValue? second with
    | none => simp [canonicalToken]
    | some value =>
      have hvalue := tokenValue?_hexText second value hsecond
      constructor
      · intro heq
        rw [show first = Numeral.hexText value from heq, hvalue] at hfirst
        cases hfirst
      · rintro ⟨heq, -⟩
        cases heq
  | some value =>
    have hvalue := tokenValue?_hexText first value hfirst
    cases hsecond : tokenValue? second with
    | none =>
      constructor
      · intro heq
        rw [show second = Numeral.hexText value from heq.symm, hvalue] at hsecond
        cases hsecond
      · rintro ⟨heq, -⟩
        cases heq
    | some other =>
      have hother := tokenValue?_hexText second other hsecond
      constructor
      · intro heq
        have htexts : Numeral.hexText value = Numeral.hexText other := heq
        rw [← hvalue, htexts, hother]
        exact ⟨rfl, by simp⟩
      · rintro ⟨heq, -⟩
        rw [Option.some.inj heq]
        rfl

end Cpuid.Entry

/-- CPUID entries that fuse agree on the numbers of leaf and sub-leaf. -/
theorem Cpuid.family_coherent : Cpuid.family.Coherent := by
  intro first second hkeys
  have hkey : first.fuseKey = second.fuseKey := hkeys
  simp only [Cpuid.Entry.fuseKey, Cpuid.Entry.FuseKey.mk.injEq] at hkey
  obtain ⟨hleaf, hsubleaf, hregister, hmsb, hlsb, -, -⟩ := hkey
  have hleafValue := ((Cpuid.Entry.canonicalToken_eq_iff first.leaf second.leaf).mp hleaf).1
  have hsubleafValue :=
    ((Cpuid.Entry.canonicalToken_eq_iff first.subleaf second.subleaf).mp hsubleaf).1
  show first.sortKey = second.sortKey
  have hleaves : first.leafValue? = second.leafValue? := hleafValue
  have hsubleaves : first.subleafValue? = second.subleafValue? := hsubleafValue
  rw [Cpuid.Entry.sortKey, Cpuid.Entry.sortKey, hleaves, hsubleaves, hregister, hmsb, hlsb]

/-- MSR entries that fuse agree on the texts of first index and size. -/
theorem Msr.family_coherent : Msr.family.Coherent := by
  intro first second hkeys
  have hkey : first.fuseKey = second.fuseKey := hkeys
  simp only [Msr.Entry.fuseKey, Msr.Entry.FuseKey.mk.injEq] at hkey
  obtain ⟨hfirst, hsize, -, -, hdirection⟩ := hkey
  show first.sortKey = second.sortKey
  simp only [Msr.Entry.sortKey, Msr.Entry.firstValue?, Msr.Entry.sizeValue?, hfirst, hsize,
    hdirection]

end GuestCases
