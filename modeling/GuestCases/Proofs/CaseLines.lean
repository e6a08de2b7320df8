import GuestCases.Proofs.AccessAccounts
import GuestCases.Proofs.PrintedTokens
import Mathlib.Algebra.GroupWithZero.Nat

/-!
The lines of cases. A case is one call of a macro behind a tab, and a marker is a comment behind an
empty line. What an entry took from cells and settings stands in its line as it is, so a line holds
a line feed for every one in the texts that it shows, and a marker holds one more.
-/

namespace GuestCases

def lineFeeds (text : String) : Nat :=
  text.toList.count '\n'

def CallsMacro (macros : List String) (line : String) : Prop :=
  ∃ name ∈ macros, ('\t' :: name.toList ++ ['(']) <+: line.toList

/-- What an entry leaves in a header: the text of its line, whether it is a marker, and the texts of
cells and settings that the line shows. -/
structure CaseLine where
  text : String
  isMarker : Bool
  shown : List String

/-- The line is a macro call or the comment of a marker, and has a line feed for every one in the
texts that it shows. A marker has one more. -/
structure CaseLine.IsPrinted (macros : List String) (line : CaseLine) : Prop where
  statement : line.isMarker = false → CallsMacro macros line.text
  marker : line.isMarker = true →
    ∃ caption, line.shown = [caption] ∧ line.text = "\n\t// " ++ caption
  feeds : lineFeeds line.text =
    (if line.isMarker then 1 else 0) + (line.shown.map lineFeeds).sum

theorem lineFeeds_append (first second : String) :
    lineFeeds (first ++ second) = lineFeeds first + lineFeeds second := by
  rw [lineFeeds, String.toList_append, List.count_append, lineFeeds, lineFeeds]

theorem lineFeeds_of_isWord (text : String) (h : Text.IsWord text.toList) : lineFeeds text = 0 :=
  List.count_eq_zero.mpr (h.not_mem '\n' (by decide +kernel))

theorem lineFeeds_natRepr (number : Nat) : lineFeeds number.repr = 0 := by
  apply List.count_eq_zero.mpr
  rw [Nat.repr, String.toList_ofList]
  intro hmem
  exact absurd (Nat.isDigit_of_mem_toDigits (by decide) (by decide) hmem) (by decide)

theorem lineFeeds_intRepr (number : Int) : lineFeeds number.repr = 0 := by
  cases number with
  | ofNat number => exact lineFeeds_natRepr number
  | negSucc number =>
    have happend : lineFeeds ("-" ++ (number + 1).repr) = 0 := by
      rw [lineFeeds_append, lineFeeds_natRepr]
      rfl
    exact happend

namespace Cpuid

def statementMacros : List String := ["EXP_CPUID_BYTE", "EXP_CPUID_BIT", "EXP_CPUID_RES_BITS"]

/-- The texts that the line of an entry shows. Reserved bits have no expected value in theirs. -/
def Entry.shown (entry : Entry) : List String :=
  if entry.isMarker then [entry.fieldName]
  else if entry.size = 32 ∨ entry.size = 1 then
    [entry.expectedValue, entry.specVersion, entry.fieldName]
  else [entry.specVersion, entry.fieldName]

theorem Entry.line_of_isMarker (entry : Entry) (h : entry.isMarker = true) :
    entry.line = "\n\t// " ++ entry.fieldName := by
  simp [Entry.line, h, toString]

theorem Entry.callsMacro_line (entry : Entry) (h : entry.isMarker = false) :
    CallsMacro statementMacros entry.line := by
  simp only [Entry.line, h, Bool.false_eq_true, if_false]
  split
  · exact ⟨"EXP_CPUID_BYTE", by decide, by simp [toString]⟩
  · split
    · exact ⟨"EXP_CPUID_BIT", by decide, by simp [toString]⟩
    · exact ⟨"EXP_CPUID_RES_BITS", by decide, by simp [toString]⟩

theorem lineFeeds_registerName (entry : Entry) : lineFeeds entry.registerName = 0 := by
  unfold Entry.registerName
  cases entry.register with
  | none => rfl
  | some register => cases register <;> rfl

theorem Entry.HasWords.lineFeeds_line {entry : Entry} (h : entry.HasWords) :
    lineFeeds entry.line =
      (if entry.isMarker then 1 else 0) + (entry.shown.map lineFeeds).sum := by
  have hleaf := lineFeeds_of_isWord entry.leaf h.leaf
  have hsubleaf := lineFeeds_of_isWord entry.subleaf h.subleaf
  have hregister := lineFeeds_registerName entry
  have hmsb := lineFeeds_intRepr entry.msb
  have hlsb := lineFeeds_intRepr entry.lsb
  unfold lineFeeds at hleaf hsubleaf hregister hmsb hlsb
  unfold Entry.line Entry.shown
  cases hmarker : entry.isMarker with
  | true =>
    simp [lineFeeds, toString, Nat.add_comm]
  | false =>
    by_cases hwhole : entry.size = 32
    · simp [hwhole, lineFeeds, toString, hleaf, hsubleaf, hregister]
    · by_cases hbit : entry.size = 1
      · simp [hbit, lineFeeds, toString, hleaf, hsubleaf, hregister, hmsb]
      · simp [hwhole, hbit, lineFeeds, toString, hleaf, hsubleaf, hregister, hmsb, hlsb]

def Entry.caseLine (entry : Entry) : CaseLine :=
  ⟨entry.line, entry.isMarker, entry.shown⟩

theorem Entry.HasWords.isPrinted {entry : Entry} (h : entry.HasWords) :
    entry.caseLine.IsPrinted statementMacros where
  statement := entry.callsMacro_line
  marker hmarker :=
    have hmarker : entry.isMarker = true := hmarker
    ⟨entry.fieldName, by simp [Entry.caseLine, Entry.shown, hmarker],
      entry.line_of_isMarker hmarker⟩
  feeds := h.lineFeeds_line

end Cpuid

namespace Msr

def declarationMacros : List String :=
  ["DEF_READ_MSR", "DEF_WRITE_MSR", "DEF_READ_MSR_SIZE", "DEF_WRITE_MSR_SIZE"]

def Entry.shown (entry : Entry) : List String :=
  [entry.name, entry.specVersion]

structure Entry.HasWords (entry : Entry) : Prop where
  first : Text.IsWord entry.first.toList
  size : Text.IsWord entry.size.toList
  hook : ∀ hook ∈ entry.outcome.hook?, Text.IsWord hook.toList

theorem Entry.callsMacro_line (entry : Entry) : CallsMacro declarationMacros entry.line := by
  unfold Entry.line
  split
  · cases entry.direction
    · exact ⟨"DEF_READ_MSR", by decide, by simp [toString, Direction.declarator]⟩
    · exact ⟨"DEF_WRITE_MSR", by decide, by simp [toString, Direction.declarator]⟩
  · cases entry.direction
    · exact ⟨"DEF_READ_MSR_SIZE", by decide, by simp [toString, Direction.declarator]⟩
    · exact ⟨"DEF_WRITE_MSR_SIZE", by decide, by simp [toString, Direction.declarator]⟩

/-- Escaping adds backslashes and leaves line feeds as they are. -/
theorem Entry.count_escape (cs : List Char) : (escape cs).count '\n' = cs.count '\n' := by
  induction cs with
  | nil => rfl
  | cons c rest ih =>
    have hone : (if c = '"' ∨ c = '\\' then ['\\', c] else [c]).count '\n' = [c].count '\n' := by
      split <;> simp [List.count_cons]
    rw [escape, List.flatMap_cons, List.count_append, ← escape, ih, hone, ← List.count_append,
      List.singleton_append]

theorem isWord_trapToken (outcome : Outcome) : Text.IsWord outcome.trapToken.toList := by
  apply List.all_eq_true.mp
  unfold Outcome.trapToken
  cases outcome.trap? with
  | none => decide +kernel
  | some trap => cases trap <;> decide +kernel

theorem isWord_hookToken (outcome : Outcome)
    (h : ∀ hook ∈ outcome.hook?, Text.IsWord hook.toList) :
    Text.IsWord outcome.hookToken.toList := by
  unfold Outcome.hookToken
  cases hhook : outcome.hook? with
  | none =>
    apply List.all_eq_true.mp
    decide +kernel
  | some hook => exact h hook hhook

theorem Entry.HasWords.lineFeeds_line {entry : Entry} (h : entry.HasWords) :
    lineFeeds entry.line = (entry.shown.map lineFeeds).sum := by
  have hfirst := lineFeeds_of_isWord entry.first h.first
  have hsize := lineFeeds_of_isWord entry.size h.size
  have htrap := lineFeeds_of_isWord _ (isWord_trapToken entry.outcome)
  have hhook := lineFeeds_of_isWord _ (isWord_hookToken entry.outcome h.hook)
  have hdeclarator : lineFeeds entry.direction.declarator = 0 := by
    cases entry.direction <;> rfl
  unfold lineFeeds at hfirst hsize htrap hhook hdeclarator
  unfold Entry.line Entry.shown
  split
  · simp [lineFeeds, toString, Entry.count_escape, hfirst, htrap, hhook, hdeclarator]
  · simp [lineFeeds, toString, Entry.count_escape, hfirst, hsize, htrap, hhook, hdeclarator]

/-- No MSR entry is a marker. -/
def Entry.caseLine (entry : Entry) : CaseLine :=
  ⟨entry.line, false, entry.shown⟩

theorem Entry.HasWords.isPrinted {entry : Entry} (h : entry.HasWords) :
    entry.caseLine.IsPrinted declarationMacros where
  statement _ := entry.callsMacro_line
  marker := by simp [Entry.caseLine]
  feeds := by simpa [Entry.caseLine] using h.lineFeeds_line

end Msr

end GuestCases
