import GuestCases.Proofs.EntryKeys
import GuestCases.Proofs.FieldAttribution

/-!
The numbers in printed CPUID cases. A case is told apart and ordered by its leaf and sub-leaf read
as hexadecimal, but it is printed with the tokens as they were written, and a C compiler reads
these by its own rules. Both readings agree on a token that is marked as hexadecimal. On any other
they agree when its number is below the base that the compiler assumes, and only then.
-/

namespace GuestCases

namespace Numeral

def assumedBase (cs : List Char) : Nat :=
  if cs.head? = some '0' then 8 else 10

def constant? (cs : List Char) : Option Nat :=
  match afterHexMark? cs with
  | some digits => natural? 16 digits
  | none => natural? (assumedBase cs) cs

def ReadsAlike (cs : List Char) (value : Nat) : Prop :=
  (afterHexMark? cs).isSome ∨ value < assumedBase cs

instance (cs : List Char) (value : Nat) : Decidable (ReadsAlike cs value) :=
  inferInstanceAs (Decidable (_ ∨ _))

theorem digitIn?_eq_some_iff (base : Nat) (c : Char) (digit : Nat) :
    digitIn? base c = some digit ↔ digit? c = some digit ∧ digit < base := by
  simp [digitIn?, Option.filter_eq_some_iff]

theorem valueFrom_cons_eq_some_iff (base high value : Nat) (c : Char) (rest : List Char) :
    valueFrom base high (c :: rest) = some value ↔
      ∃ digit, (digit? c = some digit ∧ digit < base) ∧
        valueFrom base (high * base + digit) rest = some value := by
  simp only [valueFrom, Option.bind_eq_some_iff, digitIn?_eq_some_iff]

theorem le_of_valueFrom (base high value : Nat) (cs : List Char) (hbase : 0 < base)
    (h : valueFrom base high cs = some value) : high ≤ value := by
  induction cs generalizing high with
  | nil => exact Nat.le_of_eq (Option.some.inj h)
  | cons c rest ih =>
    obtain ⟨digit, -, hrest⟩ := (valueFrom_cons_eq_some_iff _ _ _ _ _).mp h
    have hle := ih _ hrest
    have hmul : high * 1 ≤ high * base := Nat.mul_le_mul_left high hbase
    omega

/-- A number below the base has nothing but zeros before its last digit. -/
theorem valueFrom_of_lt (base high value : Nat) (cs : List Char) (hbase : base ≤ 16)
    (h : valueFrom 16 high cs = some value) (hlt : value < base) :
    valueFrom base high cs = some value := by
  induction cs generalizing high with
  | nil => exact h
  | cons c rest ih =>
    obtain ⟨digit, ⟨hdigit, -⟩, hrest⟩ := (valueFrom_cons_eq_some_iff _ _ _ _ _).mp h
    have hle := le_of_valueFrom 16 _ value rest (by omega) hrest
    obtain rfl : high = 0 := by omega
    rw [Nat.zero_mul, Nat.zero_add] at hrest hle
    refine (valueFrom_cons_eq_some_iff _ _ _ _ _).mpr ⟨digit, ⟨hdigit, by omega⟩, ?_⟩
    rw [Nat.zero_mul, Nat.zero_add]
    exact ih digit hrest

/-- Digits give less in the smaller base when they go on from less. -/
theorem valueFrom_lt_valueFrom (base low high small large : Nat) (cs : List Char)
    (hbase : base ≤ 16) (hlt : low < high) (hsmall : valueFrom base low cs = some small)
    (hlarge : valueFrom 16 high cs = some large) : small < large := by
  induction cs generalizing low high with
  | nil =>
    obtain rfl := Option.some.inj hsmall
    obtain rfl := Option.some.inj hlarge
    exact hlt
  | cons c rest ih =>
    obtain ⟨digit, ⟨hdigit, -⟩, hsmallRest⟩ := (valueFrom_cons_eq_some_iff _ _ _ _ _).mp hsmall
    obtain ⟨other, ⟨hother, -⟩, hlargeRest⟩ := (valueFrom_cons_eq_some_iff _ _ _ _ _).mp hlarge
    obtain rfl := Option.some.inj (hdigit.symm.trans hother)
    have hmul : low * base ≤ low * 16 := Nat.mul_le_mul_left low hbase
    exact ih _ _ (by omega) hsmallRest hlargeRest

/-- Digits that give one number in both bases give one below the smaller base. -/
theorem lt_of_valueFrom_eq (base value : Nat) (cs : List Char) (hpos : 0 < base)
    (hbase : base < 16) (hsmall : valueFrom base 0 cs = some value)
    (hlarge : valueFrom 16 0 cs = some value) : value < base := by
  induction cs with
  | nil =>
    obtain rfl := Option.some.inj hsmall
    exact hpos
  | cons c rest ih =>
    obtain ⟨digit, ⟨hdigit, hlt⟩, hsmallRest⟩ := (valueFrom_cons_eq_some_iff _ _ _ _ _).mp hsmall
    obtain ⟨other, ⟨hother, -⟩, hlargeRest⟩ := (valueFrom_cons_eq_some_iff _ _ _ _ _).mp hlarge
    obtain rfl := Option.some.inj (hdigit.symm.trans hother)
    rw [Nat.zero_mul, Nat.zero_add] at hsmallRest hlargeRest
    rcases Nat.eq_zero_or_pos digit with rfl | hdigitPos
    · exact ih hsmallRest hlargeRest
    -- A digit before the last one weighs more in the larger base.
    · cases rest with
      | nil =>
        obtain rfl := Option.some.inj hsmallRest
        exact hlt
      | cons next others =>
        obtain ⟨second, ⟨hsecond, -⟩, hsmallOthers⟩ :=
          (valueFrom_cons_eq_some_iff _ _ _ _ _).mp hsmallRest
        obtain ⟨again, ⟨hagain, -⟩, hlargeOthers⟩ :=
          (valueFrom_cons_eq_some_iff _ _ _ _ _).mp hlargeRest
        obtain rfl := Option.some.inj (hsecond.symm.trans hagain)
        have hweight : digit * base < digit * 16 := Nat.mul_lt_mul_of_pos_left hbase hdigitPos
        have hless := valueFrom_lt_valueFrom base _ _ value value others (Nat.le_of_lt hbase)
          (Nat.add_lt_add_right hweight second) hsmallOthers hlargeOthers
        exact absurd hless (Nat.lt_irrefl value)

theorem natural?_eq_some_iff (base value : Nat) (cs : List Char) :
    natural? base cs = some value ↔ cs ≠ [] ∧ valueFrom base 0 cs = some value := by
  cases cs <;> simp [natural?]

theorem unsigned?_eq_natural? (base : Nat) (cs : List Char) (h : '+' ∉ cs) :
    unsigned? base cs = natural? base cs := by
  unfold unsigned?
  split
  · simp at h
  · rfl

theorem afterHexMark?_isSuffix (cs digits : List Char) (h : afterHexMark? cs = some digits) :
    digits <:+ cs := by
  unfold afterHexMark? at h
  split at h
  · obtain rfl := Option.some.inj h
    exact ⟨['0', 'x'], rfl⟩
  · obtain rfl := Option.some.inj h
    exact ⟨['0', 'X'], rfl⟩
  · cases h

/-- When a hexadecimal token without a sign denotes its number in C. -/
theorem constant?_eq_some_iff (cs : List Char) (value : Nat) (hsign : '+' ∉ cs)
    (h : hexValue? cs = some value) : constant? cs = some value ↔ ReadsAlike cs value := by
  have hword := (Option.filter_eq_some_iff.mp h).1
  cases hmark : afterHexMark? cs with
  | some digits =>
    rw [hmark, Option.getD_some, unsigned?_eq_natural?] at hword
    · simp [constant?, hmark, hword, ReadsAlike]
    · exact fun hmem => hsign ((afterHexMark?_isSuffix cs digits hmark).subset hmem)
  | none =>
    rw [hmark, Option.getD_none, unsigned?_eq_natural? 16 cs hsign, natural?_eq_some_iff] at hword
    obtain ⟨hne, hvalue⟩ := hword
    have hbase : 0 < assumedBase cs ∧ assumedBase cs < 16 := by
      unfold assumedBase
      split <;> decide
    simp only [constant?, ReadsAlike, hmark, natural?_eq_some_iff, Option.isSome_none,
      Bool.false_eq_true, false_or, ne_eq, hne, not_false_eq_true, true_and]
    constructor
    · intro hconstant
      exact lt_of_valueFrom_eq _ value cs hbase.1 hbase.2 hconstant hvalue
    · exact valueFrom_of_lt _ 0 value cs (Nat.le_of_lt hbase.2) hvalue

/-- The normal form of a number denotes it in C. -/
theorem constant?_hexText (value : Nat) : constant? (hexText value).toList = some value := by
  have hdigits : natural? 16 (Nat.toDigits 16 value) = some value :=
    (natural?_eq_some_iff 16 value _).mpr ⟨Nat.toDigits_ne_nil, valueFrom_toDigits value⟩
  rw [toList_hexText]
  exact hdigits

end Numeral

namespace Text

def IsWord (cs : List Char) : Prop :=
  ∀ c ∈ cs, isWordChar c = true

theorem isWord_leadingWord (cs : List Char) : IsWord (leadingWord cs) :=
  List.all_eq_true.mp List.all_takeWhile

theorem IsWord.not_mem {cs : List Char} (h : IsWord cs) (c : Char) (hc : isWordChar c = false) :
    c ∉ cs := by
  intro hmem
  rw [h c hmem] at hc
  cases hc

def blanks : List Nat :=
  [0x9, 0xA, 0xB, 0xC, 0xD, 0x20, 0x85, 0xA0, 0x1680, 0x2000, 0x2001, 0x2002, 0x2003, 0x2004,
    0x2005, 0x2006, 0x2007, 0x2008, 0x2009, 0x200A, 0x2028, 0x2029, 0x202F, 0x205F, 0x3000]

theorem isWordChar_of_isBlank (c : Char) (h : isBlank c = true) : isWordChar c = false := by
  have hmem : c.toNat ∈ blanks := by
    simp only [isBlank, Bool.or_eq_true, Bool.and_eq_true, decide_eq_true_eq, beq_iff_eq] at h
    simp only [blanks, List.mem_cons, List.not_mem_nil, or_false]
    omega
  have hnone : ∀ n ∈ blanks, inRanges wordRanges n = false := by decide +kernel
  exact hnone _ hmem

theorem IsWord.isBlank_eq_false {cs : List Char} (h : IsWord cs) :
    ∀ c ∈ cs, isBlank c = false := by
  intro c hc
  apply Bool.eq_false_iff.mpr
  intro hblank
  exact h.not_mem c (isWordChar_of_isBlank c hblank) hc

theorem IsWord.trimChars_eq {cs : List Char} (h : IsWord cs) : trimChars cs = cs :=
  trimChars_eq_self cs (fun c hc => h.isBlank_eq_false c (List.mem_of_head? hc))
    (fun c hc => h.isBlank_eq_false c (List.mem_of_getLast? hc))

end Text

theorem decide_ne_of_not_mem (mark : Char) (cs : List Char) (h : mark ∉ cs) :
    ∀ c ∈ cs, decide (c ≠ mark) = true := by
  intro c hc
  exact decide_eq_true fun heq => h (heq ▸ hc)

theorem takeWhile_ne_append (mark : Char) (before after : List Char) (h : mark ∉ before) :
    (before ++ mark :: after).takeWhile (· ≠ mark) = before := by
  rw [List.takeWhile_append_of_pos (decide_ne_of_not_mem mark before h)]
  simp

theorem dropWhile_ne_append (mark : Char) (before after : List Char) (h : mark ∉ before) :
    (before ++ mark :: after).dropWhile (· ≠ mark) = mark :: after := by
  rw [List.dropWhile_append_of_pos (decide_ne_of_not_mem mark before h)]
  simp

theorem drop_dropWhile_ne_append (mark : Char) (before after : List Char) (h : mark ∉ before) :
    ((before ++ mark :: after).dropWhile (· ≠ mark)).drop 1 = after := by
  rw [dropWhile_ne_append mark before after h, List.drop_one, List.tail_cons]

theorem Numeral.isWord_hexText (value : Nat) : Text.IsWord (hexText value).toList := by
  have hdigit : ∀ digit < 16, Text.isWordChar (Nat.digitChar digit) = true := by decide +kernel
  rw [toList_hexText]
  intro c hc
  rcases List.mem_cons.mp hc with rfl | hc
  · decide +kernel
  · rcases List.mem_cons.mp hc with rfl | hc
    · decide +kernel
    · obtain ⟨digit, hlt, rfl⟩ := exists_digit_of_mem_toDigits value c hc
      exact hdigit digit hlt

namespace Cpuid

structure LeafGroup.HasWords (group : LeafGroup) : Prop where
  leaf : Text.IsWord group.leaf.toList
  subleaves : ∀ subleaf ∈ group.subleaves, Text.IsWord subleaf.toList

theorem isWord_defaultSubleaf : Text.IsWord defaultSubleaf.toList := by
  have hall : defaultSubleaf.toList.all Text.isWordChar = true := by decide +kernel
  exact List.all_eq_true.mp hall

theorem isWord_of_wordAfter? (mark cs word : List Char) (h : wordAfter? mark cs = some word) :
    Text.IsWord word := by
  obtain ⟨rest, -, hword⟩ := Option.bind_eq_some_iff.mp h
  simp only [Option.ite_none_left_eq_some, Option.some.injEq] at hword
  obtain ⟨-, rfl⟩ := hword
  exact Text.isWord_leadingWord rest

theorem isWord_of_leafFrom? (free : Bool) (cs leaf : List Char)
    (h : leafFrom? free cs = some leaf) : Text.IsWord leaf := by
  induction cs generalizing free with
  | nil => cases h
  | cons c rest ih =>
    rw [leafFrom?] at h
    split at h
    · rename_i found hfound
      obtain rfl := Option.some.inj h
      simp only [Option.ite_none_right_eq_some] at hfound
      exact isWord_of_wordAfter? leafMark _ _ hfound.2
    · exact ih _ h

theorem exists_of_firstEnd? {α : Type} (read? : List Char → Option α) (cs : List Char) (found : α)
    (h : firstEnd? read? cs = some found) : ∃ rest, read? rest = some found := by
  induction cs with
  | nil => exact ⟨[], h⟩
  | cons c rest ih =>
    rw [firstEnd?] at h
    split at h
    · rename_i first hfirst
      exact ⟨c :: rest, hfirst.trans h⟩
    · exact ih h

theorem isWord_of_expandRange (first last : String) (subleaves : List String)
    (h : expandRange first last = .ok subleaves) :
    ∀ subleaf ∈ subleaves, Text.IsWord subleaf.toList := by
  have hnormal : ∀ low count, ∀ subleaf ∈ hexTexts low count, Text.IsWord subleaf.toList := by
    intro low count subleaf hsubleaf
    obtain ⟨number, -, rfl⟩ := List.mem_map.mp hsubleaf
    exact Numeral.isWord_hexText _
  unfold expandRange at h
  split at h
  · cases h
  · split at h
    · cases h
    · split at h
      · cases h
      · split at h
        · cases h
        · obtain rfl := Except.ok.inj h
          exact hnormal _ _

theorem isWord_singleSubleaf (word : List Char) (h : Text.IsWord word) :
    Text.IsWord (singleSubleaf word).toList := by
  unfold singleSubleaf
  split
  · exact isWord_defaultSubleaf
  · rwa [String.toList_ofList]

theorem isWord_of_subleavesOf (cs : List Char) (subleaves : List String)
    (h : subleavesOf cs = .ok subleaves) : ∀ subleaf ∈ subleaves, Text.IsWord subleaf.toList := by
  unfold subleavesOf at h
  split at h
  · exact isWord_of_expandRange _ _ subleaves h
  · split at h
    · rename_i word hword
      obtain ⟨rest, hrest⟩ := exists_of_firstEnd? _ cs word hword
      obtain rfl := Except.ok.inj h
      simpa using isWord_singleSubleaf word (isWord_of_wordAfter? singleMark rest word hrest)
    · obtain rfl := Except.ok.inj h
      simpa using isWord_defaultSubleaf

theorem LeafGroup.hasWords_of_ofName (name : String) (group : LeafGroup)
    (h : LeafGroup.ofName name = .ok (some group)) : group.HasWords := by
  simp only [ofName] at h
  split at h
  · cases h
  · rename_i leaf hleaf
    cases hsubleaves : subleavesOf name.toList with
    | error fault => simp [hsubleaves, Except.map] at h
    | ok subleaves =>
      simp only [hsubleaves, Except.map, Except.ok.injEq, Option.some.injEq] at h
      subst h
      refine ⟨?_, isWord_of_subleavesOf _ subleaves hsubleaves⟩
      rw [String.toList_ofList]
      exact isWord_of_leafFrom? true _ leaf hleaf

theorem LeafGroup.HasWords.firstSubleaf {group : LeafGroup} (h : group.HasWords) :
    Text.IsWord group.firstSubleaf.toList := by
  unfold LeafGroup.firstSubleaf
  cases hhead : group.subleaves.head? with
  | none => exact isWord_defaultSubleaf
  | some subleaf => exact h.subleaves subleaf (List.mem_of_head? hhead)

structure Entry.HasWords (entry : Entry) : Prop where
  leaf : Text.IsWord entry.leaf.toList
  subleaf : Text.IsWord entry.subleaf.toList

def Context.HasWords (context : Context) : Prop :=
  ∀ group ∈ context.group, group.HasWords

theorem hasWords_pendingMarker (source : Source) (group : LeafGroup) (h : group.HasWords)
    (caption : Option String) : ∀ entry ∈ pendingMarker source group caption, entry.HasWords := by
  intro entry hentry
  obtain ⟨text, -, rfl⟩ := List.mem_map.mp hentry
  exact ⟨h.leaf, h.firstSubleaf⟩

theorem hasWords_fieldEntries (source : Source) (group : LeafGroup) (h : group.HasWords)
    (row : Row) (geometry : Geometry) (value : String) :
    ∀ entry ∈ fieldEntries source group row geometry value, entry.HasWords := by
  intro entry hentry
  obtain ⟨subleaf, hsubleaf, rfl⟩ := List.mem_map.mp hentry
  exact ⟨h.leaf, h.subleaves subleaf hsubleaf⟩

structure GivesWords (next : Context) (events : List (Event Entry)) : Prop where
  next : next.HasWords
  entries : ∀ entry, .entry entry ∈ events → entry.HasWords

theorem hasWords_of_announced? (row : Row) (announced : Option LeafGroup)
    (h : row.announced? = some announced) : ∀ group ∈ announced, group.HasWords := by
  rintro group rfl
  obtain ⟨name, hname⟩ := exists_ofName_of_announced? row group h
  exact LeafGroup.hasWords_of_ofName name group hname

theorem givesWords_of_rowStep (source : Source) (context next : Context) (h : context.HasWords)
    (row : Row) (events : List (Event Entry)) (hstep : RowStep source context row next events) :
    GivesWords next events where
  next := by
    cases hstep with
    | blank => exact h
    | header caption =>
      cases hannounced : row.announced? with
      | none => exact h
      | some announced => exact hasWords_of_announced? row announced hannounced
    | lost => exact h
    | field _ _ group _ _ _ hgroup =>
      intro other hother
      exact h other (hgroup.trans hother)
  entries made hmade := by
    obtain ⟨-, group, geometry, value, hgroup, -, hmarker | hfield⟩ :=
      hstep.mem_of_entry_mem made hmade
    · exact hasWords_pendingMarker source group (h group hgroup) context.caption made hmarker
    · exact hasWords_fieldEntries source group (h group hgroup) row geometry value made hfield

/-- The entries of a sheet have words for leaf and sub-leaf. -/
theorem hasWords_of_read (columns : Columns) (version : String) (sheet : Sheet)
    (build : Build Entry) (h : (read columns version sheet).attempt.outcome = .ok build)
    (entry : Entry) (hentry : entry ∈ build.entries) : entry.HasWords := by
  refine forall_entries_of_read Context.HasWords Entry.HasWords (by simp [Context.HasWords]) ?_
    columns version sheet build h entry hentry
  intro source context next row events hcontext hstep
  have hgives := givesWords_of_rowStep source context next hcontext row events hstep
  exact ⟨hgives.next, hgives.entries⟩

def printedTokens (line : List Char) : List Char × List Char :=
  let arguments := (line.dropWhile (· ≠ '(')).drop 1
  let others := (arguments.dropWhile (· ≠ ',')).drop 1
  (Text.trimChars (arguments.takeWhile (· ≠ ',')), Text.trimChars (others.takeWhile (· ≠ ',')))

/-- A line that is no comment calls a macro on the leaf and the sub-leaf first. -/
theorem Entry.exists_line_eq (entry : Entry) (h : entry.isMarker = false) :
    ∃ name rest, '(' ∉ name ∧ entry.line.toList = name ++
      '(' :: (entry.leaf.toList ++ ',' :: (' ' :: entry.subleaf.toList ++ ',' :: rest)) := by
  simp only [Entry.line, h, Bool.false_eq_true, if_false]
  split
  · refine ⟨"\tEXP_CPUID_BYTE".toList, String.toList <| s!" {entry.registerName}, " ++
      s!"{entry.expectedValue}, {entry.specVersion});\t//{entry.fieldName}", by decide, ?_⟩
    simp [toString]
  · split
    · refine ⟨"\tEXP_CPUID_BIT".toList, String.toList <| s!" {entry.registerName}, {entry.msb}, " ++
        s!"{entry.expectedValue}, {entry.specVersion});\t//{entry.fieldName}", by decide, ?_⟩
      simp [toString]
    · refine ⟨"\tEXP_CPUID_RES_BITS".toList, String.toList <| s!" {entry.registerName}, " ++
        s!"{entry.lsb}, {entry.msb}, {entry.specVersion});\t//{entry.fieldName}", by decide, ?_⟩
      simp [toString]

/-- The first two arguments are the tokens as they were written. -/
theorem Entry.HasWords.printedTokens_line {entry : Entry} (h : entry.HasWords)
    (hfield : entry.isMarker = false) :
    printedTokens entry.line.toList = (entry.leaf.toList, entry.subleaf.toList) := by
  obtain ⟨name, rest, hname, hline⟩ := entry.exists_line_eq hfield
  have hcomma : Text.isWordChar ',' = false := by decide +kernel
  have hleaf := h.leaf.not_mem ',' hcomma
  have hsubleaf : ',' ∉ ' ' :: entry.subleaf.toList := by
    simpa using h.subleaf.not_mem ',' hcomma
  have hblank : Text.trimChars (' ' :: entry.subleaf.toList) =
      Text.trimChars entry.subleaf.toList := rfl
  rw [printedTokens, hline, drop_dropWhile_ne_append '(' _ _ hname]
  simp only [takeWhile_ne_append ',' _ _ hleaf, drop_dropWhile_ne_append ',' _ _ hleaf]
  rw [takeWhile_ne_append ',' _ _ hsubleaf, hblank, h.leaf.trimChars_eq, h.subleaf.trimChars_eq]

/-- What C reads in the line of a case, and the numbers by which the case is told apart and ordered.
The normal forms of the tokens would be read as these numbers; the tokens themselves need not. -/
structure PrintsNumbers (entry : Entry) (leaf subleaf : Nat) : Prop where
  printed : printedTokens entry.line.toList = (entry.leaf.toList, entry.subleaf.toList)
  reads_leaf : Numeral.constant? (printedTokens entry.line.toList).1 = some leaf ↔
    Numeral.ReadsAlike entry.leaf.toList leaf
  reads_subleaf : Numeral.constant? (printedTokens entry.line.toList).2 = some subleaf ↔
    Numeral.ReadsAlike entry.subleaf.toList subleaf
  fuseKey_leaf : Numeral.constant? entry.fuseKey.leaf.toList = some leaf
  fuseKey_subleaf : Numeral.constant? entry.fuseKey.subleaf.toList = some subleaf
  sortKey : entry.sortKey.take 2 = [(leaf : Int), (subleaf : Int)]

theorem constant?_of_tokenValue? (token : String) (value : Nat)
    (hword : Text.IsWord token.toList) (h : Entry.tokenValue? token = some value) :
    Numeral.constant? token.toList = some value ↔ Numeral.ReadsAlike token.toList value := by
  have hsign : '+' ∉ token.toList := hword.not_mem '+' (by decide +kernel)
  have hread := Entry.readHex_of_tokenValue? token value h
  have hvalue : Numeral.hexValue? token.toList = some value := by
    simp only [Numeral.readHex, hword.trimChars_eq] at hread
    split at hread
    · cases hread
    · split at hread
      · rename_i found hfound
        rwa [Except.ok.inj hread] at hfound
      · cases hread
  exact Numeral.constant?_eq_some_iff token.toList value hsign hvalue

/-- A case of a sheet is printed with the tokens of its leaf and sub-leaf, and C reads the number of
a token exactly when it is marked as hexadecimal or its number is below the base that C assumes. -/
theorem printsNumbers_of_read (columns : Columns) (version : String) (sheet : Sheet)
    (build : Build Entry) (h : (read columns version sheet).attempt.outcome = .ok build)
    (entry : Entry) (hentry : entry ∈ build.entries) (hfield : entry.isMarker = false)
    (leaf subleaf : Nat) (hleaf : entry.leafValue? = some leaf)
    (hsubleaf : entry.subleafValue? = some subleaf) : PrintsNumbers entry leaf subleaf := by
  have hwords := hasWords_of_read columns version sheet build h entry hentry
  have hprinted := hwords.printedTokens_line hfield
  have hkeyLeaf : entry.fuseKey.leaf = Numeral.hexText leaf := by
    rw [Entry.fuseKey, hleaf]
    rfl
  have hkeySubleaf : entry.fuseKey.subleaf = Numeral.hexText subleaf := by
    rw [Entry.fuseKey, hsubleaf]
    rfl
  exact {
    printed := hprinted
    reads_leaf := by
      rw [hprinted]
      exact constant?_of_tokenValue? entry.leaf leaf hwords.leaf hleaf
    reads_subleaf := by
      rw [hprinted]
      exact constant?_of_tokenValue? entry.subleaf subleaf hwords.subleaf hsubleaf
    fuseKey_leaf := by rw [hkeyLeaf, Numeral.constant?_hexText]
    fuseKey_subleaf := by rw [hkeySubleaf, Numeral.constant?_hexText]
    sortKey := by
      rw [Entry.sortKey, hleaf, hsubleaf]
      rfl
  }

def unmarkedSheet : Sheet where
  path := "cpuid.csv"
  columns := ["Field", "Reg.", "MSB", "LSB", "Field Size", "Type", "Detail"]
  rows := [
    ⟨["Leaf 0x1F, Sub-Leaf 7", "", "", "", "", "", ""], 2⟩,
    ⟨["Shift", "EAX", "4", "0", "5", "Fixed", "1"], 3⟩,
    ⟨["Leaf 10", "", "", "", "", "", ""], 4⟩,
    ⟨["Masks", "EBX", "31", "0", "32", "Fixed", "0x6"], 5⟩]

theorem printsNumbers_of_read_marked :
    ∃ build, (read ⟨"Field", ["Type"], ["Detail"]⟩ "1.5" unmarkedSheet).attempt.outcome =
        .ok build ∧
      ∃ entry ∈ build.entries, entry.isMarker = false ∧ entry.leafValue? = some 31 ∧
        entry.subleafValue? = some 7 ∧ PrintsNumbers entry 31 7 := by
  refine ⟨_, rfl, ⟨"0x1F", "7", some .eax, 4, 0, 5, "Shift", "1", "VER1_5"⟩, ?_, rfl, ?_, ?_, ?_⟩
  · decide +kernel
  · decide +kernel
  · decide +kernel
  · exact printsNumbers_of_read ⟨"Field", ["Type"], ["Detail"]⟩ "1.5" unmarkedSheet _ rfl _
      (by decide +kernel) rfl 31 7 (by decide +kernel) (by decide +kernel)

/-- The leaf `10` is told apart and ordered as sixteen, and C reads ten. -/
theorem leaf_ten_printed_as_ten :
    ∃ build, (read ⟨"Field", ["Type"], ["Detail"]⟩ "1.5" unmarkedSheet).attempt.outcome =
        .ok build ∧
      ∃ entry ∈ build.entries, entry.isMarker = false ∧ entry.leafValue? = some 16 ∧
        entry.subleafValue? = some 0 ∧ entry.fuseKey.leaf = "0x10" ∧
        Numeral.constant? (printedTokens entry.line.toList).1 = some 10 := by
  refine ⟨_, rfl, ⟨"10", "0x0", some .ebx, 31, 0, 32, "Masks", "0x6", "VER1_5"⟩, ?_, rfl, ?_⟩
  · decide +kernel
  · decide +kernel

end Cpuid

end GuestCases
