import GuestCases.Proofs.MarkerRoles

/-!
What the header of a leaf group says. A phrase stands in a text behind some characters and in front
of others, and of several phrases of a kind the one with the fewest characters in front of it
counts. The first leaf phrase names the leaf. The sub-leaves are those of the first range in the
text, or else that of the first single sub-leaf, or else `0x0`. So only a range can be at fault.
-/

namespace GuestCases.Cpuid

variable {α : Type}

structure IsMaximalWord (word rest : List Char) : Prop where
  ne_nil : word ≠ []
  isWord : Text.IsWord word
  ends : ∀ c ∈ rest.head?, Text.isWordChar c = false

def WordAfter (mark cs word : List Char) : Prop :=
  ∃ rest, cs = mark ++ (word ++ rest) ∧ IsMaximalWord word rest

def RangeAfter (mark cs : List Char) (words : List Char × List Char) : Prop :=
  ∃ rest, cs = mark ++ (words.1 ++ '-' :: (words.2 ++ rest)) ∧
    IsMaximalWord words.1 ('-' :: (words.2 ++ rest)) ∧ IsMaximalWord words.2 rest

def MayNameLeaf (before : List Char) : Prop :=
  ∀ c ∈ before.getLast?, Text.isWordChar c = false ∧ c ≠ '-'

def LeafPhrase (before after leaf : List Char) : Prop :=
  MayNameLeaf before ∧ WordAfter leafMark after leaf

def RangePhrase (_before after : List Char) (words : List Char × List Char) : Prop :=
  RangeAfter rangeMark after words

def SinglePhrase (_before after word : List Char) : Prop :=
  WordAfter singleMark after word

def StandsFirst (Stands : List Char → List Char → α → Prop) (cs : List Char) (value : α) : Prop :=
  ∃ before after, cs = before ++ after ∧ Stands before after value ∧
    ∀ earlier later, cs = earlier ++ later → earlier.length < before.length →
      ∀ other, ¬Stands earlier later other

def StandsNowhere (Stands : List Char → List Char → α → Prop) (cs : List Char) : Prop :=
  ∀ before after, cs = before ++ after → ∀ value, ¬Stands before after value

/-- Somewhere in the characters a leaf may be named, and `Leaf ` and a word character follow. -/
def HasLeafPhrase (cs : List Char) : Prop :=
  ∃ before c after, cs = before ++ (leafMark ++ c :: after) ∧ MayNameLeaf before ∧
    Text.isWordChar c = true

inductive NamesSubleaves (cs : List Char) : Except LeafFault (List String) → Prop where
  | range (first last : List Char) (hrange : StandsFirst RangePhrase cs (first, last)) :
    NamesSubleaves cs (expandRange (String.ofList first) (String.ofList last))
  | single (word : List Char) (hrange : StandsNowhere RangePhrase cs)
    (hsingle : StandsFirst SinglePhrase cs word) :
    NamesSubleaves cs (.ok [if word = ['N'] then "0x0" else String.ofList word])
  | absent (hrange : StandsNowhere RangePhrase cs) (hsingle : StandsNowhere SinglePhrase cs) :
    NamesSubleaves cs (.ok ["0x0"])

theorem isMaximalWord_leadingWord (cs : List Char) (h : Text.leadingWord cs ≠ []) :
    IsMaximalWord (Text.leadingWord cs) (Text.afterWord cs) where
  ne_nil := h
  isWord := Text.isWord_leadingWord cs
  ends c hc := by
    have hnot := List.head?_dropWhile_not Text.isWordChar cs
    rw [Option.mem_def, Text.afterWord] at hc
    simpa only [hc] using hnot

/-- A word in front of what does not go on with it is taken whole. -/
theorem IsMaximalWord.leadingWord_eq {word rest : List Char} (h : IsMaximalWord word rest) :
    Text.leadingWord (word ++ rest) = word ∧ Text.afterWord (word ++ rest) = rest := by
  have hends : rest.takeWhile Text.isWordChar = [] ∧ rest.dropWhile Text.isWordChar = rest := by
    cases rest with
    | nil => exact ⟨rfl, rfl⟩
    | cons c others =>
      have hc : ¬Text.isWordChar c = true := by simp [h.ends c rfl]
      exact ⟨List.takeWhile_cons_of_neg hc, List.dropWhile_cons_of_neg hc⟩
  constructor
  · rw [Text.leadingWord, List.takeWhile_append_of_pos h.isWord, hends.1, List.append_nil]
  · rw [Text.afterWord, List.dropWhile_append_of_pos h.isWord, hends.2]

theorem wordAfter?_eq_some_iff (mark cs word : List Char) :
    wordAfter? mark cs = some word ↔ WordAfter mark cs word := by
  simp only [wordAfter?, Option.bind_eq_some_iff, List.isPrefixOf?_eq_some_iff_append_eq,
    Option.ite_none_left_eq_some, Option.some.injEq, List.isEmpty_iff]
  constructor
  · rintro ⟨rest, rfl, hne, rfl⟩
    exact ⟨_, by rw [Text.leadingWord_append_afterWord], isMaximalWord_leadingWord rest hne⟩
  · rintro ⟨rest, rfl, hword⟩
    refine ⟨word ++ rest, rfl, ?_, hword.leadingWord_eq.1⟩
    rw [hword.leadingWord_eq.1]
    exact hword.ne_nil

theorem rangeAfter?_eq_some_iff (mark cs : List Char) (words : List Char × List Char) :
    rangeAfter? mark cs = some words ↔ RangeAfter mark cs words := by
  simp only [rangeAfter?, Option.bind_eq_some_iff, List.isPrefixOf?_eq_some_iff_append_eq]
  constructor
  · rintro ⟨rest, rfl, hwords⟩
    split at hwords
    · rename_i tail hafter
      simp only [Option.ite_none_left_eq_some, Option.some.injEq, Bool.or_eq_true,
        List.isEmpty_iff, not_or] at hwords
      obtain ⟨⟨hfirst, hlast⟩, rfl⟩ := hwords
      have hword := isMaximalWord_leadingWord rest hfirst
      have hrest := Text.leadingWord_append_afterWord rest
      rw [hafter, ← Text.leadingWord_append_afterWord tail] at hword hrest
      exact ⟨Text.afterWord tail, by rw [hrest], hword, isMaximalWord_leadingWord tail hlast⟩
    · cases hwords
  · rintro ⟨rest, rfl, hfirst, hlast⟩
    refine ⟨_, rfl, ?_⟩
    simp [hfirst.leadingWord_eq, hlast.leadingWord_eq, hfirst.ne_nil, hlast.ne_nil]

theorem standsFirst_nil_iff (Stands : List Char → List Char → α → Prop) (value : α) :
    StandsFirst Stands [] value ↔ Stands [] [] value := by
  constructor
  · rintro ⟨before, after, hcs, hvalue, -⟩
    obtain ⟨rfl, rfl⟩ := List.nil_eq_append_iff.mp hcs
    exact hvalue
  · intro hvalue
    exact ⟨[], [], rfl, hvalue, fun _ _ _ hlt => absurd hlt (Nat.not_lt_zero _)⟩

/-- The first place is the beginning, or it is the first behind the first character. -/
theorem standsFirst_cons_iff (Stands : List Char → List Char → α → Prop) (c : Char)
    (rest : List Char) (value : α) :
    StandsFirst Stands (c :: rest) value ↔
      Stands [] (c :: rest) value ∨ (∀ other, ¬Stands [] (c :: rest) other) ∧
        StandsFirst (fun before => Stands (c :: before)) rest value := by
  constructor
  · rintro ⟨before, after, hcs, hvalue, hfirst⟩
    cases before with
    | nil =>
      obtain rfl : c :: rest = after := hcs
      exact .inl hvalue
    | cons d before =>
      obtain ⟨rfl, rfl⟩ := List.cons.inj hcs
      refine .inr ⟨hfirst [] _ rfl (by simp), before, after, rfl, hvalue, ?_⟩
      intro earlier later hrest hlt
      refine hfirst (c :: earlier) later (by rw [hrest, List.cons_append]) ?_
      simp only [List.length_cons]
      omega
  · rintro (hvalue | ⟨hnone, before, after, rfl, hvalue, hfirst⟩)
    · exact ⟨[], c :: rest, rfl, hvalue, fun _ _ _ hlt => absurd hlt (Nat.not_lt_zero _)⟩
    · refine ⟨c :: before, after, rfl, hvalue, ?_⟩
      intro earlier later hcs hlt
      cases earlier with
      | nil =>
        obtain rfl : c :: (before ++ after) = later := hcs
        exact hnone
      | cons d earlier =>
        obtain ⟨rfl, hrest⟩ := List.cons.inj hcs
        simp only [List.length_cons] at hlt
        exact hfirst earlier later hrest (by omega)

/-- What stands anywhere stands somewhere first. -/
theorem standsNowhere_iff (Stands : List Char → List Char → α → Prop) (cs : List Char) :
    StandsNowhere Stands cs ↔ ∀ value, ¬StandsFirst Stands cs value := by
  constructor
  · rintro hnone value ⟨before, after, hcs, hvalue, -⟩
    exact hnone before after hcs value hvalue
  · intro hnone before after hcs value hvalue
    induction before generalizing cs Stands with
    | nil =>
      obtain rfl : cs = after := hcs
      cases cs with
      | nil => exact hnone value ((standsFirst_nil_iff Stands value).mpr hvalue)
      | cons c rest =>
        exact hnone value ((standsFirst_cons_iff Stands c rest value).mpr (.inl hvalue))
    | cons c before ih =>
      subst hcs
      by_cases hstart : ∃ other, Stands [] (c :: (before ++ after)) other
      · obtain ⟨other, hother⟩ := hstart
        exact hnone other ((standsFirst_cons_iff Stands c _ other).mpr (.inl hother))
      · refine ih (fun before => Stands (c :: before)) _ (fun other hother => ?_) rfl hvalue
        exact hnone other ((standsFirst_cons_iff Stands c _ other).mpr
          (.inr ⟨not_exists.mp hstart, hother⟩))

theorem firstEnd?_eq_some_iff (read? : List Char → Option α)
    (Stands : List Char → List Char → α → Prop)
    (hread : ∀ before after value, read? after = some value ↔ Stands before after value)
    (cs : List Char) (value : α) :
    firstEnd? read? cs = some value ↔ StandsFirst Stands cs value := by
  induction cs generalizing Stands with
  | nil => rw [firstEnd?, standsFirst_nil_iff, hread]
  | cons c rest ih =>
    rw [standsFirst_cons_iff, firstEnd?,
      ← ih (fun before => Stands (c :: before)) fun before => hread (c :: before)]
    simp only [← hread []]
    cases hfound : read? (c :: rest) <;> simp

theorem firstEnd?_eq_none_iff (read? : List Char → Option α)
    (Stands : List Char → List Char → α → Prop)
    (hread : ∀ before after value, read? after = some value ↔ Stands before after value)
    (cs : List Char) : firstEnd? read? cs = none ↔ StandsNowhere Stands cs := by
  rw [standsNowhere_iff, Option.eq_none_iff_forall_ne_some]
  exact forall_congr' fun value => not_congr (firstEnd?_eq_some_iff read? Stands hread cs value)

def endsPhraseFrom (free : Bool) (before : List Char) : Bool :=
  (before.getLast?.map endsPhrase).getD free

theorem endsPhraseFrom_cons (free : Bool) (c : Char) (before : List Char) :
    endsPhraseFrom free (c :: before) = endsPhraseFrom (endsPhrase c) before := by
  rw [endsPhraseFrom, endsPhraseFrom, List.getLast?_cons, Option.map_some, Option.getD_some]
  cases before.getLast? <;> rfl

theorem endsPhraseFrom_true_iff (before : List Char) :
    endsPhraseFrom true before = true ↔ MayNameLeaf before := by
  unfold endsPhraseFrom MayNameLeaf
  cases before.getLast? <;> simp [endsPhrase]

/-- Every character decides for the place behind it whether a leaf may be named there. -/
theorem leafFrom?_eq_some_iff_of_free (free : Bool) (cs leaf : List Char) :
    leafFrom? free cs = some leaf ↔ StandsFirst
      (fun before after leaf =>
        endsPhraseFrom free before = true ∧ wordAfter? leafMark after = some leaf) cs leaf := by
  induction cs generalizing free with
  | nil =>
    have hnone : wordAfter? leafMark [] = none := rfl
    rw [standsFirst_nil_iff]
    simp [leafFrom?, hnone]
  | cons c rest ih =>
    have hstart : endsPhraseFrom free [] = free := rfl
    rw [standsFirst_cons_iff, leafFrom?]
    simp only [endsPhraseFrom_cons, ← ih, hstart]
    cases free with
    | false => simp
    | true => cases hfound : wordAfter? leafMark (c :: rest) <;> simp

theorem leafFrom?_eq_some_iff (cs leaf : List Char) :
    leafFrom? true cs = some leaf ↔ StandsFirst LeafPhrase cs leaf := by
  rw [leafFrom?_eq_some_iff_of_free]
  simp only [endsPhraseFrom_true_iff, wordAfter?_eq_some_iff]
  rfl

theorem leafFrom?_eq_none_iff (cs : List Char) :
    leafFrom? true cs = none ↔ StandsNowhere LeafPhrase cs := by
  rw [standsNowhere_iff, Option.eq_none_iff_forall_ne_some]
  exact forall_congr' fun leaf => not_congr (leafFrom?_eq_some_iff cs leaf)

theorem firstRange?_eq_some_iff (cs : List Char) (words : List Char × List Char) :
    firstEnd? (rangeAfter? rangeMark) cs = some words ↔ StandsFirst RangePhrase cs words :=
  firstEnd?_eq_some_iff _ RangePhrase (fun _ => rangeAfter?_eq_some_iff rangeMark) cs words

theorem firstRange?_eq_none_iff (cs : List Char) :
    firstEnd? (rangeAfter? rangeMark) cs = none ↔ StandsNowhere RangePhrase cs :=
  firstEnd?_eq_none_iff _ RangePhrase (fun _ => rangeAfter?_eq_some_iff rangeMark) cs

theorem firstSingle?_eq_some_iff (cs word : List Char) :
    firstEnd? (wordAfter? singleMark) cs = some word ↔ StandsFirst SinglePhrase cs word :=
  firstEnd?_eq_some_iff _ SinglePhrase (fun _ => wordAfter?_eq_some_iff singleMark) cs word

theorem firstSingle?_eq_none_iff (cs : List Char) :
    firstEnd? (wordAfter? singleMark) cs = none ↔ StandsNowhere SinglePhrase cs :=
  firstEnd?_eq_none_iff _ SinglePhrase (fun _ => wordAfter?_eq_some_iff singleMark) cs

/-- A text says one thing of its sub-leaves. -/
theorem namesSubleaves_iff (cs : List Char) (outcome : Except LeafFault (List String)) :
    NamesSubleaves cs outcome ↔ subleavesOf cs = outcome := by
  constructor
  · rintro (⟨first, last, hrange⟩ | ⟨word, hrange, hsingle⟩ | ⟨hrange, hsingle⟩)
    · simp only [subleavesOf, (firstRange?_eq_some_iff cs _).mpr hrange]
    · simp only [subleavesOf, (firstRange?_eq_none_iff cs).mpr hrange,
        (firstSingle?_eq_some_iff cs word).mpr hsingle, singleSubleaf, defaultSubleaf]
    · simp only [subleavesOf, (firstRange?_eq_none_iff cs).mpr hrange,
        (firstSingle?_eq_none_iff cs).mpr hsingle, defaultSubleaf]
  · rintro rfl
    unfold subleavesOf
    split
    · rename_i first last hrange
      exact .range first last ((firstRange?_eq_some_iff cs _).mp hrange)
    · rename_i hrange
      have hnone := (firstRange?_eq_none_iff cs).mp hrange
      split
      · rename_i word hsingle
        exact .single word hnone ((firstSingle?_eq_some_iff cs word).mp hsingle)
      · rename_i hsingle
        exact .absent hnone ((firstSingle?_eq_none_iff cs).mp hsingle)

theorem exists_wordAfter_iff (mark cs : List Char) :
    (∃ word, WordAfter mark cs word) ↔
      ∃ c after, cs = mark ++ c :: after ∧ Text.isWordChar c = true := by
  constructor
  · rintro ⟨word, rest, rfl, hword⟩
    obtain ⟨c, others, rfl⟩ := List.exists_cons_of_ne_nil hword.ne_nil
    exact ⟨c, others ++ rest, rfl, hword.isWord c List.mem_cons_self⟩
  · rintro ⟨c, after, rfl, hc⟩
    have hne : Text.leadingWord (c :: after) ≠ [] := by
      rw [Text.leadingWord, List.takeWhile_cons_of_pos hc]
      exact List.cons_ne_nil _ _
    exact ⟨_, _, by rw [Text.leadingWord_append_afterWord], isMaximalWord_leadingWord _ hne⟩

theorem standsNowhere_leafPhrase_iff (cs : List Char) :
    StandsNowhere LeafPhrase cs ↔ ¬HasLeafPhrase cs := by
  constructor
  · rintro hnone ⟨before, c, after, hcs, hbefore, hc⟩
    obtain ⟨word, hword⟩ := (exists_wordAfter_iff leafMark _).mpr ⟨c, after, rfl, hc⟩
    exact hnone before _ hcs word ⟨hbefore, hword⟩
  · rintro hnone before after rfl leaf ⟨hbefore, hleaf⟩
    obtain ⟨c, rest, rfl, hc⟩ := (exists_wordAfter_iff leafMark after).mp ⟨leaf, hleaf⟩
    exact hnone ⟨before, c, rest, rfl, hbefore, hc⟩

theorem ofName_eq_ok_none_iff (name : String) :
    LeafGroup.ofName name = .ok none ↔ leafFrom? true name.toList = none := by
  simp only [LeafGroup.ofName]
  cases leafFrom? true name.toList with
  | none => simp
  | some leaf => cases subleavesOf name.toList <;> simp [Except.map]

theorem ofName_eq_ok_some_iff (name : String) (group : LeafGroup) :
    LeafGroup.ofName name = .ok (some group) ↔
      leafFrom? true name.toList = some group.leaf.toList ∧
        subleavesOf name.toList = .ok group.subleaves := by
  simp only [LeafGroup.ofName]
  cases leafFrom? true name.toList with
  | none => simp
  | some leaf =>
    obtain ⟨named, subleaves⟩ := group
    cases subleavesOf name.toList <;>
      simp [Except.map, String.ext_iff]

theorem ofName_eq_error_iff (name : String) (fault : LeafFault) :
    LeafGroup.ofName name = .error fault ↔
      leafFrom? true name.toList ≠ none ∧ subleavesOf name.toList = .error fault := by
  simp only [LeafGroup.ofName]
  cases leafFrom? true name.toList with
  | none => simp
  | some leaf => cases subleavesOf name.toList <;> simp [Except.map]

/-- Only a range can be at fault. -/
theorem subleavesOf_eq_error_iff (cs : List Char) (fault : LeafFault) :
    subleavesOf cs = .error fault ↔ ∃ first last, StandsFirst RangePhrase cs (first, last) ∧
      expandRange (String.ofList first) (String.ofList last) = .error fault := by
  constructor
  · intro h
    have hnames := (namesSubleaves_iff cs _).mpr h
    generalize hfault : (Except.error fault : Except LeafFault (List String)) = outcome at hnames
    cases hnames with
    | range first last hrange => exact ⟨first, last, hrange, rfl⟩
    | single => cases hfault
    | absent => cases hfault
  · rintro ⟨first, last, hrange, hfault⟩
    rw [← hfault]
    exact (namesSubleaves_iff cs _).mp (.range first last hrange)

/-- A field name announces no group when it has no leaf phrase. Otherwise the first leaf phrase
names the leaf, the whole text names the sub-leaves, of which there is one at least, and only a
range of sub-leaves can be at fault. -/
theorem ofName_follows_grammar (name : String) :
    (LeafGroup.ofName name = .ok none ↔ ¬HasLeafPhrase name.toList) ∧
    (∀ group : LeafGroup, LeafGroup.ofName name = .ok (some group) ↔
      StandsFirst LeafPhrase name.toList group.leaf.toList ∧
        NamesSubleaves name.toList (.ok group.subleaves) ∧ group.subleaves ≠ []) ∧
    ∀ fault, LeafGroup.ofName name = .error fault ↔
      HasLeafPhrase name.toList ∧
        ∃ first last, StandsFirst RangePhrase name.toList (first, last) ∧
          expandRange (String.ofList first) (String.ofList last) = .error fault := by
  have hphrase := leafFrom?_eq_none_iff name.toList
  rw [standsNowhere_leafPhrase_iff] at hphrase
  refine ⟨?_, fun group => ?_, fun fault => ?_⟩
  · rw [ofName_eq_ok_none_iff, hphrase]
  · have hgroup := ofName_eq_ok_some_iff name group
    rw [leafFrom?_eq_some_iff, ← namesSubleaves_iff] at hgroup
    constructor
    · intro h
      exact ⟨(hgroup.mp h).1, (hgroup.mp h).2, group.subleaves_ne_nil name h⟩
    · rintro ⟨hleaf, hsubleaves, -⟩
      exact hgroup.mpr ⟨hleaf, hsubleaves⟩
  · rw [ofName_eq_error_iff, ← subleavesOf_eq_error_iff, ne_eq, hphrase, not_not]

/-- A range counts before a single sub-leaf, wherever it stands. -/
example : LeafGroup.ofName "Leaf 0x4 (Sub-Leaf 0x3, Sub-Leaves 0x0-0x1)" =
    .ok (some ⟨"0x4", ["0x0", "0x1"]⟩) := by
  decide +kernel

end GuestCases.Cpuid
