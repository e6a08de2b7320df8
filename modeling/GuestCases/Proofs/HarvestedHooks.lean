import GuestCases.Msr.Description
import GuestCases.Proofs.LeafPhrases

/-!
Which hooks a C header declares: those that a declaration anywhere in its text names. The search
reads a declaration piece by piece and takes each blank run and each name as far as it goes, which
is the only way to read it, since what follows can be neither. It goes on behind a declaration it
has found, and misses nothing by that, as no declaration begins within another.
-/

namespace GuestCases.Msr

inductive Piece where
  | literal (text : String)
  | blanks
  | optionalBlanks
  | name

def Piece.Spells (name : List Char) : Piece → List Char → Prop
  | .literal text, cs => cs = text.toList
  | .blanks, cs => cs ≠ [] ∧ ∀ c ∈ cs, Text.isBlank c = true
  | .optionalBlanks, cs => ∀ c ∈ cs, Text.isBlank c = true
  | .name, cs => cs = name ∧ name ≠ [] ∧ Text.IsWord name

def SpellsAll (name : List Char) : List Piece → List Char → Prop
  | [], cs => cs = []
  | piece :: pieces, cs =>
    ∃ front rest, cs = front ++ rest ∧ piece.Spells name front ∧ SpellsAll name pieces rest

def declaration : List Piece :=
  [.literal "static", .blanks, .literal "void", .blanks, .name, .optionalBlanks, .literal "(",
    .optionalBlanks, .literal "struct", .blanks, .literal "test_msr", .optionalBlanks, .literal "*",
    .optionalBlanks, .literal "c", .optionalBlanks, .literal ")"]

/-- What is left of the characters when the piece is read as far as it goes. -/
def Piece.Takes (name : List Char) : Piece → List Char → List Char → Prop
  | .literal text, cs, rest => skip? text cs = some rest
  | .blanks, cs, rest => skipBlanks? cs = some rest
  | .optionalBlanks, cs, rest => skipBlank cs = rest
  | .name, cs, rest => Text.leadingWord cs = name ∧ name ≠ [] ∧ Text.afterWord cs = rest

def TakesAll (name : List Char) : List Piece → List Char → List Char → Prop
  | [], cs, after => cs = after
  | piece :: pieces, cs, after =>
    ∃ rest, piece.Takes name cs rest ∧ TakesAll name pieces rest after

def endsBlanks : List Piece → Bool
  | .literal text :: _ => text.toList.head?.any (!Text.isBlank ·)
  | .name :: _ => true
  | _ => false

def endsName : List Piece → Bool
  | .literal text :: _ => text.toList.head?.any (!Text.isWordChar ·)
  | .blanks :: _ => true
  | .optionalBlanks :: pieces => endsName pieces
  | _ => false

/-- Every piece without a fixed length ends where the next begins. -/
def separated : List Piece → Bool
  | [] => true
  | .literal _ :: pieces => separated pieces
  | .blanks :: pieces => endsBlanks pieces && separated pieces
  | .optionalBlanks :: pieces => endsBlanks pieces && separated pieces
  | .name :: pieces => endsName pieces && separated pieces

theorem signature?_eq_some_iff_takesAll (cs name after : List Char) :
    signature? cs = some (name, after) ↔ TakesAll name declaration cs after := by
  simp only [signature?, Option.bind_eq_bind, Option.bind_eq_some_iff, declaration, TakesAll,
    Piece.Takes]
  -- Both sides go through the same rests. The reader keeps the name to the end, the pieces do not.
  constructor
  · rintro ⟨_, hstatic, _, hblanks, _, hvoid, named, hblanks', h⟩
    split at h
    · cases h
    · rename_i hname
      simp only [Option.bind_eq_some_iff] at h
      obtain ⟨_, hopen, _, hstruct, _, hblanks'', _, htype, _, hstar, _, hc, _, hclose, hpair⟩ := h
      obtain ⟨rfl, rfl⟩ := Prod.mk.inj (Option.some.inj hpair)
      exact ⟨_, hstatic, _, hblanks, _, hvoid, named, hblanks', _,
        ⟨rfl, fun hnil => hname (List.isEmpty_iff.mpr hnil), rfl⟩, _, rfl, _, hopen, _, rfl, _,
        hstruct, _, hblanks'', _, htype, _, rfl, _, hstar, _, rfl, _, hc, _, rfl, _, hclose, rfl⟩
  · rintro ⟨_, hstatic, _, hblanks, _, hvoid, named, hblanks', _, ⟨rfl, hname, rfl⟩, _, rfl, _,
      hopen, _, rfl, _, hstruct, _, hblanks'', _, htype, _, rfl, _, hstar, _, rfl, _, hc, _, rfl, _,
      hclose, rfl⟩
    refine ⟨_, hstatic, _, hblanks, _, hvoid, named, hblanks', ?_⟩
    rw [if_neg fun hempty => hname (List.isEmpty_iff.mp hempty)]
    simp only [hopen, hstruct, hblanks'', htype, hstar, hc, hclose, Option.bind_some]
    rfl

def StartsSolid (cs : List Char) : Prop :=
  ∀ c ∈ cs.head?, Text.isBlank c = false

theorem dropWhile_isBlank_append (gap rest : List Char) (hgap : ∀ c ∈ gap, Text.isBlank c = true)
    (hrest : StartsSolid rest) : (gap ++ rest).dropWhile Text.isBlank = rest := by
  rw [List.dropWhile_append_of_pos hgap]
  exact Text.dropWhile_isBlank_eq_self rest hrest

/-- A blank run is taken whole, up to what is no blank. -/
theorem skipBlank_eq_iff (cs rest : List Char) :
    skipBlank cs = rest ↔
      ∃ gap, cs = gap ++ rest ∧ (∀ c ∈ gap, Text.isBlank c = true) ∧ StartsSolid rest := by
  constructor
  · rintro rfl
    exact ⟨cs.takeWhile Text.isBlank, List.takeWhile_append_dropWhile.symm,
      List.all_eq_true.mp List.all_takeWhile, Text.head?_dropWhile_isBlank cs⟩
  · rintro ⟨gap, rfl, hgap, hrest⟩
    exact dropWhile_isBlank_append gap rest hgap hrest

theorem skipBlanks?_eq_some_iff (cs rest : List Char) :
    skipBlanks? cs = some rest ↔
      ∃ gap, cs = gap ++ rest ∧ (gap ≠ [] ∧ ∀ c ∈ gap, Text.isBlank c = true) ∧
        StartsSolid rest := by
  cases cs with
  | nil => simp [skipBlanks?]
  | cons c others =>
    simp only [skipBlanks?, Option.ite_none_right_eq_some, Option.some_inj, skipBlank_eq_iff]
    constructor
    · rintro ⟨hc, gap, rfl, hgap, hrest⟩
      exact ⟨c :: gap, rfl, ⟨List.cons_ne_nil c gap, List.forall_mem_cons.mpr ⟨hc, hgap⟩⟩, hrest⟩
    · rintro ⟨gap, hcs, ⟨hne, hgap⟩, hrest⟩
      obtain ⟨d, gap, rfl⟩ := List.exists_cons_of_ne_nil hne
      obtain ⟨rfl, rfl⟩ := List.cons.inj hcs
      obtain ⟨hc, hgap⟩ := List.forall_mem_cons.mp hgap
      exact ⟨hc, gap, rfl, hgap, hrest⟩

theorem skip?_eq_some_iff (text : String) (cs rest : List Char) :
    skip? text cs = some rest ↔ cs = text.toList ++ rest := by
  rw [skip?, List.isPrefixOf?_eq_some_iff_append_eq, eq_comm]

theorem forall_head?_append {p : Char → Prop} {front : List Char} (rest : List Char)
    (hne : front ≠ []) (h : ∀ c ∈ front, p c) : ∀ c ∈ (front ++ rest).head?, p c := by
  intro c hc
  rw [List.head?_append_of_ne_nil _ hne] at hc
  exact h c (List.mem_of_mem_head? hc)

theorem head?_any_append {p : Char → Bool} {front : List Char} (rest : List Char)
    (h : front.head?.any p = true) : ∀ c ∈ (front ++ rest).head?, p c = true := by
  cases front with
  | nil => cases h
  | cons d others =>
    intro c hc
    obtain rfl : d = c := by simpa using hc
    simpa using h

theorem startsSolid_of_spells (name after : List Char) (pieces : List Piece) (cs : List Char)
    (h : endsBlanks pieces = true) (hspells : SpellsAll name pieces cs) :
    StartsSolid (cs ++ after) := by
  cases pieces with
  | nil => cases h
  | cons piece pieces =>
    obtain ⟨front, rest, rfl, hfront, -⟩ := hspells
    rw [List.append_assoc]
    cases piece with
    | literal text =>
      obtain rfl : front = text.toList := hfront
      intro c hc
      simpa using head?_any_append (rest ++ after) h c hc
    | blanks => cases h
    | optionalBlanks => cases h
    | name =>
      obtain ⟨rfl, hne, hword⟩ := hfront
      exact forall_head?_append _ hne hword.isBlank_eq_false

theorem not_isWordChar_of_spells (name after : List Char) (pieces : List Piece) (cs : List Char)
    (h : endsName pieces = true) (hspells : SpellsAll name pieces cs) :
    ∀ c ∈ (cs ++ after).head?, Text.isWordChar c = false := by
  induction pieces generalizing cs with
  | nil => cases h
  | cons piece pieces ih =>
    obtain ⟨front, rest, rfl, hfront, hrest⟩ := hspells
    rw [List.append_assoc]
    cases piece with
    | literal text =>
      obtain rfl : front = text.toList := hfront
      intro c hc
      simpa using head?_any_append (rest ++ after) h c hc
    | blanks =>
      obtain ⟨hne, hblank⟩ := hfront
      exact forall_head?_append _ hne fun c hc => Text.isWordChar_of_isBlank c (hblank c hc)
    | optionalBlanks =>
      cases front with
      | nil => exact ih rest h hrest
      | cons d others =>
        exact forall_head?_append _ (List.cons_ne_nil d others) fun c hc =>
          Text.isWordChar_of_isBlank c (hfront c hc)
    | name => cases h

/-- In front of what ends it a piece can be read in one way. -/
theorem Piece.takes_iff (name after : List Char) (piece : Piece) (pieces : List Piece)
    (cs signature : List Char) (hseparated : separated (piece :: pieces) = true)
    (hspells : SpellsAll name pieces signature) :
    piece.Takes name cs (signature ++ after) ↔
      ∃ front, cs = front ++ (signature ++ after) ∧ piece.Spells name front := by
  cases piece with
  | literal text => simp [Piece.Takes, Piece.Spells, skip?_eq_some_iff]
  | blanks =>
    have hsolid := startsSolid_of_spells name after pieces signature
      (Bool.and_eq_true_iff.mp hseparated).1 hspells
    rw [Piece.Takes, skipBlanks?_eq_some_iff]
    exact exists_congr fun gap => and_congr_right fun _ => and_iff_left hsolid
  | optionalBlanks =>
    have hsolid := startsSolid_of_spells name after pieces signature
      (Bool.and_eq_true_iff.mp hseparated).1 hspells
    rw [Piece.Takes, skipBlank_eq_iff]
    exact exists_congr fun gap => and_congr_right fun _ => and_iff_left hsolid
  | name =>
    have hends := not_isWordChar_of_spells name after pieces signature
      (Bool.and_eq_true_iff.mp hseparated).1 hspells
    constructor
    · rintro ⟨rfl, hne, hrest⟩
      refine ⟨Text.leadingWord cs, ?_, rfl, hne, Text.isWord_leadingWord cs⟩
      rw [← hrest, Text.leadingWord_append_afterWord]
    · rintro ⟨front, rfl, rfl, hne, hword⟩
      have hmaximal : Cpuid.IsMaximalWord front (signature ++ after) := ⟨hne, hword, hends⟩
      exact ⟨hmaximal.leadingWord_eq.1, hne, hmaximal.leadingWord_eq.2⟩

theorem takesAll_iff (name after : List Char) (pieces : List Piece)
    (hseparated : separated pieces = true) (cs : List Char) :
    TakesAll name pieces cs after ↔
      ∃ signature, cs = signature ++ after ∧ SpellsAll name pieces signature := by
  induction pieces generalizing cs with
  | nil => simp [TakesAll, SpellsAll]
  | cons piece pieces ih =>
    have hlater : separated pieces = true := by
      cases piece with
      | literal text => exact hseparated
      | _ => exact (Bool.and_eq_true_iff.mp hseparated).2
    simp only [TakesAll, ih hlater, SpellsAll]
    constructor
    · rintro ⟨-, htakes, signature, rfl, hspells⟩
      obtain ⟨front, rfl, hfront⟩ :=
        (piece.takes_iff name after pieces cs signature hseparated hspells).mp htakes
      exact ⟨front ++ signature, by rw [List.append_assoc], front, signature, rfl, hfront, hspells⟩
    · rintro ⟨-, rfl, front, signature, rfl, hfront, hspells⟩
      refine ⟨signature ++ after, ?_, signature, rfl, hspells⟩
      rw [piece.takes_iff name after pieces _ signature hseparated hspells]
      exact ⟨front, List.append_assoc .., hfront⟩

theorem separated_declaration : separated declaration = true := by
  decide +kernel

/-- A declaration is read off the characters exactly when they begin with one. -/
theorem signature?_eq_some_iff (cs name after : List Char) :
    signature? cs = some (name, after) ↔
      ∃ signature, cs = signature ++ after ∧ SpellsAll name declaration signature :=
  (signature?_eq_some_iff_takesAll cs name after).trans
    (takesAll_iff name after declaration separated_declaration cs)

def NoneWithin (front rest : List Char) : Prop :=
  ∀ before later, front = before ++ later → later ≠ [] → signature? (later ++ rest) = none

theorem noneWithin_nil (rest : List Char) : NoneWithin [] rest := by
  intro before later h hne
  exact absurd (List.append_eq_nil_iff.mp h.symm).2 hne

theorem noneWithin_cons_iff (c : Char) (front rest : List Char) :
    NoneWithin (c :: front) rest ↔
      signature? (c :: (front ++ rest)) = none ∧ NoneWithin front rest := by
  constructor
  · intro h
    refine ⟨h [] (c :: front) rfl (List.cons_ne_nil c front), fun before later hfront hne => ?_⟩
    exact h (c :: before) later (by rw [hfront, List.cons_append]) hne
  · rintro ⟨hfirst, hothers⟩ before later hfront hne
    cases before with
    | nil =>
      obtain rfl : c :: front = later := hfront
      exact hfirst
    | cons d before => exact hothers before later (List.cons.inj hfront).2 hne

theorem NoneWithin.append {front more rest : List Char} (h : NoneWithin front (more ++ rest))
    (hmore : NoneWithin more rest) : NoneWithin (front ++ more) rest := by
  induction front with
  | nil => exact hmore
  | cons c front ih =>
    obtain ⟨hfirst, hothers⟩ := (noneWithin_cons_iff c front _).mp h
    rw [List.cons_append, noneWithin_cons_iff, List.append_assoc]
    exact ⟨hfirst, ih hothers⟩

theorem signature?_cons_of_ne (c : Char) (cs : List Char) (h : c ≠ 's') :
    signature? (c :: cs) = none := by
  have hstatic : "static".toList = 's' :: "tatic".toList := by decide
  have hskip : skip? "static" (c :: cs) = none := by
    rw [skip?, hstatic, List.isPrefixOf?, if_neg (by simpa using h.symm)]
  rw [signature?, hskip]
  rfl

theorem noneWithin_of_not_mem (front rest : List Char) (h : 's' ∉ front) :
    NoneWithin front rest := by
  intro before later hfront hne
  obtain ⟨c, others, rfl⟩ := List.exists_cons_of_ne_nil hne
  apply signature?_cons_of_ne
  rintro rfl
  exact h (by simp [hfront])

theorem noneWithin_of_blank (gap rest : List Char) (h : ∀ c ∈ gap, Text.isBlank c = true) :
    NoneWithin gap rest := by
  apply noneWithin_of_not_mem
  intro hmem
  exact absurd (h 's' hmem) (by decide)

theorem noneWithin_struct (rest : List Char) : NoneWithin "struct".toList rest := by
  have hstruct : "struct".toList = 's' :: "truct".toList := by decide
  rw [hstruct, noneWithin_cons_iff]
  exact ⟨rfl, noneWithin_of_not_mem _ rest (by decide)⟩

theorem noneWithin_test_msr (rest : List Char) : NoneWithin "test_msr".toList rest := by
  have htype : "test_msr".toList =
      "te".toList ++ ('s' :: ("t_m".toList ++ ('s' :: "r".toList))) := by decide
  rw [htype]
  apply NoneWithin.append (noneWithin_of_not_mem _ _ (by decide))
  refine (noneWithin_cons_iff _ _ _).mpr ⟨rfl, ?_⟩
  apply NoneWithin.append (noneWithin_of_not_mem _ _ (by decide))
  exact (noneWithin_cons_iff _ _ _).mpr ⟨rfl, noneWithin_of_not_mem _ rest (by decide)⟩

def Quiet (name : List Char) (pieces : List Piece) : Prop :=
  ∀ cs after, SpellsAll name pieces cs → NoneWithin cs after

theorem quiet_nil (name : List Char) : Quiet name [] := by
  rintro cs after rfl
  exact noneWithin_nil after

theorem Quiet.cons {name : List Char} {piece : Piece} {pieces : List Piece}
    (hpieces : Quiet name pieces)
    (hpiece : ∀ front cs after, piece.Spells name front → SpellsAll name pieces cs →
      NoneWithin front (cs ++ after)) : Quiet name (piece :: pieces) := by
  rintro cs after ⟨front, rest, rfl, hfront, hrest⟩
  exact (hpiece front rest after hfront hrest).append (hpieces rest after hrest)

theorem Quiet.literal {name : List Char} {pieces : List Piece} (hpieces : Quiet name pieces)
    (text : String) (htext : ∀ rest, NoneWithin text.toList rest) :
    Quiet name (.literal text :: pieces) := by
  refine hpieces.cons fun front cs after hfront _ => ?_
  obtain rfl : front = text.toList := hfront
  exact htext _

theorem Quiet.blanks {name : List Char} {pieces : List Piece} (hpieces : Quiet name pieces) :
    Quiet name (.blanks :: pieces) :=
  hpieces.cons fun front _ _ hfront _ => noneWithin_of_blank front _ hfront.2

theorem Quiet.optionalBlanks {name : List Char} {pieces : List Piece}
    (hpieces : Quiet name pieces) : Quiet name (.optionalBlanks :: pieces) :=
  hpieces.cons fun front _ _ hfront _ => noneWithin_of_blank front _ hfront

/-- A word with a parenthesis behind it, or behind blanks, begins no declaration: it would have to
be `static`, and then `void` would stand where the parenthesis is. -/
theorem signature?_word_eq_none (word gap rest : List Char) (hne : word ≠ [])
    (hword : Text.IsWord word) (hgap : ∀ c ∈ gap, Text.isBlank c = true) :
    signature? (word ++ (gap ++ '(' :: rest)) = none := by
  by_contra hsome
  obtain ⟨⟨found, beyond⟩, hfound⟩ := Option.ne_none_iff_exists'.mp hsome
  obtain ⟨behind, hstatic, target, hblanks, last, hvoid, -⟩ :=
    (signature?_eq_some_iff_takesAll _ found beyond).mp hfound
  obtain ⟨gap', rfl, ⟨hne', hgap'⟩, hsolid'⟩ := (skipBlanks?_eq_some_iff behind target).mp hblanks
  have hmaximal : Cpuid.IsMaximalWord word (gap ++ '(' :: rest) := by
    refine ⟨hne, hword, ?_⟩
    cases gap with
    | nil =>
      intro c hc
      obtain rfl : '(' = c := by simpa using hc
      decide +kernel
    | cons d others =>
      exact forall_head?_append _ (List.cons_ne_nil d others) fun c hc =>
        Text.isWordChar_of_isBlank c (hgap c hc)
  have hletters : "static".toList.all Text.isWordChar = true := by decide +kernel
  have hmaximal' : Cpuid.IsMaximalWord "static".toList (gap' ++ target) :=
    ⟨by decide, List.all_eq_true.mp hletters, forall_head?_append target hne' fun c hc =>
      Text.isWordChar_of_isBlank c (hgap' c hc)⟩
  -- Both are the word that the characters begin with, so they have the same blanks behind them.
  have hsame : gap ++ '(' :: rest = gap' ++ target := by
    rw [← hmaximal.leadingWord_eq.2, (skip?_eq_some_iff _ _ _).mp hstatic,
      hmaximal'.leadingWord_eq.2]
  have hsolid : StartsSolid ('(' :: rest) := by
    intro c hc
    obtain rfl : '(' = c := by simpa using hc
    decide
  have htarget : '(' :: rest = target := by
    rw [← (skipBlank_eq_iff _ _).mpr ⟨gap, rfl, hgap, hsolid⟩, hsame,
      (skipBlank_eq_iff _ _).mpr ⟨gap', rfl, hgap', hsolid'⟩]
  have hfirst : '(' :: rest = 'v' :: ("oid".toList ++ last) :=
    htarget.trans ((skip?_eq_some_iff _ _ _).mp hvoid)
  exact absurd (List.cons.inj hfirst).1 (by decide)

/-- The end of a name may spell `static`, but there is a parenthesis behind it. -/
theorem Quiet.name {name : List Char} {pieces : List Piece}
    (hpieces : Quiet name (.optionalBlanks :: .literal "(" :: pieces)) :
    Quiet name (.name :: .optionalBlanks :: .literal "(" :: pieces) := by
  refine hpieces.cons fun front cs after hfront hcs => ?_
  obtain ⟨rfl, -, hword⟩ := hfront
  obtain ⟨gap, more, rfl, hgap, parenthesis, tail, rfl, rfl, -⟩ := hcs
  rintro before later rfl hne
  have hlater : Text.IsWord later := fun c hc => hword c (List.mem_append_right before hc)
  rw [List.append_assoc, List.append_assoc]
  exact signature?_word_eq_none later gap (tail ++ after) hne hlater hgap

theorem quiet_declaration_tail (name : List Char) : Quiet name declaration.tail := by
  have hshort : ∀ text : String, 's' ∉ text.toList → ∀ rest, NoneWithin text.toList rest :=
    fun text h rest => noneWithin_of_not_mem text.toList rest h
  have hclose := (quiet_nil name).literal ")" (hshort ")" (by decide))
  have hc := hclose.optionalBlanks.literal "c" (hshort "c" (by decide))
  have hstar := hc.optionalBlanks.literal "*" (hshort "*" (by decide))
  have htype := hstar.optionalBlanks.literal "test_msr" noneWithin_test_msr
  have hstruct := htype.blanks.literal "struct" noneWithin_struct
  have hopen := hstruct.optionalBlanks.literal "(" (hshort "(" (by decide))
  have hvoid := hopen.optionalBlanks.name.blanks.literal "void" (hshort "void" (by decide))
  exact hvoid.blanks

/-- No declaration begins within another. -/
theorem noneWithin_declaration (name after : List Char) (c : Char) (others : List Char)
    (h : SpellsAll name declaration (c :: others)) : NoneWithin others after := by
  obtain ⟨front, rest, hothers, hfront, hrest⟩ := h
  have hstatic : front = 's' :: "tatic".toList := hfront.trans (by decide)
  rw [hstatic, List.cons_append] at hothers
  obtain ⟨-, rfl⟩ := List.cons.inj hothers
  have hquiet := quiet_declaration_tail name rest after hrest
  exact (noneWithin_of_not_mem _ _ (by decide)).append hquiet

/-- What a declaration covers behind its first character begins no other one. -/
theorem signature?_eq_none_of_covered (c : Char) (rest name after : List Char)
    (h : signature? (c :: rest) = some (name, after)) (later : List Char) (hlater : later <:+ rest)
    (hlength : rest.length < later.length + (rest.length - after.length)) :
    signature? later = none := by
  obtain ⟨signature, hcs, hspells⟩ := (signature?_eq_some_iff _ _ _).mp h
  cases signature with
  | nil =>
    obtain ⟨front, tail, hnil, rfl, -⟩ := hspells
    exact absurd (List.append_eq_nil_iff.mp hnil.symm).1 (by decide)
  | cons d others =>
    have hrest : rest = others ++ after := (List.cons.inj hcs).2
    obtain ⟨before, hbefore⟩ := hlater
    rw [hrest, List.length_append] at hlength
    rw [hrest] at hbefore
    rcases List.append_eq_append_iff.mp hbefore with ⟨part, rfl, rfl⟩ | ⟨part, -, rfl⟩
    · refine noneWithin_declaration name after d _ hspells before part rfl ?_
      rintro rfl
      simp only [List.nil_append] at hlength
      omega
    · simp only [List.length_append] at hlength
      omega

/-- The search finds what a declaration at any place names, unless that place is covered. -/
theorem mem_declaredFrom_iff (covered : Nat) (cs : List Char) (name : String)
    (hcovered : ∀ later, later <:+ cs → cs.length < later.length + covered →
      signature? later = none) :
    name ∈ declaredFrom covered cs ↔
      ∃ later after, later <:+ cs ∧ signature? later = some (name.toList, after) := by
  induction cs generalizing covered with
  | nil =>
    have hnone : signature? [] = none := rfl
    simp [declaredFrom, hnone]
  | cons c rest ih =>
    have hplace : (∃ later after, later <:+ c :: rest ∧
          signature? later = some (name.toList, after)) ↔
        (∃ after, signature? (c :: rest) = some (name.toList, after)) ∨
        ∃ later after, later <:+ rest ∧ signature? later = some (name.toList, after) := by
      simp only [List.suffix_cons_iff, or_and_right, exists_or]
      refine or_congr_left ⟨?_, fun ⟨after, hafter⟩ => ⟨_, after, rfl, hafter⟩⟩
      rintro ⟨later, after, rfl, hafter⟩
      exact ⟨after, hafter⟩
    cases covered with
    | succ n =>
      have hnone : signature? (c :: rest) = none :=
        hcovered _ List.suffix_rfl (by omega)
      rw [hplace, declaredFrom, hnone]
      simp only [reduceCtorEq, exists_false, false_or]
      refine ih n fun later hlater hlength => hcovered later ?_ ?_
      · exact hlater.trans (List.suffix_cons c rest)
      · simp only [List.length_cons]
        omega
    | zero =>
      rw [hplace, declaredFrom]
      cases hfound : signature? (c :: rest) with
      | none =>
        simp only [reduceCtorEq, exists_false, false_or]
        exact ih 0 fun later hlater hlength => absurd hlater.length_le (by omega)
      | some found =>
        obtain ⟨found, after⟩ := found
        simp only [List.mem_cons]
        refine or_congr ?_ (ih _ (signature?_eq_none_of_covered c rest found after hfound))
        simp [String.ext_iff, eq_comm]

/-- A header declares the hooks that a declaration anywhere in its text names. -/
theorem contains_ofSource_iff (source name : String) :
    (Hooks.ofSource source).contains name = true ↔
      ∃ before signature after, source.toList = before ++ (signature ++ after) ∧
        SpellsAll name.toList declaration signature := by
  have hmem : (Hooks.ofSource source).contains name = true ↔
      name ∈ declaredFrom 0 source.toList := by
    rw [Hooks.contains, List.contains_iff_mem, Hooks.ofSource, Hooks.ofNames,
      Dictionary.mem_keys_ofList_iff, List.map_map]
    simp
  rw [hmem, mem_declaredFrom_iff 0 _ name fun later hlater hlength =>
    absurd hlater.length_le (by omega)]
  simp only [signature?_eq_some_iff]
  constructor
  · rintro ⟨-, after, ⟨before, hbefore⟩, signature, rfl, hspells⟩
    exact ⟨before, signature, after, hbefore.symm, hspells⟩
  · rintro ⟨before, signature, after, hsource, hspells⟩
    exact ⟨signature ++ after, after, ⟨before, hsource.symm⟩, signature, rfl, hspells⟩

/-- The hooks of a header are just those that its declarations name, wherever these stand. So a text
put together from two declares at least what each of them declares. -/
theorem declared_hooks_exact :
    (∀ source name : String, (Hooks.ofSource source).contains name = true ↔
      ∃ before signature after, source.toList = before ++ (signature ++ after) ∧
        SpellsAll name.toList declaration signature) ∧
    ∀ first second name : String,
      ((Hooks.ofSource first).contains name = true ∨
        (Hooks.ofSource second).contains name = true) →
      (Hooks.ofSource (first ++ second)).contains name = true := by
  refine ⟨contains_ofSource_iff, fun first second name h => ?_⟩
  simp only [contains_ofSource_iff, String.toList_append] at h ⊢
  rcases h with ⟨before, signature, after, htext, hspells⟩ |
    ⟨before, signature, after, htext, hspells⟩
  · exact ⟨before, signature, after ++ second.toList, by simp [htext], hspells⟩
  · exact ⟨first.toList ++ before, signature, after, by simp [htext], hspells⟩

/-- A declaration behind the beginning of one that goes wrong at its name. -/
def brokenStart : String :=
  "static void static\u3000void\n\tpre_é ( struct test_msr*c )"

theorem declared_hooks_exact_broken_start :
    (Hooks.ofSource brokenStart).contains "pre_é" = true ∧
      (∃ before signature after, brokenStart.toList = before ++ (signature ++ after) ∧
        SpellsAll "pre_é".toList declaration signature) ∧
      (Hooks.ofSource (brokenStart ++ "{}")).contains "pre_é" = true := by
  have hdeclared : (Hooks.ofSource brokenStart).contains "pre_é" = true := by decide +kernel
  exact ⟨hdeclared, (declared_hooks_exact.1 _ _).mp hdeclared,
    declared_hooks_exact.2 _ _ _ (.inl hdeclared)⟩

end GuestCases.Msr
