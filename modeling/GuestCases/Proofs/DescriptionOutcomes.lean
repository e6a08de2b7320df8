import GuestCases.Proofs.BalancedConditions
import GuestCases.Proofs.DescriptionForms

/-!
What a description comes to. At most one form begins it, so the forms may be tried in any order.
It traps on a condition exactly when it begins with a contingent form, its parentheses hold a
condition, and the hook which that condition stands for is declared. When only the last fails, the
description names an unknown hook; as long as the map leads to declared hooks alone, that is the
condition itself.
-/

namespace GuestCases

namespace Text

theorem utf8Size_toLower (c : Char) : c.toLower.utf8Size = c.utf8Size := by
  have hone : ∀ d : Char, d.val.toNat ≤ 127 → d.utf8Size = 1 := fun d hd =>
    if_pos (UInt32.le_iff_toNat_le.mpr hd)
  unfold Char.toLower
  split
  · rename_i h
    have hupper : c.val.toNat ≤ 90 := UInt32.le_iff_toNat_le.mp h.2
    have hstep : ('a'.val - 'A'.val).toNat = 32 := rfl
    rw [hone c (by omega), hone]
    rw [UInt32.toNat_add, hstep]
    omega
  · rfl

/-- Letters of either case take the same number of bytes. -/
theorem utf8ByteSize_lower (s : String) : (lower s).utf8ByteSize = s.utf8ByteSize := by
  have hchars : ∀ cs : List Char,
      (String.ofList (lowerChars cs)).utf8ByteSize = (String.ofList cs).utf8ByteSize := by
    intro cs
    induction cs with
    | nil => rfl
    | cons c rest ih =>
      rw [lowerChars, List.map_cons, ← lowerChars]
      simp [utf8Size_toLower, ih]
  rw [lower, hchars, String.ofList_toList]

end Text

namespace Msr

/-- The text begins with as many bytes as the mark has, cut off between characters, and they are
those of the mark up to the case of ASCII letters. -/
def BeginsLike (mark text : String) : Prop :=
  ∃ front, IsSlice text 0 mark.utf8ByteSize front ∧ Text.lower front = Text.lower mark

def contingentMark : Trap → String
  | .gp => "Inject_GP("
  | .ve => "Inject_GP_or_VE"

def formIn? (order : List (String × Form)) (text : String) : Option Form :=
  (order.find? fun form => Text.beginsWith form.1.toList text.toList).map Prod.snd

def Resolver.classifyIn (resolver : Resolver) (order : List (String × Form))
    (description : String) : Except Unresolved Outcome :=
  let text := Text.trim description
  if text.isEmpty then .error .empty
  else
    match formIn? order text with
    | some .native => .ok .native
    | some (.always trap) => .ok (.traps trap)
    | some (.contingent trap) => resolver.contingent text trap
    | none => .error (.unrecognized text)

theorem beginsWith_iff_beginsLike (mark text : String) :
    Text.beginsWith mark.toList text.toList = true ↔ BeginsLike mark text := by
  rw [beginsWith_iff_isPrefix]
  constructor
  · intro h
    obtain ⟨front, ⟨rest, hrest⟩, hfront⟩ := List.prefix_map_iff.mp h
    have hlower : Text.lower (String.ofList front) = Text.lower mark := by
      rw [Text.lower, Text.lower, String.toList_ofList, hfront, Text.lowerChars]
    have hsize : (String.ofList front).utf8ByteSize = mark.utf8ByteSize := by
      rw [← Text.utf8ByteSize_lower, hlower, Text.utf8ByteSize_lower]
    have hslice := isSlice_of_toList_eq text [] front rest (by rw [← hrest, List.nil_append])
    rw [hsize, String.ofList_nil, String.utf8ByteSize_empty, Nat.zero_add] at hslice
    exact ⟨_, hslice, hlower⟩
  · rintro ⟨front, ⟨before, after, htext, hbefore, -⟩, hlower⟩
    have hempty : before = "" := String.utf8ByteSize_eq_zero_iff.mp hbefore.symm
    have hchars : Text.lowerChars front.toList = Text.lowerChars mark.toList :=
      String.ofList_injective hlower
    rw [htext, hempty, String.empty_append, String.toList_append, Text.lowerChars, Text.lowerChars,
      List.map_append, ← Text.lowerChars, ← Text.lowerChars, hchars]
    exact List.prefix_append _ _

/-- An order of the list finds the same when no two of its members are looked for. -/
theorem find?_eq_of_perm {α : Type} (p : α → Bool) (order list : List α)
    (hperm : order.Perm list)
    (hunique : ∀ first ∈ list, ∀ second ∈ list, p first = true → p second = true → first = second) :
    order.find? p = list.find? p := by
  cases hfound : list.find? p with
  | none =>
    rw [List.find?_eq_none] at hfound ⊢
    exact fun a ha => hfound a (hperm.mem_iff.mp ha)
  | some a =>
    have ha := List.mem_of_find?_eq_some hfound
    obtain ⟨b, hb⟩ : ∃ b, order.find? p = some b := by
      apply Option.isSome_iff_exists.mp
      exact List.find?_isSome.mpr ⟨a, hperm.mem_iff.mpr ha, List.find?_some hfound⟩
    rw [hb, hunique b (hperm.mem_iff.mp (List.mem_of_find?_eq_some hb)) a ha
      (List.find?_some hb) (List.find?_some hfound)]

theorem classifyIn_eq_classify (resolver : Resolver) (order : List (String × Form))
    (hperm : order.Perm forms) (description : String) :
    resolver.classifyIn order description = resolver.classify description := by
  have hform : formIn? order (Text.trim description) = formOf? (Text.trim description) :=
    congrArg (Option.map Prod.snd) (find?_eq_of_perm _ order forms hperm
      fun first hfirst second hsecond => forms_exclusive _ first second hfirst hsecond)
  cases hfound : formOf? (Text.trim description) with
  | none => simp only [Resolver.classifyIn, Resolver.classify, hform, hfound]
  | some form => cases form <;> simp only [Resolver.classifyIn, Resolver.classify, hform, hfound]

theorem formOf?_eq_contingent_iff (text : String) (trap : Trap) :
    formOf? text = some (.contingent trap) ↔ BeginsLike (contingentMark trap) text := by
  have hmark : ∀ mark, (mark, Form.contingent trap) ∈ forms ↔ mark = contingentMark trap := by
    intro mark
    cases trap <;> simp [forms, contingentMark]
  rw [formOf?_eq_some_iff]
  simp only [hmark, exists_eq_left, beginsWith_iff_beginsLike]

/-- Results that rest on the condition of a description. -/
inductive RestsOnCondition : Except Unresolved Outcome → Prop where
  | trapsIf (trap : Trap) (hook : String) : RestsOnCondition (.ok (.trapsIf trap hook))
  | unbalanced (text : String) : RestsOnCondition (.error (.unbalanced text))
  | unknownHook (text hook : String) : RestsOnCondition (.error (.unknownHook text hook))

/-- Such a result comes from a contingent form alone. -/
theorem classify_eq_iff_of_restsOnCondition (resolver : Resolver) (description : String)
    (result : Except Unresolved Outcome) (h : RestsOnCondition result) :
    resolver.classify description = result ↔
      ∃ trap, BeginsLike (contingentMark trap) (Text.trim description) ∧
        resolver.contingent (Text.trim description) trap = result := by
  simp only [← formOf?_eq_contingent_iff]
  constructor
  · intro hresult
    simp only [Resolver.classify] at hresult
    split at hresult
    · subst hresult
      cases h
    · split at hresult
      · subst hresult
        cases h
      · subst hresult
        cases h
      · rename_i trap hform
        exact ⟨trap, hform, hresult⟩
      · subst hresult
        cases h
  · rintro ⟨trap, hform, hresult⟩
    rw [classify_of_contingent resolver description trap hform, hresult]

/-- What a contingent form comes to when the condition is told apart from its hook. -/
theorem contingent_cases (resolver : Resolver) (description : String) (kind : Trap) :
    balanced? (Text.trim description) = none ∧ resolver.contingent (Text.trim description) kind =
        .error (.unbalanced (Text.trim description)) ∨
    ∃ hook, StandsFor resolver description hook ∧
      resolver.contingent (Text.trim description) kind =
        if resolver.hooks.contains hook then .ok (.trapsIf kind hook)
        else .error (.unknownHook (Text.trim description) hook) := by
  cases hbalanced : balanced? (Text.trim description) with
  | none => exact .inl ⟨rfl, by rw [Resolver.contingent, hbalanced]⟩
  | some condition =>
    have hstands : StandsFor resolver description (resolver.hookOf condition) :=
      (standsFor_iff resolver description _).mpr ⟨condition, hbalanced, rfl⟩
    exact .inr ⟨_, hstands, contingent_of_standsFor resolver description _ kind hstands⟩

theorem contingent_eq_ok_iff (resolver : Resolver) (description hook : String) (kind trap : Trap) :
    resolver.contingent (Text.trim description) kind = .ok (.trapsIf trap hook) ↔
      kind = trap ∧ StandsFor resolver description hook ∧ resolver.hooks.contains hook = true := by
  constructor
  · intro h
    rcases contingent_cases resolver description kind with ⟨-, hresult⟩ | ⟨found, hstands, hresult⟩
    · rw [hresult] at h
      cases h
    · rw [hresult] at h
      split at h
      · rename_i hdeclared
        cases h
        exact ⟨rfl, hstands, hdeclared⟩
      · cases h
  · rintro ⟨rfl, hstands, hdeclared⟩
    rw [contingent_of_standsFor resolver description hook kind hstands, if_pos hdeclared]

theorem contingent_eq_unbalanced_iff (resolver : Resolver) (description stated : String)
    (kind : Trap) :
    resolver.contingent (Text.trim description) kind = .error (.unbalanced stated) ↔
      stated = Text.trim description ∧ balanced? (Text.trim description) = none := by
  constructor
  · intro h
    rcases contingent_cases resolver description kind with
      ⟨hnone, hresult⟩ | ⟨found, -, hresult⟩
    · rw [hresult] at h
      cases h
      exact ⟨rfl, hnone⟩
    · rw [hresult] at h
      split at h <;> cases h
  · rintro ⟨rfl, hnone⟩
    rw [Resolver.contingent, hnone]

theorem contingent_eq_unknownHook_iff (resolver : Resolver) (description stated hook : String)
    (kind : Trap) :
    resolver.contingent (Text.trim description) kind = .error (.unknownHook stated hook) ↔
      stated = Text.trim description ∧ StandsFor resolver description hook ∧
        resolver.hooks.contains hook = false := by
  constructor
  · intro h
    rcases contingent_cases resolver description kind with ⟨-, hresult⟩ | ⟨found, hstands, hresult⟩
    · rw [hresult] at h
      cases h
    · rw [hresult] at h
      split at h
      · cases h
      · rename_i hunknown
        cases h
        exact ⟨rfl, hstands, Bool.eq_false_iff.mpr hunknown⟩
  · rintro ⟨rfl, hstands, hunknown⟩
    rw [contingent_of_standsFor resolver description hook kind hstands, hunknown, if_neg (by simp)]

/-- Without dangling conditions the map leads to declared hooks alone. -/
theorem contains_of_find? (resolver : Resolver) (h : resolver.dangling = [])
    (condition hook : String) (hfind : resolver.conditions.find? condition = some hook) :
    resolver.hooks.contains hook = true := by
  obtain ⟨before, after, hpairs, -⟩ := List.lookup_eq_some_iff.mp hfind
  have hmem : (condition, hook) ∈ resolver.conditions.pairs := by simp [hpairs]
  simpa using List.filter_eq_nil_iff.mp h _ hmem

/-- No order of the forms changes what a description comes to. It traps on a hook, is unbalanced or
names an unknown hook exactly as its contingent form, its condition and the declared hooks say. If
no condition is dangling, an unknown hook is a condition that the map does not have. -/
theorem classification_exact (resolver : Resolver) (description : String) :
    let text := Text.trim description
    let result := resolver.classify description
    (∀ first ∈ forms, ∀ second ∈ forms, BeginsLike first.1 text → BeginsLike second.1 text →
      first = second) ∧
    (∀ order : List (String × Form), order.Perm forms →
      resolver.classifyIn order description = result) ∧
    (∀ trap hook, result = .ok (.trapsIf trap hook) ↔
      BeginsLike (contingentMark trap) text ∧ StandsFor resolver description hook ∧
        resolver.hooks.contains hook = true) ∧
    (∀ stated, result = .error (.unbalanced stated) ↔
      stated = text ∧ (∃ trap, BeginsLike (contingentMark trap) text) ∧ balanced? text = none) ∧
    (∀ stated hook, result = .error (.unknownHook stated hook) ↔
      stated = text ∧ (∃ trap, BeginsLike (contingentMark trap) text) ∧
        StandsFor resolver description hook ∧ resolver.hooks.contains hook = false) ∧
    (resolver.dangling = [] → ∀ stated hook, result = .error (.unknownHook stated hook) →
      balanced? text = some hook ∧ resolver.conditions.find? hook = none) := by
  intro text result
  have hunknown : ∀ stated hook, result = .error (.unknownHook stated hook) ↔
      stated = text ∧ (∃ trap, BeginsLike (contingentMark trap) text) ∧
        StandsFor resolver description hook ∧ resolver.hooks.contains hook = false := by
    intro stated hook
    rw [classify_eq_iff_of_restsOnCondition resolver description _ (.unknownHook stated hook)]
    simp only [contingent_eq_unknownHook_iff, exists_and_right]
    exact and_left_comm
  refine ⟨?_, fun order hperm => classifyIn_eq_classify resolver order hperm description, ?_, ?_,
    hunknown, ?_⟩
  · intro first hfirst second hsecond hbegins hbegins'
    exact forms_exclusive text.toList first second hfirst hsecond
      ((beginsWith_iff_beginsLike _ _).mpr hbegins) ((beginsWith_iff_beginsLike _ _).mpr hbegins')
  · intro trap hook
    rw [classify_eq_iff_of_restsOnCondition resolver description _ (.trapsIf trap hook)]
    simp only [contingent_eq_ok_iff]
    constructor
    · rintro ⟨kind, hbegins, rfl, hrest⟩
      exact ⟨hbegins, hrest⟩
    · rintro ⟨hbegins, hrest⟩
      exact ⟨trap, hbegins, rfl, hrest⟩
  · intro stated
    rw [classify_eq_iff_of_restsOnCondition resolver description _ (.unbalanced stated)]
    simp only [contingent_eq_unbalanced_iff, exists_and_right]
    exact and_left_comm
  · intro hdangling stated hook hresult
    obtain ⟨-, -, ⟨condition, hbalanced, hmapped | ⟨hunmapped, rfl⟩⟩, hundeclared⟩ :=
      (hunknown stated hook).mp hresult
    · rw [contains_of_find? resolver hdangling condition hook hmapped] at hundeclared
      cases hundeclared
    · exact ⟨hbalanced, hunmapped⟩

def pksResolver : Resolver :=
  ⟨.ofList [("CPUID(0x7,0x0).ecx[31]", "pre_pks")], .ofNames ["pre_pks"]⟩

theorem classification_exact_unmapped :
    let description := "\u3000inject_GP_or_ve(f(é)) "
    forms.reverse.Perm forms ∧ pksResolver.dangling = [] ∧
      pksResolver.classifyIn forms.reverse description =
        .error (.unknownHook "inject_GP_or_ve(f(é))" "f(é)") ∧
      balanced? "inject_GP_or_ve(f(é))" = some "f(é)" ∧
      pksResolver.conditions.find? "f(é)" = none := by
  intro description
  have hdangling : pksResolver.dangling = [] := by decide
  have htext : Text.trim description = "inject_GP_or_ve(f(é))" := by decide
  have hresult : pksResolver.classify description =
      .error (.unknownHook "inject_GP_or_ve(f(é))" "f(é)") := by decide
  obtain ⟨-, horder, -, -, -, hunmapped⟩ := classification_exact pksResolver description
  have hhook := hunmapped hdangling _ _ hresult
  rw [htext] at hhook
  exact ⟨List.reverse_perm forms, hdangling, (horder _ (List.reverse_perm forms)).trans hresult,
    hhook⟩

end Msr

end GuestCases
