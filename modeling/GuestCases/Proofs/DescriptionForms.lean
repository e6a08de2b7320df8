import GuestCases.Msr.Description

/-!
The forms of descriptions. No two of them begin alike, so a description has at most one, whatever
the order in which they are tried. A description that traps on a condition has an outcome exactly
when the condition is balanced and its hook is declared.
-/

namespace GuestCases.Msr

theorem beginsWith_iff_isPrefix (head text : List Char) :
    Text.beginsWith head text = true ↔ Text.lowerChars head <+: Text.lowerChars text :=
  List.isPrefixOf_iff_prefix

/-- No form begins as another does. -/
theorem eq_of_mem_forms : ∀ first ∈ forms, ∀ second ∈ forms,
    Text.lowerChars first.1.toList <+: Text.lowerChars second.1.toList → first = second := by
  decide

theorem forms_exclusive (text : List Char) (first second : String × Form)
    (hfirst : first ∈ forms) (hsecond : second ∈ forms)
    (h : Text.beginsWith first.1.toList text = true)
    (h' : Text.beginsWith second.1.toList text = true) : first = second := by
  rcases List.prefix_or_prefix_of_prefix ((beginsWith_iff_isPrefix _ _).mp h)
    ((beginsWith_iff_isPrefix _ _).mp h') with hprefix | hprefix
  · exact eq_of_mem_forms first hfirst second hsecond hprefix
  · exact (eq_of_mem_forms second hsecond first hfirst hprefix).symm

/-- A text has the form that it begins with, which no order of the forms decides. -/
theorem formOf?_eq_some_iff (text : String) (form : Form) :
    formOf? text = some form ↔
      ∃ mark, (mark, form) ∈ forms ∧ Text.beginsWith mark.toList text.toList = true := by
  unfold formOf?
  constructor
  · intro h
    obtain ⟨⟨mark, found⟩, hfound, rfl⟩ := Option.map_eq_some_iff.mp h
    have hbegins : Text.beginsWith mark.toList text.toList = true := by
      simpa using List.find?_some hfound
    exact ⟨mark, List.mem_of_find?_eq_some hfound, hbegins⟩
  · rintro ⟨mark, hmark, hbegins⟩
    have hsome : (forms.find? fun form => Text.beginsWith form.1.toList text.toList).isSome := by
      rw [List.find?_isSome]
      exact ⟨(mark, form), hmark, hbegins⟩
    obtain ⟨found, hfound⟩ := Option.isSome_iff_exists.mp hsome
    have hfoundBegins : Text.beginsWith found.1.toList text.toList = true := by
      simpa using List.find?_some hfound
    have hsame : found = (mark, form) :=
      forms_exclusive text.toList found (mark, form) (List.mem_of_find?_eq_some hfound) hmark
        hfoundBegins hbegins
    rw [hfound, hsame, Option.map_some]

theorem classify_of_contingent (resolver : Resolver) (description : String) (trap : Trap)
    (h : formOf? (Text.trim description) = some (.contingent trap)) :
    resolver.classify description = resolver.contingent (Text.trim description) trap := by
  have hnonempty : (Text.trim description).isEmpty = false := by
    apply Bool.eq_false_iff.mpr
    intro hempty
    have hnone : formOf? "" = none := by decide
    rw [String.isEmpty_iff.mp hempty, hnone] at h
    cases h
  simp [Resolver.classify, hnonempty, h]

/-- The condition of a description stands for the hook: the map says so, or the condition is not in
the map and is the hook itself. -/
def StandsFor (resolver : Resolver) (description hook : String) : Prop :=
  ∃ condition, balanced? (Text.trim description) = some condition ∧
    (resolver.conditions.find? condition = some hook ∨
      resolver.conditions.find? condition = none ∧ condition = hook)

theorem standsFor_iff (resolver : Resolver) (description hook : String) :
    StandsFor resolver description hook ↔
      ∃ condition, balanced? (Text.trim description) = some condition ∧
        resolver.hookOf condition = hook := by
  unfold StandsFor Resolver.hookOf
  refine exists_congr fun condition => and_congr_right fun _ => ?_
  cases resolver.conditions.find? condition <;> simp

theorem contingent_of_standsFor (resolver : Resolver) (description hook : String) (trap : Trap)
    (h : StandsFor resolver description hook) :
    resolver.contingent (Text.trim description) trap =
      if resolver.hooks.contains hook then .ok (.trapsIf trap hook)
      else .error (.unknownHook (Text.trim description) hook) := by
  obtain ⟨condition, hbalanced, hhook⟩ := (standsFor_iff resolver description hook).mp h
  simp [Resolver.contingent, hbalanced, hhook]

theorem contains_of_contingent (resolver : Resolver) (text hook : String) (kind trap : Trap)
    (h : resolver.contingent text kind = .ok (.trapsIf trap hook)) :
    resolver.hooks.contains hook = true := by
  unfold Resolver.contingent at h
  cases hbalanced : balanced? text with
  | none => simp [hbalanced] at h
  | some condition =>
    by_cases hdeclared : resolver.hooks.contains (resolver.hookOf condition) = true
    · simp only [hbalanced, hdeclared, if_true, Except.ok.injEq, Outcome.trapsIf.injEq] at h
      exact h.2 ▸ hdeclared
    · simp [hbalanced, hdeclared] at h

/-- An outcome that depends on a hook depends on a declared one. -/
theorem contains_of_classify (resolver : Resolver) (description hook : String) (trap : Trap)
    (h : resolver.classify description = .ok (.trapsIf trap hook)) :
    resolver.hooks.contains hook = true := by
  simp only [Resolver.classify] at h
  split at h
  · cases h
  · split at h
    · cases h
    · cases h
    · exact contains_of_contingent resolver _ hook _ trap h
    · cases h

end GuestCases.Msr
