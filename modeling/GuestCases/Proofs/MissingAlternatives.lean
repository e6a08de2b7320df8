import GuestCases.Proofs.AlternativeText

/-!
What merging adds to a text. The alternatives that the text lacks are put behind it, each once and
in order, and are found there again as long as no text that gets a separator is open. Then nothing
of the text is lost, and merging a second time changes nothing. Behind an open text a new
alternative is never found again as one more.
-/

namespace GuestCases.Alternatives

-- Named here, so that no definition below holds this proof as a part of its own.
local instance lawfulBEq_chars : LawfulBEq (List Char) :=
  inferInstance

def missing (present incoming : List (List Char)) : List (List Char) :=
  (incoming.filter (· ∉ present)).eraseDups

/-- No text is open that gets one of the alternatives behind it: neither the characters nor, but for
the last, one of the alternatives that they lack. -/
def Separable (cs : List Char) (incoming : List (List Char)) : Prop :=
  ∀ text ∈ (cs :: missing (alternatives cs) incoming).dropLast, ¬Open text

instance (cs : List Char) (incoming : List (List Char)) : Decidable (Separable cs incoming) :=
  inferInstanceAs (Decidable (∀ text ∈ (cs :: missing (alternatives cs) incoming).dropLast, _))

theorem missing_cons_of_mem (present rest : List (List Char)) (piece : List Char)
    (h : piece ∈ present) : missing present (piece :: rest) = missing present rest := by
  rw [missing, List.filter_cons_of_neg (by simpa using h), missing]

theorem missing_cons_of_not_mem (present rest : List (List Char)) (piece : List Char)
    (h : piece ∉ present) :
    missing present (piece :: rest) = piece :: missing (present ++ [piece]) rest := by
  rw [missing, List.filter_cons_of_pos (by simpa using h), List.eraseDups_cons,
    List.filter_filter, missing]
  have hsame : ∀ other, (!other == piece && decide (other ∉ present)) =
      decide (other ∉ present ++ [piece]) := by
    intro other
    by_cases hother : other = piece <;> simp [hother]
  simp only [hsame]

theorem mem_missing_iff (present incoming : List (List Char)) (piece : List Char) :
    piece ∈ missing present incoming ↔ piece ∈ incoming ∧ piece ∉ present := by
  simp [missing]

theorem alternatives_eq_of_parts_eq (cs : List Char) (before after : List (List Char))
    (h : parts cs = before ++ after) : alternatives cs =
      (before.map Text.trimChars).filter (!·.isEmpty) ++
        (after.map Text.trimChars).filter (!·.isEmpty) := by
  simp [alternatives, pieces, h]

theorem count_parts (cs : List Char) :
    cs.count '|' + 1 = (parts cs).flatten.count '|' + (parts cs).length := by
  induction cs using reading_induction with
  | nil => rfl
  | separator rest ih =>
    rw [parts_separator, List.count_append, List.flatten_cons, List.nil_append, List.length_cons]
    have hbar : separator.count '|' = 1 := rfl
    omega
  | cons c rest hstart ih =>
    obtain ⟨first, others, hrest⟩ := exists_first_part rest
    rw [hrest] at ih
    rw [parts_cons c rest hstart, hrest, List.modifyHead_cons]
    simp only [List.count_cons, List.flatten_cons, List.count_append, List.length_cons] at ih ⊢
    omega

/-- Every bar is one of a separator or one of an alternative. -/
theorem count_alternatives (cs : List Char) :
    cs.count '|' + 1 = (alternatives cs).flatten.count '|' + (parts cs).length := by
  have htrimmed : List.count '|' ∘ Text.trimChars = List.count '|' :=
    funext (Text.count_trimChars '|' (by decide))
  rw [alternatives, pieces, List.flatten_filter_not_isEmpty, List.count_flatten, List.map_map,
    htrimmed, ← List.count_flatten, count_parts]

theorem length_alternatives_le (cs : List Char) :
    (alternatives cs).length ≤ (parts cs).length := by
  have hpieces : (pieces cs).length = (parts cs).length := List.length_map _
  exact hpieces ▸ List.length_filter_le _ _

/-- Behind open characters a new alternative takes over the bar at their end. -/
theorem alternatives_append_of_open (cs piece : List Char) (h : Open cs) :
    alternatives (cs ++ separator ++ piece) ≠ alternatives cs ++ [piece] := by
  obtain ⟨front, rfl, hclosed⟩ := exists_of_open cs h
  obtain ⟨before, last, hfront⟩ := exists_last_part front
  have hlast := fun hends => hclosed ((open_iff_of_parts_eq front last before hfront).mpr hends)
  have hcs : parts (front ++ [' ', '|']) = before ++ [last ++ [' ', '|']] :=
    parts_append_space front ['|'] last before hfront hlast
  have hlonger : parts (front ++ [' ', '|'] ++ separator ++ piece) =
      before ++ (last :: parts ('|' :: ' ' :: piece)) := by
    have hdivided := parts_append_separator front ('|' :: ' ' :: piece) hclosed
    simpa [separator, hfront] using hdivided
  have hbars := Text.count_trimChars '|' (by decide) last
  have hmore := Text.count_trimChars '|' (by decide) (last ++ [' ', '|'])
  rw [List.count_append, show List.count '|' [' ', '|'] = 1 from rfl] at hmore
  have hkept : Text.trimChars (last ++ [' ', '|']) ≠ [] := fun hnil => by simp [hnil] at hmore
  intro heq
  rw [alternatives_eq_of_parts_eq _ _ _ hcs, alternatives_eq_of_parts_eq _ _ _ hlonger,
    List.append_assoc, List.append_cancel_left_eq] at heq
  by_cases hblank : Text.trimChars last = []
  · -- The second alternative needs a separator, and there is no bar left for it.
    have htwo : alternatives ('|' :: ' ' :: piece) =
        [Text.trimChars (last ++ [' ', '|']), piece] := by
      simpa [hblank, hkept, alternatives, pieces] using heq
    have hcount := count_alternatives ('|' :: ' ' :: piece)
    have hlength := length_alternatives_le ('|' :: ' ' :: piece)
    have hchars : ('|' :: ' ' :: piece).count '|' = piece.count '|' + 1 := by simp
    have hfound : (alternatives ('|' :: ' ' :: piece)).flatten.count '|' =
        1 + piece.count '|' := by
      simp [htwo, hmore, ← hbars, hblank]
    rw [htwo, List.length_cons, List.length_singleton] at hlength
    omega
  · have hfirst : Text.trimChars last = Text.trimChars (last ++ [' ', '|']) := by
      simpa [hblank, hkept] using congrArg List.head? heq
    rw [← hfirst, hbars] at hmore
    omega

/-- A new alternative is found again as one more exactly when the characters are not open. -/
theorem alternatives_add_iff (cs piece : List Char) (hpiece : IsPiece piece)
    (h : piece ∉ alternatives cs) :
    alternatives (add cs piece) = alternatives cs ++ [piece] ↔ ¬Open cs := by
  constructor
  · intro heq hopen
    have hcs : cs ≠ [] := by
      rintro rfl
      exact absurd hopen (by decide)
    rw [add_of_not_mem cs piece hcs hpiece h] at heq
    exact alternatives_append_of_open cs piece hopen heq
  · exact alternatives_add cs piece hpiece h

/-- Where a new alternative is found again, it is also what the characters end with. -/
theorem open_add_iff (cs piece : List Char) (hpiece : IsPiece piece)
    (h : piece ∉ alternatives cs) (hclosed : ¬Open cs) : Open (add cs piece) ↔ Open piece := by
  by_cases hcs : cs = []
  · simp [hcs, add]
  · have hparts : parts (cs ++ separator ++ piece) = parts cs ++ [piece] := by
      rw [parts_append_separator cs piece hclosed, hpiece.whole]
    rw [add_of_not_mem cs piece hcs hpiece h, open_iff_of_parts_eq _ _ _ hparts,
      open_iff_of_parts_eq piece piece [] hpiece.whole]

/-- Once the first missing alternative is behind the characters, the others can be put behind it. -/
theorem Separable.add (cs piece : List Char) (rest : List (List Char)) (hpiece : IsPiece piece)
    (hmem : piece ∉ alternatives cs) (h : Separable cs (piece :: rest)) :
    ¬Open cs ∧ Separable (add cs piece) rest := by
  unfold Separable at h
  rw [missing_cons_of_not_mem _ rest piece hmem, List.dropLast_cons_cons,
    List.forall_mem_cons] at h
  obtain ⟨hcs, hothers⟩ := h
  refine ⟨hcs, ?_⟩
  unfold Separable
  rw [alternatives_add cs piece hpiece hmem hcs]
  cases hlater : missing (alternatives cs ++ [piece]) rest with
  | nil => simp
  | cons other more =>
    rw [hlater, List.dropLast_cons_cons, List.forall_mem_cons] at hothers
    rw [List.dropLast_cons_cons, List.forall_mem_cons, open_add_iff cs piece hpiece hmem hcs]
    exact hothers

/-- Adding alternatives puts the missing ones behind the present ones. -/
theorem alternatives_foldl_add (incoming : List (List Char)) (cs : List Char)
    (hpieces : ∀ piece ∈ incoming, IsPiece piece) (h : Separable cs incoming) :
    alternatives (incoming.foldl add cs) =
      alternatives cs ++ missing (alternatives cs) incoming := by
  induction incoming generalizing cs with
  | nil => simp [missing]
  | cons piece rest ih =>
    obtain ⟨hpiece, hrest⟩ := List.forall_mem_cons.mp hpieces
    rw [List.foldl_cons]
    by_cases hmem : piece ∈ alternatives cs
    · have hcs : Separable cs rest := by
        unfold Separable at h ⊢
        rwa [missing_cons_of_mem _ rest piece hmem] at h
      rw [add_eq_self cs piece hmem, ih cs hrest hcs, missing_cons_of_mem _ rest piece hmem]
    · obtain ⟨hcs, hnext⟩ := h.add cs piece rest hpiece hmem
      rw [ih (add cs piece) hrest hnext, alternatives_add cs piece hpiece hmem hcs,
        missing_cons_of_not_mem _ rest piece hmem, List.append_assoc, List.singleton_append]

/-- Merging texts that can be separated loses no alternative of either, and merging a second time
changes nothing. A single alternative that the existing text lacks is found again behind the others
exactly when that text is not open. -/
theorem merge_appends_missing (existing incoming : String) :
    (Separable existing.toList (alternatives incoming.toList) →
      alternatives (merge existing incoming).toList = alternatives existing.toList ++
        missing (alternatives existing.toList) (alternatives incoming.toList) ∧
      (∀ value ∈ alternatives existing.toList ++ alternatives incoming.toList,
        value ∈ alternatives (merge existing incoming).toList) ∧
      merge (merge existing incoming) incoming = merge existing incoming) ∧
    ∀ piece, alternatives incoming.toList = [piece] → piece ∉ alternatives existing.toList →
      (alternatives (merge existing incoming).toList = alternatives existing.toList ++ [piece] ↔
        ¬Open existing.toList) := by
  have hpieces := isPiece_of_mem incoming.toList
  constructor
  · intro hclosed
    have hmerged : alternatives (merge existing incoming).toList = alternatives existing.toList ++
        missing (alternatives existing.toList) (alternatives incoming.toList) := by
      rw [merge, String.toList_ofList]
      exact alternatives_foldl_add _ _ hpieces hclosed
    have hall : ∀ value ∈ alternatives existing.toList ++ alternatives incoming.toList,
        value ∈ alternatives (merge existing incoming).toList := by
      intro value hvalue
      rw [hmerged, List.mem_append, mem_missing_iff]
      by_cases hold : value ∈ alternatives existing.toList
      · exact .inl hold
      · exact .inr ⟨(List.mem_append.mp hvalue).resolve_left hold, hold⟩
    refine ⟨hmerged, hall, merge_eq_self _ _ fun value hvalue => ?_⟩
    exact hall value (List.mem_append_right _ hvalue)
  · intro piece hincoming hmissing
    rw [merge, String.toList_ofList, mergeChars, hincoming, List.foldl_cons, List.foldl_nil]
    exact alternatives_add_iff _ piece (hpieces piece (by simp [hincoming])) hmissing

/-- A bar of its own does no harm where a separator does not follow a space. -/
theorem merge_appends_missing_bars :
    (alternatives (merge "a | |" "|b | a | c |").toList =
        [['a'], ['|'], ['|', 'b'], ['c', ' ', '|']] ∧
      merge (merge "a | |" "|b | a | c |") "|b | a | c |" = merge "a | |" "|b | a | c |") ∧
    (alternatives (merge "a" "b").toList = [['a']] ++ [['b']] ↔ ¬Open ['a']) := by
  have hbars := (merge_appends_missing "a | |" "|b | a | c |").1 (by decide)
  exact ⟨⟨hbars.1, hbars.2.2⟩, (merge_appends_missing "a" "b").2 ['b'] rfl (by decide)⟩

/-- Behind the bar at the end of a text an alternative is missed each time. -/
theorem missed_behind_bar :
    ['b'] ∈ alternatives "b".toList ∧ ['b'] ∉ alternatives (merge "a |" "b").toList ∧
    ['a', ' ', '|'] ∈ alternatives "a |".toList ∧
    ['a', ' ', '|'] ∉ alternatives (merge "a |" "b").toList ∧
    merge (merge "a |" "b") "b" ≠ merge "a |" "b" := by
  decide

end GuestCases.Alternatives
