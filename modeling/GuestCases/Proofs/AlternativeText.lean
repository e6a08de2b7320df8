import GuestCases.Proofs.AlternativeParts

/-!
Texts of alternatives as sets. A text is plain when none of its parts holds a bar of its own; then
each part that is written behind a separator is found again. The main statement,
`mem_alternatives_merge`, is that merging two plain texts unites their alternatives. The
existing text stays in front as it is, whatever the two texts hold.
-/

namespace GuestCases.Alternatives

def Plain (cs : List Char) : Prop :=
  ∀ part ∈ parts cs, '|' ∉ part

instance (cs : List Char) : Decidable (Plain cs) :=
  inferInstanceAs (Decidable (∀ part ∈ parts cs, '|' ∉ part))

theorem plain_of_not_mem (cs : List Char) (h : '|' ∉ cs) : Plain cs := by
  intro part hpart
  rw [parts_of_not_mem cs h, List.mem_singleton] at hpart
  rw [hpart]
  exact h

/-- No bar stands at the end of plain characters. -/
theorem Plain.not_open (cs : List Char) (h : Plain cs) : ¬Open cs := by
  rintro ⟨part, hpart, hends⟩
  exact h part (List.mem_of_getLast? hpart) (hends.subset (by decide))

theorem alternatives_nil : alternatives [] = [] := rfl

theorem alternatives_append_separator (cs tail : List Char) (h : ¬Open cs) :
    alternatives (cs ++ separator ++ tail) = alternatives cs ++ alternatives tail := by
  simp only [alternatives, pieces, parts_append_separator cs tail h, List.map_append,
    List.filter_append]

structure IsPiece (value : List Char) : Prop where
  nonempty : value ≠ []
  trimmed : Text.trimChars value = value
  whole : parts value = [value]

theorem isPiece_of_mem (cs value : List Char) (h : value ∈ alternatives cs) : IsPiece value := by
  obtain ⟨hpiece, hnonempty⟩ := List.mem_filter.mp h
  obtain ⟨part, hpart, rfl⟩ := List.mem_map.mp hpiece
  exact {
    nonempty := by simpa using hnonempty
    trimmed := Text.trimChars_trimChars part
    whole := parts_of_no_separator _ fun hinside =>
      no_separator_of_mem_parts cs part hpart (hinside.trans (Text.trimChars_isInfix part))
  }

theorem IsPiece.alternatives_eq (value : List Char) (h : IsPiece value) :
    alternatives value = [value] := by
  simp [alternatives, pieces, h.whole, h.trimmed, h.nonempty]

theorem add_of_not_mem (cs piece : List Char) (hcs : cs ≠ []) (hpiece : IsPiece piece)
    (h : piece ∉ alternatives cs) : add cs piece = cs ++ separator ++ piece := by
  have hmissing : piece ∉ pieces cs := fun hmem =>
    h (List.mem_filter.mpr ⟨hmem, by simp [hpiece.nonempty]⟩)
  rw [add, if_neg (by simpa using hcs), if_neg hmissing]

/-- A new alternative behind characters that are not open is found again. -/
theorem alternatives_add (cs piece : List Char) (hpiece : IsPiece piece)
    (h : piece ∉ alternatives cs) (hclosed : ¬Open cs) :
    alternatives (add cs piece) = alternatives cs ++ [piece] := by
  by_cases hcs : cs = []
  · simp [hcs, add, alternatives_nil, hpiece.alternatives_eq]
  · rw [add_of_not_mem cs piece hcs hpiece h, alternatives_append_separator cs piece hclosed,
      hpiece.alternatives_eq]

theorem add_eq_self (cs piece : List Char) (h : piece ∈ alternatives cs) : add cs piece = cs := by
  have hpiece : piece ∈ pieces cs := (List.mem_filter.mp h).1
  have hne : cs ≠ [] := by
    rintro rfl
    exact absurd h List.not_mem_nil
  rw [add, if_neg (by simpa using hne), if_pos hpiece]

structure IsSingle (value : List Char) : Prop where
  nonempty : value ≠ []
  trimmed : Text.trimChars value = value
  no_bar : '|' ∉ value

theorem IsSingle.isPiece (value : List Char) (h : IsSingle value) : IsPiece value :=
  ⟨h.nonempty, h.trimmed, parts_of_not_mem value h.no_bar⟩

theorem isSingle_of_mem (cs value : List Char) (hcs : Plain cs) (h : value ∈ alternatives cs) :
    IsSingle value := by
  have hpiece := isPiece_of_mem cs value h
  obtain ⟨part, hpart, rfl⟩ := List.mem_map.mp (List.mem_filter.mp h).1
  exact ⟨hpiece.nonempty, hpiece.trimmed, fun hbar =>
    hcs part hpart ((Text.trimChars_sublist part).mem hbar)⟩

theorem prefix_add (cs piece : List Char) : cs <+: add cs piece := by
  unfold add
  split
  · rename_i hempty
    rw [List.isEmpty_iff.mp hempty]
    exact List.nil_prefix
  · split
    · exact List.prefix_rfl
    · rw [List.append_assoc]
      exact List.prefix_append cs _

theorem plain_add (cs piece : List Char) (hcs : Plain cs) (hpiece : IsSingle piece) :
    Plain (add cs piece) := by
  have hplain := plain_of_not_mem piece hpiece.no_bar
  unfold add
  split
  · exact hplain
  · split
    · exact hcs
    · intro part hpart
      rw [parts_append_separator cs piece hcs.not_open] at hpart
      rcases List.mem_append.mp hpart with hold | hnew
      · exact hcs part hold
      · exact hplain part hnew

theorem mem_alternatives_add (cs piece value : List Char) (hcs : Plain cs)
    (hpiece : IsSingle piece) :
    value ∈ alternatives (add cs piece) ↔ value ∈ alternatives cs ∨ value = piece := by
  by_cases hmem : piece ∈ alternatives cs
  · rw [add_eq_self cs piece hmem]
    constructor
    · exact Or.inl
    · rintro (hold | rfl)
      · exact hold
      · exact hmem
  · rw [alternatives_add cs piece hpiece.isPiece hmem hcs.not_open, List.mem_append,
      List.mem_singleton]

theorem prefix_foldl_add (pieces : List (List Char)) (cs : List Char) :
    cs <+: pieces.foldl add cs := by
  induction pieces generalizing cs with
  | nil => exact List.prefix_rfl
  | cons piece rest ih => exact (prefix_add cs piece).trans (ih (add cs piece))

theorem plain_foldl_add (pieces : List (List Char)) (cs : List Char) (hcs : Plain cs)
    (hpieces : ∀ piece ∈ pieces, IsSingle piece) : Plain (pieces.foldl add cs) := by
  induction pieces generalizing cs with
  | nil => exact hcs
  | cons piece rest ih =>
    obtain ⟨hpiece, hrest⟩ := List.forall_mem_cons.mp hpieces
    exact ih (add cs piece) (plain_add cs piece hcs hpiece) hrest

theorem mem_alternatives_foldl_add (pieces : List (List Char)) (cs value : List Char)
    (hcs : Plain cs) (hpieces : ∀ piece ∈ pieces, IsSingle piece) :
    value ∈ alternatives (pieces.foldl add cs) ↔ value ∈ alternatives cs ∨ value ∈ pieces := by
  induction pieces generalizing cs with
  | nil => simp
  | cons piece rest ih =>
    obtain ⟨hpiece, hrest⟩ := List.forall_mem_cons.mp hpieces
    rw [List.foldl_cons, ih (add cs piece) (plain_add cs piece hcs hpiece) hrest,
      mem_alternatives_add cs piece value hcs hpiece, List.mem_cons, or_assoc]

/-- Merging keeps what is there as it is. -/
theorem prefix_merge (existing incoming : String) :
    existing.toList <+: (merge existing incoming).toList := by
  rw [merge, String.toList_ofList]
  exact prefix_foldl_add _ _

theorem plain_merge (existing incoming : String) (hexisting : Plain existing.toList)
    (hincoming : Plain incoming.toList) : Plain (merge existing incoming).toList := by
  rw [merge, String.toList_ofList]
  exact plain_foldl_add _ _ hexisting fun piece => isSingle_of_mem _ piece hincoming

/-- Merging plain texts unites their alternatives. -/
theorem mem_alternatives_merge (existing incoming : String) (value : List Char)
    (hexisting : Plain existing.toList) (hincoming : Plain incoming.toList) :
    value ∈ alternatives (merge existing incoming).toList ↔
      value ∈ alternatives existing.toList ∨ value ∈ alternatives incoming.toList := by
  rw [merge, String.toList_ofList]
  exact mem_alternatives_foldl_add _ _ value hexisting fun piece =>
    isSingle_of_mem _ piece hincoming

theorem foldl_add_eq_self (pieces : List (List Char)) (cs : List Char)
    (h : ∀ piece ∈ pieces, piece ∈ alternatives cs) : pieces.foldl add cs = cs := by
  induction pieces with
  | nil => rfl
  | cons piece rest ih =>
    obtain ⟨hpiece, hrest⟩ := List.forall_mem_cons.mp h
    rw [List.foldl_cons, add_eq_self cs piece hpiece, ih hrest]

/-- Merging alternatives that are all there changes nothing. -/
theorem merge_eq_self (existing incoming : String)
    (h : ∀ value ∈ alternatives incoming.toList, value ∈ alternatives existing.toList) :
    merge existing incoming = existing := by
  rw [merge, mergeChars, foldl_add_eq_self _ _ h, String.ofList_toList]

end GuestCases.Alternatives
