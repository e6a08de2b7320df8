import GuestCases.Fusion

/-!
The parts of a text of alternatives. No part holds a separator, and a text without one is its only
part. A separator that is written behind a text is found there, unless the text is open: then it
ends with the first two characters of a separator, and the space behind them completes that one
instead.
-/

namespace GuestCases.Alternatives

theorem parts_ne_nil (cs : List Char) : parts cs ≠ [] := by
  fun_induction parts cs with
  | case1 => simp
  | case2 => simp
  | case3 => simp
  | case4 => simp

theorem parts_separator (cs : List Char) : parts (separator ++ cs) = [] :: parts cs := by
  simp [separator, parts]

/-- A character at which no separator begins goes to the first part. -/
theorem parts_cons (c : Char) (rest : List Char) (h : ∀ tail, c :: rest ≠ separator ++ tail) :
    parts (c :: rest) = (parts rest).modifyHead (c :: ·) := by
  rw [parts]
  · cases hparts : parts rest with
    | nil => exact absurd hparts (parts_ne_nil rest)
    | cons part others => rfl
  · intro tail hc hrest
    exact h tail (by simp [separator, hc, hrest])

/-- A text is read one separator or one other character at a time. -/
@[elab_as_elim]
theorem reading_induction {motive : List Char → Prop} (nil : motive [])
    (separator : ∀ rest, motive rest → motive (separator ++ rest))
    (cons : ∀ c rest, (∀ tail, c :: rest ≠ Alternatives.separator ++ tail) → motive rest →
      motive (c :: rest)) (cs : List Char) : motive cs := by
  induction cs using parts.induct with
  | case1 => exact nil
  | case2 rest ih => exact separator rest ih
  | case3 c rest hne hnil => exact absurd hnil (parts_ne_nil rest)
  | case4 c rest hne part others hparts ih =>
    refine cons c rest (fun tail heq => ?_) ih
    obtain ⟨hc, hrest⟩ := List.cons.inj heq
    exact hne tail hc hrest

theorem exists_last_part (cs : List Char) : ∃ before last, parts cs = before ++ [last] :=
  ⟨_, _, (List.dropLast_concat_getLast (parts_ne_nil cs)).symm⟩

theorem exists_first_part (cs : List Char) : ∃ first others, parts cs = first :: others :=
  List.exists_cons_of_ne_nil (parts_ne_nil cs)

theorem parts_of_no_separator (cs : List Char) (h : ¬separator <:+: cs) : parts cs = [cs] := by
  induction cs with
  | nil => rfl
  | cons c rest ih =>
    have hrest : ¬separator <:+: rest := fun hinside =>
      h (hinside.trans (List.suffix_cons c rest).isInfix)
    have hstart : ∀ tail, c :: rest ≠ separator ++ tail := fun tail heq => h ⟨[], tail, heq.symm⟩
    rw [parts_cons c rest hstart, ih hrest, List.modifyHead_cons]

theorem parts_of_not_mem (cs : List Char) (h : '|' ∉ cs) : parts cs = [cs] :=
  parts_of_no_separator cs fun hinside => h (hinside.subset (by decide))

/-- Nothing but separators stands between the parts. -/
theorem intercalate_parts (cs : List Char) : separator.intercalate (parts cs) = cs := by
  induction cs using reading_induction with
  | nil => rfl
  | separator rest ih =>
    obtain ⟨first, others, hrest⟩ := exists_first_part rest
    rw [parts_separator, hrest, List.intercalate_cons_cons, ← hrest, ih, List.nil_append]
  | cons c rest hstart ih =>
    obtain ⟨first, others, hrest⟩ := exists_first_part rest
    rw [hrest] at ih
    rw [parts_cons c rest hstart, hrest, List.modifyHead_cons]
    cases others with
    | nil => simpa using ih
    | cons next more =>
      rw [List.intercalate_cons_cons] at ih
      rw [List.intercalate_cons_cons, ← ih]
      rfl

theorem isPrefix_of_parts_eq (cs first : List Char) (others : List (List Char))
    (h : parts cs = first :: others) : first <+: cs := by
  have hjoined := intercalate_parts cs
  rw [h] at hjoined
  cases others with
  | nil => exact ⟨[], by simpa using hjoined⟩
  | cons next more =>
    rw [List.intercalate_cons_cons, List.append_assoc] at hjoined
    exact ⟨_, hjoined⟩

theorem isSuffix_of_parts_eq (cs last : List Char) (before : List (List Char))
    (h : parts cs = before ++ [last]) : last <:+ cs := by
  have hends : ∀ others : List (List Char), last <:+ separator.intercalate (others ++ [last]) := by
    intro others
    induction others with
    | nil => simp
    | cons other more ih =>
      obtain ⟨next, rest, hmore⟩ := List.exists_cons_of_ne_nil (List.concat_ne_nil last more)
      rw [hmore] at ih
      rw [List.cons_append, hmore, List.intercalate_cons_cons]
      exact ih.trans (List.suffix_append _ _)
  rw [← intercalate_parts cs, h]
  exact hends before

theorem no_separator_of_mem_parts (cs part : List Char) (h : part ∈ parts cs) :
    ¬separator <:+: part := by
  induction cs using reading_induction generalizing part with
  | nil =>
    rw [parts, List.mem_singleton] at h
    rw [h]
    decide
  | separator rest ih =>
    rw [parts_separator] at h
    rcases List.mem_cons.mp h with rfl | hrest
    · decide
    · exact ih part hrest
  | cons c rest hstart ih =>
    obtain ⟨shorter, more, hrest⟩ := exists_first_part rest
    rw [parts_cons c rest hstart, hrest, List.modifyHead_cons] at h
    rcases List.mem_cons.mp h with rfl | hmore
    · intro hinside
      rcases List.infix_cons_iff.mp hinside with hbegins | hinner
      · have hshorter := isPrefix_of_parts_eq rest shorter more hrest
        obtain ⟨tail, htail⟩ := hbegins.trans (List.cons_prefix_cons.mpr ⟨rfl, hshorter⟩)
        exact hstart tail htail.symm
      · exact ih shorter (hrest ▸ List.mem_cons_self) hinner
    · exact ih part (hrest ▸ List.mem_cons_of_mem _ hmore)

/-- Where no separator begins, the character belongs to the last part only if that is the first. -/
theorem exists_last_part_cons (c : Char) (rest : List Char)
    (hstart : ∀ tail, c :: rest ≠ separator ++ tail) (last : List Char) (before : List (List Char))
    (h : parts (c :: rest) = before ++ [last]) :
    (before = [] ∧ ∃ shorter, last = c :: shorter ∧ parts rest = [] ++ [shorter]) ∨
    ∃ first others, before = (c :: first) :: others ∧ parts rest = first :: others ++ [last] := by
  obtain ⟨first, others, hrest⟩ := exists_first_part rest
  rw [parts_cons c rest hstart, hrest, List.modifyHead_cons] at h
  rcases List.cons_eq_append_iff.mp h with ⟨rfl, hlast⟩ | ⟨more, rfl, rfl⟩
  · obtain ⟨rfl, rfl⟩ := List.cons.inj hlast
    exact .inl ⟨rfl, first, rfl, hrest⟩
  · exact .inr ⟨first, more, rfl, hrest⟩

/-- The characters end, in their last part, with the first two of a separator: one more space behind
them completes it. -/
def Open (cs : List Char) : Prop :=
  ∃ part ∈ (parts cs).getLast?, [' ', '|'] <:+ part

instance (cs : List Char) : Decidable (Open cs) :=
  decidable_of_iff ((parts cs).getLast?.any fun part => [' ', '|'].isSuffixOf part)
    (by simp [Open, Option.any_eq_true])

theorem open_iff_of_parts_eq (cs last : List Char) (before : List (List Char))
    (h : parts cs = before ++ [last]) : Open cs ↔ [' ', '|'] <:+ last := by
  simp [Open, h]

/-- A space behind characters that are not open is read as at the start of a text, and what comes
before the next separator goes to their last part. -/
theorem parts_append_space (cs tail last : List Char) (before : List (List Char))
    (hparts : parts cs = before ++ [last]) (hclosed : ¬[' ', '|'] <:+ last) :
    parts (cs ++ ' ' :: tail) = before ++ (parts (' ' :: tail)).modifyHead (last ++ ·) := by
  induction cs using reading_induction generalizing before last with
  | nil =>
    obtain ⟨rfl, rfl⟩ : before = [] ∧ last = [] := by
      rcases List.cons_eq_append_iff.mp hparts with ⟨rfl, hlast⟩ | ⟨more, -, hmore⟩
      · exact ⟨rfl, (List.cons.inj hlast).1⟩
      · simp at hmore
    exact (congrFun List.modifyHead_id _).symm
  | separator rest ih =>
    rcases List.cons_eq_append_iff.mp ((parts_separator rest).symm.trans hparts) with
      ⟨rfl, hlast⟩ | ⟨more, rfl, hmore⟩
    · exact absurd (List.cons.inj hlast).2.symm (parts_ne_nil rest)
    · calc parts (separator ++ (rest ++ ' ' :: tail))
          = [] :: parts (rest ++ ' ' :: tail) := parts_separator _
        _ = [] :: (more ++ _) := by rw [ih last more hmore hclosed]
  | cons c rest hstart ih =>
    -- A separator that begins here and ends behind `c :: rest` would make these characters open.
    have hlonger : ∀ suffix, c :: (rest ++ ' ' :: tail) ≠ separator ++ suffix := by
      intro suffix heq
      obtain ⟨rfl, hafter⟩ := List.cons.inj heq
      match rest, hafter with
      | [], hafter => simp at hafter
      | [d], hafter =>
        obtain ⟨rfl, -⟩ := List.cons.inj hafter
        have hlast := (List.append_inj' (hparts.symm.trans (rfl : _ = [] ++ [[' ', '|']])) rfl).2
        exact hclosed (by simp [(List.cons.inj hlast).1])
      | d :: e :: more, hafter =>
        obtain ⟨rfl, hmore⟩ := List.cons.inj hafter
        obtain ⟨rfl, -⟩ := List.cons.inj hmore
        exact hstart more rfl
    rw [List.cons_append, parts_cons c _ hlonger]
    rcases exists_last_part_cons c rest hstart last before hparts with
      ⟨rfl, shorter, rfl, hrest⟩ | ⟨first, more, rfl, hrest⟩
    · have hshorter : ¬[' ', '|'] <:+ shorter := fun h => hclosed (h.trans (List.suffix_cons c _))
      rw [ih shorter [] hrest hshorter, List.nil_append, List.modifyHead_modifyHead]
      rfl
    · rw [ih last (first :: more) hrest hclosed]
      rfl

/-- A separator behind characters that are not open divides their parts from those of what follows
it. -/
theorem parts_append_separator (cs tail : List Char) (h : ¬Open cs) :
    parts (cs ++ separator ++ tail) = parts cs ++ parts tail := by
  obtain ⟨before, last, hparts⟩ := exists_last_part cs
  have hclosed := fun hlast => h ((open_iff_of_parts_eq cs last before hparts).mpr hlast)
  rw [List.append_assoc]
  calc parts (cs ++ (separator ++ tail))
      = before ++ (parts (separator ++ tail)).modifyHead (last ++ ·) :=
        parts_append_space cs ('|' :: ' ' :: tail) last before hparts hclosed
    _ = parts cs ++ parts tail := by simp [parts_separator, hparts]

/-- Open characters are characters that are not open, with two more behind them. -/
theorem exists_of_open (cs : List Char) (h : Open cs) :
    ∃ front, cs = front ++ [' ', '|'] ∧ ¬Open front := by
  obtain ⟨before, last, hparts⟩ := exists_last_part cs
  obtain ⟨front, hcs⟩ := ((open_iff_of_parts_eq cs last before hparts).mp h).trans
    (isSuffix_of_parts_eq cs last before hparts)
  refine ⟨front, hcs.symm, fun hfront => ?_⟩
  -- Were the front open as well, the two ends would make a separator and one bar behind it.
  obtain ⟨shorter, hshorter, hclosed⟩ := exists_of_open front hfront
  have hbar : parts (shorter ++ separator ++ ['|']) = parts shorter ++ [['|']] :=
    parts_append_separator shorter ['|'] hclosed
  have hopen : Open (shorter ++ separator ++ ['|']) := by
    rw [← hcs, hshorter] at h
    simpa [separator] using h
  exact absurd ((open_iff_of_parts_eq _ _ _ hbar).mp hopen) (by decide)
termination_by cs.length
decreasing_by simp [← hcs]

end GuestCases.Alternatives
