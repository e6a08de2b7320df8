import GuestCases.Proofs.AccessAccounts
import GuestCases.Proofs.FieldAttribution
import GuestCases.Proofs.WrittenRecords

/-!
The lines of rows. The search for a record begins right behind the line end that ended the record
before it, and there its line is taken. Line ends which the search skips, those of empty lines and
the second half of a carriage return with a line feed, are not counted. So the line of a row is that
of its first character when no line feed is skipped, and an earlier one otherwise. Whatever is
reported of a row is reported with the line of the row.
-/

namespace GuestCases

namespace Csv

def IsLineEnd (c : Char) : Prop :=
  c = '\r' ∨ c = '\n'

instance (c : Char) : Decidable (IsLineEnd c) :=
  inferInstanceAs (Decidable (c = '\r' ∨ c = '\n'))

def Stage.next (stage : Stage) (mark : Mark) : Stage :=
  match action stage mark with
  | .skip | .endRecord => .between
  | .keep next | .drop next => next
  | .endField => .fieldStart

def Stage.over (stage : Stage) (cs : List Char) : Stage :=
  cs.foldl (fun stage c => stage.next (markOfChar c)) stage

def fieldsIn (cs : List Char) : List (List (List Char)) :=
  (records markOfChar 0 cs).map Record.fields

def EndsRecord (cs : List Char) : Prop :=
  ∃ front last, cs = front ++ [last] ∧ Stage.over .between front ≠ .between ∧
    Stage.over .between cs = .between

/-- The characters are divided where the search for the record with this number begins, and where it
finds the record. -/
structure IsFoundBehind (cs : List Char) (number : Nat) (before skipped rest : List Char) :
    Prop where
  divided : cs = before ++ skipped ++ rest
  earlier : fieldsIn before = (fieldsIn cs).take number
  later : fieldsIn rest = (fieldsIn cs).drop number
  ended : before = [] ∨ EndsRecord before
  skipped_lineEnds : ∀ c ∈ skipped, IsLineEnd c
  found : ∃ first more, rest = first :: more ∧ ¬IsLineEnd first

theorem Stage.over_cons (stage : Stage) (c : Char) (cs : List Char) :
    stage.over (c :: cs) = (stage.next (markOfChar c)).over cs :=
  rfl

theorem Stage.over_append (stage : Stage) (cs more : List Char) :
    stage.over (cs ++ more) = (stage.over cs).over more :=
  List.foldl_append

theorem isLineEnd_iff (c : Char) :
    IsLineEnd c ↔ markOfChar c = .carriageReturn ∨ markOfChar c = .lineFeed := by
  unfold IsLineEnd
  grind [markOfChar]

theorem action_between_eq_skip_iff (c : Char) :
    action .between (markOfChar c) = .skip ↔ IsLineEnd c := by
  rw [isLineEnd_iff]
  cases markOfChar c <;> simp [action, plainAction]

theorem action_ne_skip (stage : Stage) (mark : Mark) (h : stage ≠ .between) :
    action stage mark ≠ .skip := by
  cases stage <;> cases mark <;> simp_all [action, plainAction]

/-- In a record only its end leads out of it. -/
theorem next_eq_between_iff (stage : Stage) (mark : Mark) (h : action stage mark ≠ .skip) :
    stage.next mark = .between ↔ action stage mark = .endRecord := by
  cases stage <;> cases mark <;> simp_all [Stage.next, action, plainAction]

theorem next_between_of_not_isLineEnd (c : Char) (h : ¬IsLineEnd c) :
    Stage.next .between (markOfChar c) ≠ .between := by
  have hskip : action .between (markOfChar c) ≠ .skip := fun hskip =>
    h ((action_between_eq_skip_iff c).mp hskip)
  rw [isLineEnd_iff] at h
  rw [ne_eq, next_eq_between_iff _ _ hskip]
  cases hmark : markOfChar c <;> simp_all [action, plainAction]

theorem over_between_of_lineEnds (cs : List Char) (h : ∀ c ∈ cs, IsLineEnd c) :
    Stage.over .between cs = .between := by
  induction cs with
  | nil => rfl
  | cons c rest ih =>
    obtain ⟨hc, hrest⟩ := List.forall_mem_cons.mp h
    have hskip := (action_between_eq_skip_iff c).mpr hc
    rw [Stage.over_cons, Stage.next, hskip]
    exact ih hrest

/-- What the records hold does not depend on the places that are counted. -/
theorem map_fields_recordsFrom (stage : Stage) (start here other there : Position)
    (field : List Char) (fields : List (List Char)) (cs : List Char) :
    (recordsFrom markOfChar stage start here field fields cs).map Record.fields =
      (recordsFrom markOfChar stage other there field fields cs).map Record.fields := by
  induction cs generalizing stage start here other there field fields with
  | nil => by_cases hstage : stage = .between <;> simp [recordsFrom, hstage]
  | cons c rest ih =>
    simp only [recordsFrom]
    cases action stage (markOfChar c) with
    | skip => exact ih _ _ _ _ _ _ _
    | keep next => exact ih _ _ _ _ _ _ _
    | drop next => exact ih _ _ _ _ _ _ _
    | endField => exact ih _ _ _ _ _ _ _
    | endRecord => simpa using ih _ _ _ _ _ _ _

theorem map_fields_between (start here : Position) (cs : List Char) :
    (recordsFrom markOfChar .between start here [] [] cs).map Record.fields = fieldsIn cs :=
  map_fields_recordsFrom _ _ _ _ _ _ _ _

/-- The search for a record skips line ends and keeps the place where it began. -/
theorem recordsFrom_between_lineEnds (start here : Position) (skipped rest : List Char)
    (h : ∀ c ∈ skipped, IsLineEnd c) :
    recordsFrom markOfChar .between start here [] [] (skipped ++ rest) =
      recordsFrom markOfChar .between start (here.over skipped) [] [] rest := by
  induction skipped generalizing here with
  | nil => rfl
  | cons c others ih =>
    obtain ⟨hc, hothers⟩ := List.forall_mem_cons.mp h
    have hskip := (action_between_eq_skip_iff c).mpr hc
    have hrest := ih (here.step (markOfChar c)) hothers
    simpa [recordsFrom, hskip, Position.over] using hrest

structure EndsWith (stage : Stage) (field : List Char) (fields : List (List Char))
    (front : List Char) (last : Char) (whole : List (List Char)) : Prop where
  inside : stage.over front ≠ .between
  outside : stage.over (front ++ [last]) = .between
  reads : ∀ start here more,
    recordsFrom markOfChar stage start here field fields (front ++ last :: more) =
      ⟨whole, start⟩ :: recordsFrom markOfChar .between (here.over (front ++ [last]))
        (here.over (front ++ [last])) [] [] more

theorem endsWith_of_endRecord (stage : Stage) (hstage : stage ≠ .between) (field : List Char)
    (fields : List (List Char)) (c : Char) (h : action stage (markOfChar c) = .endRecord) :
    EndsWith stage field fields [] c (field.reverse :: fields).reverse where
  inside := hstage
  outside := by
    rw [List.nil_append, Stage.over_cons, Stage.next, h]
    rfl
  reads start here more := by
    simp [recordsFrom, h, Position.over]

/-- A symbol that the reader takes in belongs to the record whose text goes on behind it. -/
theorem EndsWith.cons {stage : Stage} {field : List Char} {fields : List (List Char)}
    {front : List Char} {last : Char} {whole : List (List Char)} {c : Char}
    {nextField : List Char} {nextFields : List (List Char)}
    (h : EndsWith (stage.next (markOfChar c)) nextField nextFields front last whole)
    (hread : ∀ start here more, recordsFrom markOfChar stage start here field fields (c :: more) =
      recordsFrom markOfChar (stage.next (markOfChar c)) start (here.step (markOfChar c)) nextField
        nextFields more) :
    EndsWith stage field fields (c :: front) last whole where
  inside := h.inside
  outside := h.outside
  reads start here more := by
    rw [List.cons_append, hread, h.reads]
    rfl

/-- Unless it skips the character or ends a record, the reader goes on with the same record. -/
theorem exists_recordsFrom_cons (stage : Stage) (field : List Char) (fields : List (List Char))
    (c : Char) (hskip : action stage (markOfChar c) ≠ .skip)
    (hend : action stage (markOfChar c) ≠ .endRecord) :
    ∃ nextField nextFields, ∀ start here more,
      recordsFrom markOfChar stage start here field fields (c :: more) =
        recordsFrom markOfChar (stage.next (markOfChar c)) start (here.step (markOfChar c))
          nextField nextFields more := by
  cases haction : action stage (markOfChar c) with
  | skip => exact absurd haction hskip
  | endRecord => exact absurd haction hend
  | keep next => exact ⟨c :: field, fields, by simp [recordsFrom, Stage.next, haction]⟩
  | drop next => exact ⟨field, fields, by simp [recordsFrom, Stage.next, haction]⟩
  | endField => exact ⟨[], field.reverse :: fields, by simp [recordsFrom, Stage.next, haction]⟩

/-- The record that the reader is in ends with some line end, or runs to the end of the text and is
the last one. -/
theorem exists_endsWith_or_last (stage : Stage) (hstage : stage ≠ .between) (field : List Char)
    (fields : List (List Char)) (cs : List Char) :
    (∃ front last more whole, cs = front ++ last :: more ∧
      EndsWith stage field fields front last whole) ∨
    ∃ whole, ∀ start here,
      recordsFrom markOfChar stage start here field fields cs = [⟨whole, start⟩] := by
  induction cs generalizing stage field fields with
  | nil =>
    refine .inr ⟨(field.reverse :: fields).reverse, fun start here => ?_⟩
    rw [recordsFrom, if_neg hstage]
  | cons c rest ih =>
    have hskip := action_ne_skip stage (markOfChar c) hstage
    by_cases hend : action stage (markOfChar c) = .endRecord
    · exact .inl ⟨[], c, rest, _, rfl, endsWith_of_endRecord stage hstage field fields c hend⟩
    · obtain ⟨nextField, nextFields, hread⟩ :=
        exists_recordsFrom_cons stage field fields c hskip hend
      have hnext := hend ∘ (next_eq_between_iff stage (markOfChar c) hskip).mp
      rcases ih _ hnext nextField nextFields with
        ⟨front, last, more, whole, rfl, hends⟩ | ⟨whole, hlast⟩
      · exact .inl ⟨c :: front, last, more, whole, rfl, hends.cons hread⟩
      · exact .inr ⟨whole, fun start here => by rw [hread, hlast]⟩

/-- A record that begins with the first character ends somewhere, or is the last one. -/
theorem exists_endsWith_or_last_of_found (first : Char) (more : List Char)
    (h : ¬IsLineEnd first) :
    (∃ front last rest whole, first :: more = front ++ last :: rest ∧
      EndsWith .between [] [] front last whole) ∨
    ∃ whole, ∀ start here,
      recordsFrom markOfChar .between start here [] [] (first :: more) = [⟨whole, start⟩] := by
  have hnext := next_between_of_not_isLineEnd first h
  have hskip : action .between (markOfChar first) ≠ .skip := fun hskip =>
    h ((action_between_eq_skip_iff first).mp hskip)
  have hend := hnext ∘ (next_eq_between_iff _ _ hskip).mpr
  obtain ⟨nextField, nextFields, hread⟩ := exists_recordsFrom_cons .between [] [] first hskip hend
  rcases exists_endsWith_or_last _ hnext nextField nextFields more with
    ⟨front, last, rest, whole, rfl, hends⟩ | ⟨whole, hlast⟩
  · exact .inl ⟨first :: front, last, rest, whole, rfl, hends.cons hread⟩
  · exact .inr ⟨whole, fun start here => by rw [hread, hlast]⟩

/-- Where there is a record, it begins behind the line ends in front. -/
theorem exists_skipped (cs : List Char) (h : fieldsIn cs ≠ []) :
    ∃ skipped first more, cs = skipped ++ first :: more ∧ (∀ c ∈ skipped, IsLineEnd c) ∧
      ¬IsLineEnd first := by
  induction cs with
  | nil => exact absurd rfl h
  | cons c rest ih =>
    by_cases hc : IsLineEnd c
    · have hone : ∀ d ∈ [c], IsLineEnd d := by simpa using hc
      have hrest : fieldsIn rest ≠ [] := by
        rwa [fieldsIn, records, ← List.singleton_append, recordsFrom_between_lineEnds _ _ _ _ hone,
          map_fields_between] at h
      obtain ⟨skipped, first, more, rfl, hskipped, hfirst⟩ := ih hrest
      exact ⟨c :: skipped, first, more, rfl, List.forall_mem_cons.mpr ⟨hc, hskipped⟩, hfirst⟩
    · exact ⟨[], c, rest, rfl, by simp, hc⟩

theorem fieldsIn_lineEnds_append (skipped rest : List Char) (h : ∀ c ∈ skipped, IsLineEnd c) :
    fieldsIn (skipped ++ rest) = fieldsIn rest := by
  rw [fieldsIn, records, recordsFrom_between_lineEnds _ _ _ _ h, map_fields_between]

/-- A record that has ended is followed by the records of what stands behind it. -/
theorem EndsWith.fieldsIn_append {front : List Char} {last : Char} {whole : List (List Char)}
    (h : EndsWith .between [] [] front last whole) (more : List Char) :
    fieldsIn (front ++ last :: more) = whole :: fieldsIn more := by
  rw [fieldsIn, records, h.reads, List.map_cons, map_fields_between]

/-- The first record has ended behind the characters, so a later one is found behind them as it is
found in the text that follows. -/
theorem IsFoundBehind.behind {skipped front more before gap rest : List Char} {last : Char}
    {whole : List (List Char)} {number : Nat} (hskipped : ∀ c ∈ skipped, IsLineEnd c)
    (hends : EndsWith .between [] [] front last whole)
    (h : IsFoundBehind more number before gap rest) :
    IsFoundBehind (skipped ++ (front ++ last :: more)) (number + 1)
      (skipped ++ (front ++ last :: before)) gap rest where
  divided := by simp [h.divided]
  earlier := by
    rw [fieldsIn_lineEnds_append _ _ hskipped, fieldsIn_lineEnds_append _ _ hskipped,
      hends.fieldsIn_append, hends.fieldsIn_append, h.earlier, List.take_succ_cons]
  later := by
    rw [fieldsIn_lineEnds_append _ _ hskipped, hends.fieldsIn_append, h.later,
      List.drop_succ_cons]
  ended := by
    have hover := over_between_of_lineEnds skipped hskipped
    refine .inr ?_
    rcases h.ended with rfl | ⟨others, final, rfl, hinside, houtside⟩
    · refine ⟨skipped ++ front, last, by simp, ?_, ?_⟩
      · rw [Stage.over_append, hover]
        exact hends.inside
      · rw [Stage.over_append, hover]
        exact hends.outside
    · have hclosed : ∀ tail, Stage.over .between (skipped ++ (front ++ last :: tail)) =
          Stage.over .between tail := by
        intro tail
        rw [Stage.over_append, hover, List.append_cons, Stage.over_append, hends.outside]
      refine ⟨skipped ++ (front ++ last :: others), final, by simp, ?_, ?_⟩
      · rwa [hclosed]
      · rwa [hclosed]
  skipped_lineEnds := h.skipped_lineEnds
  found := h.found

/-- The first record begins behind the line ends in front, and the rest of the text either has it
alone or goes on behind its end. -/
theorem exists_first (start here : Position) (cs : List Char)
    (h : recordsFrom markOfChar .between start here [] [] cs ≠ []) :
    ∃ skipped first more, cs = skipped ++ first :: more ∧ (∀ c ∈ skipped, IsLineEnd c) ∧
      ¬IsLineEnd first ∧
      ((∃ front last rest whole, first :: more = front ++ last :: rest ∧
          EndsWith .between [] [] front last whole) ∨
        ∃ whole, recordsFrom markOfChar .between start here [] [] cs = [⟨whole, start⟩]) := by
  have hfields : fieldsIn cs ≠ [] := by
    rw [← map_fields_between start here]
    simpa using h
  obtain ⟨skipped, first, more, rfl, hskipped, hfirst⟩ := exists_skipped cs hfields
  refine ⟨skipped, first, more, rfl, hskipped, hfirst, ?_⟩
  rcases exists_endsWith_or_last_of_found first more hfirst with hends | ⟨whole, hlast⟩
  · exact .inl hends
  · exact .inr ⟨whole, by rw [recordsFrom_between_lineEnds _ _ _ _ hskipped, hlast]⟩

/-- The line of a record is the one that is reached behind the text of the records before it. -/
theorem exists_isFoundBehind (number : Nat) (cs : List Char) (start here : Position)
    (hline : start.line = here.line) (record : Record Char)
    (h : (recordsFrom markOfChar .between start here [] [] cs)[number]? = some record) :
    ∃ before skipped rest, IsFoundBehind cs number before skipped rest ∧
      record.start.line = here.line + before.count '\n' := by
  induction number generalizing cs start here with
  | zero =>
    obtain ⟨skipped, first, more, rfl, hskipped, hfirst, hrest⟩ :=
      exists_first start here cs (List.ne_nil_of_mem (List.mem_of_getElem? h))
    have hstart : record.start = start := by
      rcases hrest with ⟨front, last, rest, whole, hmore, hends⟩ | ⟨whole, hlast⟩
      · rw [recordsFrom_between_lineEnds _ _ _ _ hskipped, hmore, hends.reads] at h
        rw [← Option.some.inj h]
      · rw [hlast] at h
        rw [← Option.some.inj h]
    refine ⟨[], skipped, first :: more,
      ⟨rfl, rfl, ?_, .inl rfl, hskipped, first, more, rfl, hfirst⟩,
      by rw [hstart, hline, List.count_nil, Nat.add_zero]⟩
    rw [fieldsIn_lineEnds_append _ _ hskipped, List.drop_zero]
  | succ number ih =>
    obtain ⟨skipped, first, more, rfl, hskipped, hfirst, hrest⟩ :=
      exists_first start here cs (List.ne_nil_of_mem (List.mem_of_getElem? h))
    rcases hrest with ⟨front, last, rest, whole, hmore, hends⟩ | ⟨whole, hlast⟩
    · rw [recordsFrom_between_lineEnds _ _ _ _ hskipped, hmore, hends.reads,
        List.getElem?_cons_succ] at h
      obtain ⟨before, gap, tail, hfound, hrecord⟩ := ih rest _ _ rfl h
      refine ⟨skipped ++ (front ++ last :: before), gap, tail, ?_, ?_⟩
      · rw [hmore]
        exact hfound.behind hskipped hends
      · rw [hrecord, Position.line_over, Position.line_over, List.append_cons front last before]
        simp only [List.count_append]
        omega
    · rw [hlast] at h
      cases h

/-- The text of a row, divided where the search for its record begins and where it finds the record.
Nothing but byte order marks stands in front of the records. -/
structure StandsBehind (text : String) (number : Nat) (row : TextRecord)
    (marks before skipped rest : List Char) : Prop where
  text_eq : text.toList = marks ++ (before ++ skipped ++ rest)
  marks_only : ∀ c ∈ marks, c = '\uFEFF'
  found : IsFoundBehind (before ++ skipped ++ rest) number before skipped rest
  cells : (fieldsIn rest).head?.map (·.map String.ofList) = some row.cells
  line : row.line = 1 + before.count '\n'

theorem exists_marks (cs : List Char) :
    ∃ marks, cs = marks ++ dropMark cs ∧ ∀ c ∈ marks, c = '\uFEFF' := by
  unfold dropMark
  split
  · exact ⟨['\uFEFF'], rfl, by simp⟩
  · exact ⟨[], rfl, by simp⟩

/-- The line of a row is that of its first character exactly when the search for its record skips no
line feed. -/
theorem StandsBehind.line_eq_iff {text : String} {number : Nat} {row : TextRecord}
    {marks before skipped rest : List Char}
    (h : StandsBehind text number row marks before skipped rest) :
    row.line = 1 + (marks ++ before ++ skipped).count '\n' ↔ '\n' ∉ skipped := by
  have hmarks : marks.count '\n' = 0 := by
    rw [List.count_eq_zero]
    intro hmem
    exact absurd (h.marks_only _ hmem) (by decide)
  rw [h.line, ← List.count_eq_zero, List.count_append, List.count_append, hmarks]
  omega

/-- Every record of a text stands behind the text of those before it. -/
theorem exists_standsBehind (text : String) (number : Nat) (row : TextRecord)
    (h : (readChars (dropMark text.toList))[number]? = some row) :
    ∃ marks before skipped rest, StandsBehind text number row marks before skipped rest := by
  obtain ⟨outer, houter, houterMarks⟩ := exists_marks text.toList
  obtain ⟨inner, hinner, hinnerMarks⟩ := exists_marks (dropMark text.toList)
  rw [readChars, List.getElem?_map, Option.map_eq_some_iff] at h
  obtain ⟨record, hrecord, rfl⟩ := h
  rw [records] at hrecord
  obtain ⟨before, skipped, rest, hfound, hline⟩ :=
    exists_isFoundBehind number (dropMark (dropMark text.toList)) ⟨1, 0⟩ ⟨1, _⟩ (by rfl) record
      hrecord
  have hfields : (fieldsIn rest).head? = some record.fields := by
    rw [hfound.later, List.head?_drop, ← map_fields_between, List.getElem?_map]
    exact congrArg _ hrecord
  refine ⟨outer ++ inner, before, skipped, rest, ?_, ?_, ?_, ?_, hline⟩
  · rw [← hfound.divided, List.append_assoc, ← hinner, ← houter]
  · exact List.forall_mem_append.mpr ⟨houterMarks, hinnerMarks⟩
  · rwa [← hfound.divided]
  · rw [hfields]
    rfl

/-- The row is the record with this number of the text. Its line is that of its first character
exactly when the search for it skips no line feed. -/
def StandsInText (text : String) (number : Nat) (row : TextRecord) : Prop :=
  ∃ marks before skipped rest, StandsBehind text number row marks before skipped rest ∧
    (row.line = 1 + (marks ++ before ++ skipped).count '\n' ↔ '\n' ∉ skipped)

theorem standsInText_of_getElem? (text : String) (number : Nat) (row : TextRecord)
    (h : (readChars (dropMark text.toList))[number]? = some row) :
    StandsInText text number row := by
  obtain ⟨marks, before, skipped, rest, hstands⟩ := exists_standsBehind text number row h
  exact ⟨marks, before, skipped, rest, hstands, hstands.line_eq_iff⟩

end Csv

section Reports

variable {ε : Type}

def Event.line? : Event ε → Option Nat
  | .entry _ => none
  | .skip lost => some lost.line
  | .remark said => some said.line

def SheetFault.line? : SheetFault → Option Nat
  | .malformed _ line _ => some line
  | .invalidCell _ line _ _ => some line
  | _ => none

/-- The reading takes rows with these lines one after the other: what it says of a row bears the
line of that row, and so does the fault of the row at which it ends. -/
def ReportsLines (lines : List Nat) (reading : Reading ε) : Prop :=
  ∃ blocks, reading.events = blocks.flatten ∧
    List.Forall₂ (fun line block => ∀ event ∈ block, ∀ n ∈ event.line?, n = line)
      (lines.take blocks.length) blocks ∧
    match reading.fault? with
    | none => blocks.length = lines.length
    | some fault => ∀ n ∈ fault.line?, lines[blocks.length]? = some n

theorem reportsLines_readRows {σ ρ : Type}
    (read : σ → ρ → Except SheetFault (σ × List (Event ε))) (lineOf : ρ → Nat)
    (hevents : ∀ state row next events, read state row = .ok (next, events) →
      ∀ event ∈ events, ∀ n ∈ event.line?, n = lineOf row)
    (hfault : ∀ state row fault, read state row = .error fault →
      ∀ n ∈ fault.line?, n = lineOf row)
    (state : σ) (rows : List ρ) :
    ReportsLines (rows.map lineOf) (readRows read state rows) := by
  induction rows generalizing state with
  | nil => exact ⟨[], rfl, .nil, rfl⟩
  | cons row rest ih =>
    cases hread : read state row with
    | error fault =>
      simp only [readRows, hread]
      refine ⟨[], rfl, .nil, ?_⟩
      intro n hn
      simp [hfault state row fault hread n hn]
    | ok made =>
      obtain ⟨next, events⟩ := made
      obtain ⟨blocks, hblocks, hlines, hend⟩ := ih next
      simp only [readRows, hread]
      refine ⟨events :: blocks, by rw [hblocks, List.flatten_cons],
        .cons (hevents state row next events hread) hlines, ?_⟩
      cases hrest : (readRows read next rest).fault? with
      | none => simpa [hrest] using hend
      | some fault => simpa [hrest] using hend

/-- The attempt gives something with the property, or a fault that is not one of a row. -/
def GivesOrLineless {α : Type} (property : α → Prop) : Except SheetFault α → Prop
  | .ok made => property made
  | .error fault => fault.line? = none

theorem GivesOrLineless.bind {α β : Type} {first : Except SheetFault α}
    {next : α → Except SheetFault β} {property : β → Prop}
    (hfirst : GivesOrLineless (fun _ => True) first)
    (hnext : ∀ made, GivesOrLineless property (next made)) :
    GivesOrLineless property (first >>= next) := by
  cases first with
  | error fault => exact hfirst
  | ok made => exact hnext made

theorem GivesOrLineless.map {α β : Type} {first : Except SheetFault α} {f : α → β}
    {property : β → Prop} (hfirst : GivesOrLineless (fun _ => True) first)
    (h : ∀ made, property (f made)) : GivesOrLineless property (first.map f) := by
  cases first with
  | error fault => exact hfirst
  | ok made => exact h made

theorem givesOrLineless_column (sheet : Sheet) (name : String) :
    GivesOrLineless (fun _ => True) (sheet.column name) := by
  unfold Sheet.column
  cases sheet.position? name with
  | none => rfl
  | some position => trivial

theorem givesOrLineless_firstColumn (sheet : Sheet) (candidates : List String) :
    GivesOrLineless (fun _ => True) (sheet.firstColumn candidates) := by
  unfold Sheet.firstColumn
  cases candidates.findSome? sheet.position? with
  | none => rfl
  | some position => trivial

end Reports

namespace Cpuid

/-- Nothing that a row gives bears another line than the row's. -/
theorem line_of_rowStep (source : Source) (context next : Context) (row : Row)
    (events : List (Event Entry)) (h : RowStep source context row next events) :
    ∀ event ∈ events, ∀ n ∈ event.line?, n = row.line := by
  cases h with
  | blank => simp [Source.skip, Event.line?]
  | header caption =>
    cases hof : LeafGroup.ofName caption <;>
      simp [headerEvents, hof, Source.skip, Source.warn, Event.line?]
  | lost register reason =>
    cases reason <;> simp [lossRemarks, Source.skip, Source.warn, Event.line?]
  | field register value group geometry =>
    intro event hevent
    obtain ⟨entry, -, rfl⟩ := List.mem_map.mp hevent
    simp [Event.line?]

/-- A field that cannot be read has a bad cell in some column. -/
theorem exists_invalidCell (source : Source) (row : Row) (register : String) (fault : SheetFault)
    (h : readGeometry source row register = .error fault) :
    ∃ column cause, fault = .invalidCell source.path row.line column cause := by
  unfold readGeometry at h
  cases hregister : Register.ofText register <;> cases hmsb : readInt32 row.msb <;>
    cases hlsb : readInt32 row.lsb <;> cases hsize : readInt32 row.size <;>
    simp_all [bind, Except.bind, Except.mapError, pure, Except.pure] <;>
    exact ⟨_, _, h.symm⟩

theorem lines_of_rowsOf (columns : Columns) (sheet : Sheet) :
    GivesOrLineless (fun rows => rows.map Row.line = sheet.rows.map Csv.TextRecord.line)
      (rowsOf columns sheet) := by
  unfold rowsOf
  refine .map ?_ fun bound => by simp [Bound.row]
  unfold Columns.bind
  refine .bind (givesOrLineless_column _ _) fun name => ?_
  refine .bind (givesOrLineless_column _ _) fun register => ?_
  refine .bind (givesOrLineless_column _ _) fun msb => ?_
  refine .bind (givesOrLineless_column _ _) fun lsb => ?_
  refine .bind (givesOrLineless_column _ _) fun size => ?_
  refine .bind (givesOrLineless_firstColumn _ _) fun virtType => ?_
  refine .bind (givesOrLineless_firstColumn _ _) fun virtDetail => ?_
  trivial

theorem reportsLines_read (columns : Columns) (version : String) (sheet : Sheet) :
    ReportsLines (sheet.rows.map Csv.TextRecord.line) (read columns version sheet) := by
  have hlines := lines_of_rowsOf columns sheet
  unfold read
  cases hrows : rowsOf columns sheet with
  | error fault =>
    rw [hrows] at hlines
    have hline : fault.line? = none := hlines
    exact ⟨[], rfl, .nil, by simp [hline]⟩
  | ok rows =>
    rw [hrows] at hlines
    have hmap : rows.map Row.line = sheet.rows.map Csv.TextRecord.line := hlines
    rw [← hmap]
    refine reportsLines_readRows _ Row.line ?_ ?_ _ rows
    · intro context row next events hread
      exact line_of_rowStep _ _ _ _ _ (rowStep_of_readRow _ _ _ _ _ hread)
    · intro context row fault hread
      obtain ⟨register, -, -, -, -, hgeometry⟩ := (readRow_eq_error_iff _ _ _ _).mp hread
      obtain ⟨column, cause, rfl⟩ := exists_invalidCell _ _ _ _ hgeometry
      simp [SheetFault.line?]

end Cpuid

namespace Msr

theorem line_of_readDirection (source : Source) (row : Row) (geometry : Geometry)
    (direction : Direction) :
    ∀ event ∈ readDirection source row geometry direction, ∀ n ∈ event.line?, n = row.line := by
  unfold readDirection
  cases source.resolver.classify (row.description direction) with
  | ok outcome => simp [Event.line?]
  | error why => cases why <;> simp [remarks, Event.line?]

theorem line_of_readRow (source : Source) (row : Row) (events : List (Event Entry))
    (h : readRow source row = .ok events) :
    ∀ event ∈ events, ∀ n ∈ event.line?, n = row.line := by
  unfold readRow at h
  cases hspecial : row.special? with
  | some reason =>
    rw [hspecial] at h
    cases h
    simp [Event.line?]
  | none =>
    cases hgeometry : readGeometry source row with
    | error fault => simp [hspecial, hgeometry, Except.map] at h
    | ok geometry =>
      simp only [hspecial, hgeometry, Except.map, Except.ok.injEq] at h
      subst h
      intro event hevent
      obtain ⟨direction, -, hdirection⟩ := List.mem_flatMap.mp hevent
      exact line_of_readDirection source row geometry direction event hdirection

theorem lines_of_rowsOf (columns : Columns) (sheet : Sheet) :
    GivesOrLineless (fun rows => rows.map Row.line = sheet.rows.map Csv.TextRecord.line)
      (rowsOf columns sheet) := by
  unfold rowsOf
  refine .map ?_ fun bound => by simp [Bound.row]
  unfold Columns.bind
  refine .bind (givesOrLineless_column _ _) fun name => ?_
  refine .bind (givesOrLineless_column _ _) fun first => ?_
  refine .bind (givesOrLineless_column _ _) fun last => ?_
  refine .bind (givesOrLineless_column _ _) fun size => ?_
  refine .bind (givesOrLineless_firstColumn _ _) fun read => ?_
  refine .bind (givesOrLineless_firstColumn _ _) fun write => ?_
  trivial

theorem reportsLines_read (columns : Columns) (version : String) (resolver : Resolver)
    (sheet : Sheet) :
    ReportsLines (sheet.rows.map Csv.TextRecord.line) (read columns version resolver sheet) := by
  have hlines := lines_of_rowsOf columns sheet
  unfold read
  cases hrows : rowsOf columns sheet with
  | error fault =>
    rw [hrows] at hlines
    have hline : fault.line? = none := hlines
    exact ⟨[], rfl, .nil, by simp [hline]⟩
  | ok rows =>
    rw [hrows] at hlines
    have hmap : rows.map Row.line = sheet.rows.map Csv.TextRecord.line := hlines
    rw [← hmap]
    refine reportsLines_readRows _ Row.line ?_ ?_ _ rows
    · intro state row next events hread
      cases hrow : readRow ⟨sheet.path, SpecVersion.constant version, resolver⟩ row with
      | error fault => simp [hrow, Except.map] at hread
      | ok made =>
        obtain rfl : made = events := by simpa [hrow, Except.map] using hread
        exact line_of_readRow _ row made hrow
    · intro state row fault hread
      cases hrow : readRow ⟨sheet.path, SpecVersion.constant version, resolver⟩ row with
      | ok made => simp [hrow, Except.map] at hread
      | error cause =>
        obtain rfl : cause = fault := by simpa [hrow, Except.map] using hread
        obtain ⟨-, column, bad, -, rfl⟩ := (readRow_eq_error_iff _ row cause).mp hrow
        simp [SheetFault.line?]

end Msr

namespace Sheet

/-- The rows of a sheet are the records behind the header. -/
theorem getElem?_rows_of_ofRecords (path : String) (offset : Nat)
    (records : List Csv.TextRecord) (sheet : Sheet)
    (h : ofRecords path offset records = .ok sheet) (number : Nat) :
    sheet.rows[number]? = records[offset + 1 + number]? := by
  unfold ofRecords at h
  split at h
  · cases h
  · rename_i header rows hdrop
    dsimp only at h
    split at h
    · cases h
    · cases h
      rw [← List.getElem?_drop, ← List.tail_drop, hdrop, List.tail_cons]

/-- A fault that bears a line is about a record behind the header. -/
theorem exists_record_of_ofRecords_error (path : String) (offset : Nat)
    (records : List Csv.TextRecord) (fault : SheetFault)
    (h : ofRecords path offset records = .error fault) :
    ∀ line ∈ fault.line?, ∃ number row, records[offset + 1 + number]? = some row ∧
      row.line = line := by
  unfold ofRecords at h
  split at h
  · cases h
    simp [SheetFault.line?]
  · rename_i header rows hdrop
    dsimp only at h
    split at h
    · rename_i row hrow
      cases h
      intro line hline
      obtain ⟨number, hnumber⟩ := List.mem_iff_getElem?.mp (List.mem_of_find?_eq_some hrow)
      refine ⟨number, row, ?_, by simpa [SheetFault.line?] using hline⟩
      rw [← List.getElem?_drop, ← List.tail_drop, hdrop, List.tail_cons, hnumber]
    · cases h

/-- Every row of a sheet stands where its record does in the text, and what is reported of a row
bears the line of that row. The same holds of a record that is too long for the sheet. -/
theorem rows_stand_on_lines (path : String) (offset : Nat) (text : String) :
    (∀ sheet, ofText path offset text = .ok sheet →
      (∀ number row, sheet.rows[number]? = some row →
        Csv.StandsInText text (offset + 1 + number) row) ∧
      (∀ columns version, ReportsLines (sheet.rows.map Csv.TextRecord.line)
        (Cpuid.read columns version sheet)) ∧
      ∀ columns version resolver, ReportsLines (sheet.rows.map Csv.TextRecord.line)
        (Msr.read columns version resolver sheet)) ∧
    ∀ fault, ofText path offset text = .error fault → ∀ line ∈ fault.line?,
      ∃ number row, Csv.StandsInText text (offset + 1 + number) row ∧ row.line = line := by
  constructor
  · intro sheet hsheet
    refine ⟨fun number row hrow => ?_, fun columns version => ?_,
      fun columns version resolver => ?_⟩
    · rw [getElem?_rows_of_ofRecords path offset _ sheet hsheet] at hrow
      exact Csv.standsInText_of_getElem? text _ row hrow
    · exact Cpuid.reportsLines_read columns version sheet
    · exact Msr.reportsLines_read columns version resolver sheet
  · intro fault hfault line hline
    obtain ⟨number, row, hrow, hrowLine⟩ :=
      exists_record_of_ofRecords_error path offset _ fault hfault line hline
    exact ⟨number, row, Csv.standsInText_of_getElem? text _ row hrow, hrowLine⟩

def mixedEnds : String := "A,B\r\n\r\n\"x\ny\",1\r\nz,2\nw,3\n"

theorem rows_stand_on_lines_mixed :
    (∃ sheet, ofText "spec.csv" 0 mixedEnds = .ok sheet ∧
      sheet.rows = [⟨["x\ny", "1"], 1⟩, ⟨["z", "2"], 4⟩, ⟨["w", "3"], 6⟩] ∧
      (∀ number row, sheet.rows[number]? = some row →
        Csv.StandsInText mixedEnds (0 + 1 + number) row) ∧
      ReportsLines [1, 4, 6] (Cpuid.read ⟨"A", ["B"], ["B"]⟩ "1.5" sheet)) ∧
    ∃ fault, ofText "spec.csv" 0 "A\r\n\r\n1,2" = .error fault ∧ fault.line? = some 1 ∧
      ∃ number row, Csv.StandsInText "A\r\n\r\n1,2" (0 + 1 + number) row ∧ row.line = 1 := by
  have hrows := rows_stand_on_lines "spec.csv" 0 mixedEnds
  have hlong := rows_stand_on_lines "spec.csv" 0 "A\r\n\r\n1,2"
  exact ⟨⟨_, rfl, rfl, (hrows.1 _ rfl).1, (hrows.1 _ rfl).2.1 _ _⟩,
    _, rfl, rfl, hlong.2 _ rfl 1 rfl⟩

/-- Behind a line end of two characters the second row has the line of the first. -/
theorem row_behind_two_line_ends :
    ∃ row, ofText "spec.csv" 0 "A,B\r\n1,2\r\n" = .ok ⟨"spec.csv", ["A", "B"], [row]⟩ ∧
      row.cells = ["1", "2"] ∧ "A,B\r\n1,2\r\n".toList = "A,B\r\n".toList ++ "1,2\r\n".toList ∧
      row.line ≠ 1 + "A,B\r\n".toList.count '\n' :=
  ⟨_, rfl, rfl, rfl, by decide⟩

end Sheet

end GuestCases
