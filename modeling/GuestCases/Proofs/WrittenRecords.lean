import GuestCases.Sheet

/-!
Records that were written in full read back: every cell between quotes, a quote inside a cell
written twice, cells joined by commas, and a line feed after every record. A quoted cell ends at
the first quote that is not doubled, so whatever stands in it is kept, and the search for each
record begins where the text of the one before it ends. The main statement, `ofText_write`, is that
a sheet made of written records has their trimmed cells and counts the line feeds in front of each
row.
-/

namespace GuestCases.Csv

def doubleQuotes (cell : List Char) : List Char :=
  cell.flatMap fun c => if c = '"' then ['"', '"'] else [c]

def writeCell (cell : List Char) : List Char :=
  '"' :: doubleQuotes cell ++ ['"']

def writeRecord (cells : List (List Char)) : List Char :=
  (cells.map writeCell).intersperse [','] |>.flatten |>.append ['\n']

def write (records : List (List String)) : String :=
  String.ofList (records.flatMap fun cells => writeRecord (cells.map String.toList))

end GuestCases.Csv

namespace GuestCases

namespace Csv

def Position.over (position : Position) (cs : List Char) : Position :=
  cs.foldl (fun place c => place.step (markOfChar c)) position

theorem Position.over_append (position : Position) (cs more : List Char) :
    position.over (cs ++ more) = (position.over cs).over more :=
  List.foldl_append

theorem markOfChar_eq_quote_iff (c : Char) : markOfChar c = .quote ↔ c = '"' := by
  grind [markOfChar]

theorem markOfChar_eq_lineFeed_iff (c : Char) : markOfChar c = .lineFeed ↔ c = '\n' := by
  grind [markOfChar]

theorem Position.line_step (position : Position) (c : Char) :
    (position.step (markOfChar c)).line = position.line + if c = '\n' then 1 else 0 := by
  by_cases hc : c = '\n'
  · rw [Position.step, if_pos ((markOfChar_eq_lineFeed_iff c).mpr hc), if_pos hc]
  · rw [Position.step, if_neg (hc ∘ (markOfChar_eq_lineFeed_iff c).mp), if_neg hc]
    rfl

/-- Only line feeds lead to another line. -/
theorem Position.line_over (position : Position) (cs : List Char) :
    (position.over cs).line = position.line + cs.count '\n' := by
  induction cs generalizing position with
  | nil => rfl
  | cons c rest ih =>
    calc (position.over (c :: rest)).line
        = (position.step (markOfChar c)).line + rest.count '\n' := ih _
      _ = position.line + (rest.count '\n' + if c = '\n' then 1 else 0) := by
          rw [Position.line_step]
          omega
      _ = position.line + (c :: rest).count '\n' := by simp [List.count_cons]

theorem action_quoted (c : Char) (h : c ≠ '"') :
    action .quoted (markOfChar c) = .keep .quoted := by
  have hmark : markOfChar c ≠ .quote := fun hquote => h ((markOfChar_eq_quote_iff c).mp hquote)
  cases hc : markOfChar c <;> simp_all [action]

section Reader

variable (start here : Position) (field : List Char) (fields : List (List Char))

/-- In quotes the reader keeps a cell as it was, up to the quote that ends it. -/
theorem recordsFrom_doubleQuotes (cell rest : List Char) :
    recordsFrom markOfChar .quoted start here field fields (doubleQuotes cell ++ '"' :: rest) =
      recordsFrom markOfChar .quoteSeen start (here.over (doubleQuotes cell ++ ['"']))
        (cell.reverse ++ field) fields rest := by
  induction cell generalizing here field with
  | nil => rfl
  | cons c others ih =>
    by_cases hc : c = '"'
    · subst hc
      have hread := ih ((here.step .quote).step .quote) ('"' :: field)
      simpa [doubleQuotes, recordsFrom, action, markOfChar, Position.over] using hread
    · have hread := ih (here.step (markOfChar c)) (c :: field)
      simpa [doubleQuotes, recordsFrom, action_quoted c hc, hc, Position.over] using hread

/-- Where a field may begin, the reader reads a whole quoted cell. -/
theorem recordsFrom_writeCell (stage : Stage) (hstage : action stage .quote = .drop .quoted)
    (cell rest : List Char) :
    recordsFrom markOfChar stage start here [] fields (writeCell cell ++ rest) =
      recordsFrom markOfChar .quoteSeen start (here.over (writeCell cell)) cell.reverse fields
        rest := by
  have hread := recordsFrom_doubleQuotes start (here.step .quote) [] fields cell rest
  simpa [writeCell, recordsFrom, hstage, markOfChar, Position.over] using hread

theorem writeRecord_singleton (cell : List Char) :
    writeRecord [cell] = writeCell cell ++ ['\n'] := by
  simp [writeRecord]

theorem writeRecord_cons_cons (cell next : List Char) (others : List (List Char)) :
    writeRecord (cell :: next :: others) =
      writeCell cell ++ ',' :: writeRecord (next :: others) := by
  simp [writeRecord]

/-- The reader reads a written record, and looks for the next one behind its line feed. -/
theorem recordsFrom_writeRecord (stage : Stage) (hstage : action stage .quote = .drop .quoted)
    (cells : List (List Char)) (hcells : cells ≠ []) (rest : List Char) :
    recordsFrom markOfChar stage start here [] fields (writeRecord cells ++ rest) =
      ⟨fields.reverse ++ cells, start⟩ ::
        recordsFrom markOfChar .between (here.over (writeRecord cells))
          (here.over (writeRecord cells)) [] [] rest := by
  induction cells generalizing stage here fields with
  | nil => exact absurd rfl hcells
  | cons cell others ih =>
    cases others with
    | nil =>
      rw [writeRecord_singleton, List.append_assoc, recordsFrom_writeCell _ _ _ stage hstage,
        Position.over_append]
      simp [recordsFrom, action, plainAction, markOfChar, Position.over]
    | cons next others =>
      have hread := ih ((here.over (writeCell cell)).step .comma) (cell :: fields) .fieldStart rfl
        (List.cons_ne_nil next others)
      rw [writeRecord_cons_cons, List.append_assoc, recordsFrom_writeCell _ _ _ stage hstage,
        Position.over_append]
      simpa [recordsFrom, action, plainAction, markOfChar, Position.over] using hread

end Reader

/-- The search for each written record begins behind the text of those before it. -/
theorem recordsFrom_flatMap_writeRecord (here : Position) (records : List (List (List Char)))
    (hcells : ∀ cells ∈ records, cells ≠ []) :
    recordsFrom markOfChar .between here here [] [] (records.flatMap writeRecord) =
      records.mapIdx fun number cells =>
        ⟨cells, here.over ((records.take number).flatMap writeRecord)⟩ := by
  induction records generalizing here with
  | nil => rfl
  | cons cells rest ih =>
    obtain ⟨hhead, hrest⟩ := List.forall_mem_cons.mp hcells
    rw [List.flatMap_cons, recordsFrom_writeRecord _ _ _ _ rfl cells hhead, ih _ hrest,
      List.mapIdx_cons]
    simp only [List.take_succ_cons, List.flatMap_cons, Position.over_append]
    rfl

/-- What is written begins with a quote, so there is no mark in front of it. -/
theorem dropMark_write (records : List (List String)) (hcells : ∀ cells ∈ records, cells ≠ []) :
    dropMark (write records).toList = (write records).toList := by
  cases records with
  | nil => rfl
  | cons cells rest =>
    obtain ⟨cell, others, rfl⟩ := List.exists_cons_of_ne_nil (hcells _ List.mem_cons_self)
    cases others <;> simp [write, writeRecord, writeCell, dropMark]

theorem toList_write (records : List (List String)) :
    (write records).toList = (records.map (·.map String.toList)).flatMap writeRecord := by
  simp [write, List.flatMap_map]

/-- Written records are read as they were, each on the line behind the text of those before it. -/
theorem readChars_write (records : List (List String)) (hcells : ∀ cells ∈ records, cells ≠ []) :
    readChars (write records).toList =
      records.mapIdx fun number cells =>
        ⟨cells, 1 + (write (records.take number)).toList.count '\n'⟩ := by
  have hread := recordsFrom_flatMap_writeRecord ⟨1, 0⟩ (records.map (·.map String.toList))
    (by simpa using hcells)
  rw [readChars, dropMark_write records hcells, Nat.sub_self, Csv.records, toList_write, hread]
  apply List.ext_getElem?
  intro number
  simp only [List.getElem?_map, List.getElem?_mapIdx, Option.map_map]
  apply congrArg (Option.map · records[number]?)
  funext cells
  simp [toList_write, Position.line_over]

theorem getElem?_readChars_write (records : List (List String))
    (hcells : ∀ cells ∈ records, cells ≠ []) (number : Nat) :
    (readChars (write records).toList)[number]? = records[number]?.map fun cells =>
      ⟨cells, 1 + (write (records.take number)).toList.count '\n'⟩ := by
  rw [readChars_write records hcells, List.getElem?_mapIdx]

theorem map_cells_readChars_write (records : List (List String))
    (hcells : ∀ cells ∈ records, cells ≠ []) :
    (readChars (write records).toList).map TextRecord.cells = records := by
  apply List.ext_getElem?
  intro number
  rw [List.getElem?_map, getElem?_readChars_write records hcells, Option.map_map]
  exact Option.map_id'

end Csv

namespace Sheet

open Csv

/-- The record at the offset is the header, and the rows are the records behind it. -/
theorem ofRecords_eq_ok (path : String) (offset : Nat) (records : List TextRecord)
    (hoffset : offset < records.length)
    (hwidth : ∀ row ∈ records.drop (offset + 1),
      row.cells.length ≤ records[offset].cells.length) :
    ofRecords path offset records =
      .ok ⟨path, records[offset].cells.map Text.trim, records.drop (offset + 1)⟩ := by
  have hfits : (records.drop (offset + 1)).find? (fun row =>
      records[offset].cells.length < row.cells.length) = none := by
    apply List.find?_eq_none.mpr
    intro row hrow hlong
    exact absurd (hwidth row hrow) (Nat.not_le_of_gt (of_decide_eq_true hlong))
  rw [ofRecords, List.drop_eq_getElem_cons hoffset]
  simp only [hfits]

/-- The text of a row in a column is its trimmed cell, if anything is left of that. -/
theorem cell?_eq_some_iff (row : TextRecord) (position : Nat) (text : String) :
    row.cell? position = some text ↔
      ∃ cell, row.cells[position]? = some cell ∧ Text.trim cell = text ∧ text ≠ "" := by
  simp only [TextRecord.cell?, Option.filter_eq_some_iff, Option.map_eq_some_iff]
  constructor
  · rintro ⟨⟨cell, hcell, rfl⟩, hnonempty⟩
    exact ⟨cell, hcell, rfl, by simpa using hnonempty⟩
  · rintro ⟨cell, hcell, rfl, hnonempty⟩
    exact ⟨⟨cell, hcell, rfl⟩, by simpa using hnonempty⟩

/-- The sheet has the columns that the header names and the written records behind it as rows. -/
structure HoldsWritten (path : String) (offset : Nat) (header : List String)
    (records : List (List String)) (sheet : Sheet) : Prop where
  path_eq : sheet.path = path
  columns_eq : sheet.columns = header.map Text.trim
  rows_eq : sheet.rows.map TextRecord.cells = records.drop (offset + 1)
  /-- The text of a row in a column is what was written there, trimmed, if anything is left. -/
  cell : ∀ number row, sheet.rows[number]? = some row → ∀ position text,
    row.cell? position = some text ↔
      ∃ cells cell, records[offset + 1 + number]? = some cells ∧ cells[position]? = some cell ∧
        Text.trim cell = text ∧ text ≠ ""
  /-- A row is on the line on which its own text begins. -/
  line : ∀ number row, sheet.rows[number]? = some row →
    row.line = 1 + (write (records.take (offset + 1 + number))).toList.count '\n'

/-- Records that are written in full make up the sheet of these records, whatever stands in their
cells. -/
theorem ofText_write (path : String) (records : List (List String)) (offset : Nat)
    (header : List String) (hheader : records[offset]? = some header)
    (hcells : ∀ cells ∈ records, cells ≠ [])
    (hwidth : ∀ cells ∈ records.drop (offset + 1), cells.length ≤ header.length) :
    ∃ sheet, ofText path offset (write records) = .ok sheet ∧
      HoldsWritten path offset header records sheet := by
  have hmap := map_cells_readChars_write records hcells
  have hget := getElem?_readChars_write records hcells
  rw [ofText, dropMark_write records hcells]
  generalize readChars (write records).toList = read at hmap hget
  obtain ⟨hoffset, hfound⟩ : ∃ hoffset : offset < read.length, read[offset].cells = header := by
    rw [← hmap, List.getElem?_map, Option.map_eq_some_iff] at hheader
    obtain ⟨record, hrecord, hcells⟩ := hheader
    obtain ⟨hoffset, rfl⟩ := List.getElem?_eq_some_iff.mp hrecord
    exact ⟨hoffset, hcells⟩
  have hfits : ∀ row ∈ read.drop (offset + 1), row.cells.length ≤ read[offset].cells.length := by
    intro row hrow
    rw [hfound]
    apply hwidth
    rw [← hmap, ← List.map_drop]
    exact List.mem_map_of_mem hrow
  have hrows : ∀ number row, (read.drop (offset + 1))[number]? = some row →
      records[offset + 1 + number]? = some row.cells ∧
        row.line = 1 + (write (records.take (offset + 1 + number))).toList.count '\n' := by
    intro number row hrow
    rw [List.getElem?_drop, hget, Option.map_eq_some_iff] at hrow
    obtain ⟨cells, hcells, rfl⟩ := hrow
    exact ⟨hcells, rfl⟩
  refine ⟨_, ofRecords_eq_ok path offset read hoffset hfits, ?_⟩
  constructor
  · rfl
  · rw [hfound]
  · rw [List.map_drop, hmap]
  · intro number row hrow position text
    rw [cell?_eq_some_iff, (hrows number row hrow).1]
    simp
  · intro number row hrow
    exact (hrows number row hrow).2

/-- Records whose cells hold separators, quotes, line ends, blanks and a mark. -/
def awkwardRecords : List (List String) :=
  [["Title\r\n", "", "", ""],
    ["\uFEFFName ", " \"Reg.\"", "Name"],
    ["a,b\n\"\"c\r", " \n "],
    ["", "\"", "é,"]]

theorem ofText_write_awkward :
    awkwardRecords[1]? = some ["\uFEFFName ", " \"Reg.\"", "Name"] ∧
      (∀ cells ∈ awkwardRecords, cells ≠ []) ∧
      (∀ cells ∈ awkwardRecords.drop 2, cells.length ≤ 3) ∧
      ∃ sheet, ofText "spec.csv" 1 (write awkwardRecords) = .ok sheet ∧
        HoldsWritten "spec.csv" 1 ["\uFEFFName ", " \"Reg.\"", "Name"] awkwardRecords sheet :=
  ⟨rfl, by decide, by decide,
    ofText_write "spec.csv" awkwardRecords 1 _ rfl (by decide) (by decide)⟩

end Sheet

end GuestCases
