import GuestCases.Proofs.WrittenRecords
import Mathlib.Data.List.TakeWhile

/-!
What the records of a text or a file make up. The record at the offset is the header, the records
behind it are the rows, and the first of them that is longer than the header is what is wrong with
the sheet. A name leads to the first header cell that is this name once trimmed: `column` and the
index of names agree on it, and of several candidates the first that is present counts. The main
statement, `assembles_records`, holds for every way in which records come about.
-/

namespace GuestCases

namespace Text

/-- Nothing is left of a text exactly when all of it is blank. -/
theorem trim_eq_empty_iff (s : String) : trim s = "" ↔ ∀ c ∈ s.toList, isBlank c = true := by
  rw [← String.toList_inj, toList_trim, String.toList_empty, trimChars, dropBlankEnd,
    List.reverse_eq_nil_iff, List.dropWhile_eq_nil_iff]
  constructor
  · intro hrest c hc
    rw [← List.takeWhile_append_dropWhile (p := isBlank) (l := s.toList), List.mem_append] at hc
    rcases hc with htake | hdrop
    · exact List.all_eq_true.mp List.all_takeWhile c htake
    · exact hrest c (List.mem_reverse.mpr hdrop)
  · intro hall c hc
    exact hall c ((List.dropWhile_sublist isBlank).subset (List.mem_reverse.mp hc))

end Text

namespace Sheet

open Csv

def IsFirstTooLong (width : Nat) (rows : List TextRecord) (row : TextRecord) : Prop :=
  ∃ before after, rows = before ++ row :: after ∧ width < row.cells.length ∧
    ∀ earlier ∈ before, earlier.cells.length ≤ width

theorem find?_tooLong_eq_some_iff (width : Nat) (rows : List TextRecord) (row : TextRecord) :
    rows.find? (fun row => width < row.cells.length) = some row ↔
      IsFirstTooLong width rows row := by
  rw [List.find?_eq_some_iff_append]
  constructor
  · rintro ⟨hlong, before, after, hsplit, hbefore⟩
    exact ⟨before, after, hsplit, of_decide_eq_true hlong, by simpa using hbefore⟩
  · rintro ⟨before, after, hsplit, hlong, hbefore⟩
    exact ⟨decide_eq_true hlong, before, after, hsplit, by simpa using hbefore⟩

theorem find?_tooLong_eq_none_iff (width : Nat) (rows : List TextRecord) :
    rows.find? (fun row => width < row.cells.length) = none ↔
      ∀ row ∈ rows, row.cells.length ≤ width := by
  simp

section Names

variable (header : TextRecord) (name : String)

def NamedAt (position : Nat) : Prop :=
  ∃ cell, header.cells[position]? = some cell ∧ Text.trim cell = name

def IsFirstNamed (position : Nat) : Prop :=
  NamedAt header name position ∧ ∀ earlier < position, ¬NamedAt header name earlier

theorem namedAt_iff_getElem? (position : Nat) :
    NamedAt header name position ↔ (header.cells.map Text.trim)[position]? = some name := by
  rw [List.getElem?_map, Option.map_eq_some_iff]
  rfl

variable {header} {sheet : Sheet} (hcolumns : sheet.columns = header.cells.map Text.trim)

include hcolumns

theorem position?_eq_some_iff (position : Nat) :
    sheet.position? name = some position ↔ IsFirstNamed header name position := by
  rw [position?, hcolumns, List.idxOf?_eq_some_iff, IsFirstNamed]
  simp only [namedAt_iff_getElem?, List.getElem?_eq_some_iff]
  constructor
  · rintro ⟨hbound, hname, hbefore⟩
    exact ⟨⟨hbound, hname⟩, fun earlier hearlier hnamed => hbefore earlier hearlier hnamed.2⟩
  · rintro ⟨⟨hbound, hname⟩, hbefore⟩
    exact ⟨hbound, hname, fun earlier hearlier hsame =>
      hbefore earlier hearlier ⟨Nat.lt_trans hearlier hbound, hsame⟩⟩

theorem position?_eq_none_iff :
    sheet.position? name = none ↔ ∀ position, ¬NamedAt header name position := by
  rw [position?, hcolumns, List.idxOf?_eq_none_iff, List.mem_iff_getElem?, not_exists]
  simp only [namedAt_iff_getElem?]

end Names

theorem column_eq_ok_iff (sheet : Sheet) (name : String) (position : Nat) :
    sheet.column name = .ok position ↔ sheet.position? name = some position := by
  rw [column]
  cases sheet.position? name <;> simp

theorem column_eq_error_iff (sheet : Sheet) (name : String) (fault : SheetFault) :
    sheet.column name = .error fault ↔
      sheet.position? name = none ∧ fault = .missingColumn sheet.path [name] := by
  rw [column]
  cases sheet.position? name <;> simp [eq_comm]

theorem nameAt_of_position? (sheet : Sheet) (name : String) (position : Nat)
    (h : sheet.position? name = some position) : sheet.nameAt position = name := by
  rw [position?, List.idxOf?_eq_some_iff] at h
  obtain ⟨hbound, hname, -⟩ := h
  rw [nameAt, List.getElem?_eq_getElem hbound, Option.getD_some, hname]

theorem firstColumn_eq_ok_iff (sheet : Sheet) (candidates : List String) (position : Nat) :
    sheet.firstColumn candidates = .ok position ↔
      candidates.findSome? sheet.position? = some position := by
  rw [firstColumn]
  cases candidates.findSome? sheet.position? <;> simp

theorem firstColumn_eq_error_iff (sheet : Sheet) (candidates : List String)
    (fault : SheetFault) :
    sheet.firstColumn candidates = .error fault ↔
      candidates.findSome? sheet.position? = none ∧
        fault = .missingColumn sheet.path candidates := by
  rw [firstColumn]
  cases candidates.findSome? sheet.position? <;> simp [eq_comm]

/-- Among names and their places, counted from `first`, a name leads to its first place. -/
theorem lookup_zipIdx (names : List String) (first : Nat) (name : String) :
    (names.zipIdx first).lookup name = (names.idxOf? name).map (· + first) := by
  induction names generalizing first with
  | nil => rfl
  | cons other rest ih =>
    rw [List.zipIdx_cons, Dictionary.lookup_cons_eq_ite, ih, List.idxOf?_cons]
    by_cases hname : other = name
    · simp [hname]
    · simp [hname, Ne.symm hname, Function.comp_def, Nat.add_comm, Nat.add_left_comm]

/-- The index leads from a name to the position of its first column. -/
theorem lookup_index (sheet : Sheet) (name : String) :
    sheet.index.lookup name = sheet.position? name := by
  have hfind := Dictionary.find?_ofList sheet.columns.zipIdx.reverse name
  rw [Dictionary.find?, List.reverse_reverse, lookup_zipIdx] at hfind
  rw [index, hfind, position?]
  exact Option.map_id'

/-- A row has a text under a name when it has it in the column of that name. -/
theorem mem_namedCells_iff (sheet : Sheet) (row : TextRecord) (name text : String) :
    (name, text) ∈ sheet.namedCells row ↔
      ∃ position, sheet.position? name = some position ∧ row.cell? position = some text := by
  have hindex : ∀ position, (name, position) ∈ sheet.index ↔
      sheet.position? name = some position := fun position => by
    rw [← lookup_index]
    exact (Dictionary.ascending_ofList _).mem_iff name position
  simp only [namedCells, List.mem_filterMap, Option.map_eq_some_iff]
  constructor
  · rintro ⟨⟨found, position⟩, hfound, _, htext, hpair⟩
    cases hpair
    exact ⟨position, (hindex position).mp hfound, htext⟩
  · rintro ⟨position, hposition, htext⟩
    exact ⟨(name, position), (hindex position).mpr hposition, text, htext, rfl⟩

theorem ascending_namedCells (sheet : Sheet) (row : TextRecord) :
    Dictionary.Ascending (sheet.namedCells row) := by
  refine (Dictionary.ascending_ofList _).filterMap _ fun first second hlt => ?_
  simp only [Option.map_eq_some_iff]
  rintro _ ⟨_, -, rfl⟩ _ ⟨_, -, rfl⟩
  exact hlt

/-- A row has no text in a column when it ends before it or its cell there is blank. -/
theorem cell?_eq_none_iff (row : TextRecord) (position : Nat) :
    row.cell? position = none ↔
      row.cells.length ≤ position ∨
        ∃ cell, row.cells[position]? = some cell ∧ ∀ c ∈ cell.toList, Text.isBlank c = true := by
  rw [← List.getElem?_eq_none_iff, TextRecord.cell?]
  cases row.cells[position]? with
  | none => simp
  | some cell => simp [← Text.trim_eq_empty_iff]

structure BindsBy (header : TextRecord) (sheet : Sheet) : Prop where
  column_ok : ∀ name position, sheet.column name = .ok position ↔ IsFirstNamed header name position
  column_error : ∀ name fault, sheet.column name = .error fault ↔
    (∀ position, ¬NamedAt header name position) ∧ fault = .missingColumn sheet.path [name]
  name_at : ∀ name position, sheet.column name = .ok position → sheet.nameAt position = name
  /-- The index of names and the search among the columns agree. -/
  index : ∀ name position,
    sheet.index.lookup name = some position ↔ sheet.column name = .ok position
  /-- The first candidate that the header has counts, wherever its column is. -/
  firstColumn_ok : ∀ candidates position, sheet.firstColumn candidates = .ok position ↔
    ∃ before candidate after, candidates = before ++ candidate :: after ∧
      sheet.column candidate = .ok position ∧
      ∀ earlier ∈ before, ∀ position, ¬NamedAt header earlier position
  firstColumn_error : ∀ candidates fault, sheet.firstColumn candidates = .error fault ↔
    (∀ candidate ∈ candidates, ∀ position, ¬NamedAt header candidate position) ∧
      fault = .missingColumn sheet.path candidates
  /-- The text of a row in a column is its trimmed cell. -/
  cell_some : ∀ row ∈ sheet.rows, ∀ position text, row.cell? position = some text ↔
    ∃ cell, row.cells[position]? = some cell ∧ Text.trim cell = text ∧ text ≠ ""
  /-- There is no text beyond the end of a row or in a blank cell. -/
  cell_none : ∀ row ∈ sheet.rows, ∀ position, row.cell? position = none ↔
    row.cells.length ≤ position ∨
      ∃ cell, row.cells[position]? = some cell ∧ ∀ c ∈ cell.toList, Text.isBlank c = true
  /-- The texts of a row by name are those in the columns of the names. -/
  named : ∀ row ∈ sheet.rows, ∀ name text, (name, text) ∈ sheet.namedCells row ↔
    ∃ position, sheet.column name = .ok position ∧ row.cell? position = some text
  named_ascending : ∀ row ∈ sheet.rows, Dictionary.Ascending (sheet.namedCells row)

theorem bindsBy_of_columns_eq {header : TextRecord} {sheet : Sheet}
    (hcolumns : sheet.columns = header.cells.map Text.trim) : BindsBy header sheet := by
  have hsome := fun name => position?_eq_some_iff name hcolumns
  have hnone := fun name => position?_eq_none_iff name hcolumns
  constructor
  case column_ok =>
    intro name position
    rw [column_eq_ok_iff, hsome]
  case column_error =>
    intro name fault
    rw [column_eq_error_iff, hnone]
  case name_at =>
    intro name position h
    exact nameAt_of_position? sheet name position ((column_eq_ok_iff sheet name position).mp h)
  case index =>
    intro name position
    rw [lookup_index, column_eq_ok_iff]
  case firstColumn_ok =>
    intro candidates position
    rw [firstColumn_eq_ok_iff, List.findSome?_eq_some_iff]
    simp only [hnone, column_eq_ok_iff]
  case firstColumn_error =>
    intro candidates fault
    rw [firstColumn_eq_error_iff, List.findSome?_eq_none_iff]
    simp only [hnone]
  case cell_some => exact fun row _ position text => cell?_eq_some_iff row position text
  case cell_none => exact fun row _ position => cell?_eq_none_iff row position
  case named =>
    intro row _ name text
    simp only [mem_namedCells_iff, column_eq_ok_iff]
  case named_ascending => exact fun row _ => ascending_namedCells sheet row

/-- What becomes of the records: no header, a row that is too long, or the sheet. -/
structure Assembles (path : String) (offset : Nat) (records : List TextRecord)
    (outcome : Except SheetFault Sheet) : Prop where
  /-- There is no header when the records end before it; otherwise the first row with more cells
  than the header is reported, with its line and both numbers of cells. Nothing else fails. -/
  error : ∀ fault, outcome = .error fault ↔
    (records.length ≤ offset ∧ fault = .missingHeader path offset) ∨
      ∃ header row, records[offset]? = some header ∧
        IsFirstTooLong header.cells.length (records.drop (offset + 1)) row ∧
        fault = .malformed path row.line (.tooLong header.cells.length row.cells.length)
  /-- All records behind the header are rows, in order and with their lines. -/
  ok : ∀ sheet, outcome = .ok sheet ↔
    ∃ header, records[offset]? = some header ∧
      (∀ row ∈ records.drop (offset + 1), row.cells.length ≤ header.cells.length) ∧
      sheet = ⟨path, header.cells.map Text.trim, records.drop (offset + 1)⟩
  binds : ∀ sheet header, outcome = .ok sheet → records[offset]? = some header →
    BindsBy header sheet

section Outcome

variable (path : String) (offset : Nat) (records : List TextRecord)

theorem ofRecords_eq_missingHeader (hshort : records.length ≤ offset) :
    ofRecords path offset records = .error (.missingHeader path offset) := by
  rw [ofRecords, List.drop_eq_nil_iff.mpr hshort]

theorem ofRecords_eq_tooLong (header row : TextRecord) (hheader : records[offset]? = some header)
    (hrow : IsFirstTooLong header.cells.length (records.drop (offset + 1)) row) :
    ofRecords path offset records =
      .error (.malformed path row.line (.tooLong header.cells.length row.cells.length)) := by
  obtain ⟨hoffset, rfl⟩ := List.getElem?_eq_some_iff.mp hheader
  rw [ofRecords, List.drop_eq_getElem_cons hoffset]
  simp only [(find?_tooLong_eq_some_iff _ _ row).mpr hrow]

/-- There is no header, or all rows fit it, or some row is the first that does not. -/
theorem header_cases : records.length ≤ offset ∨
    ∃ header, records[offset]? = some header ∧
      ((∀ row ∈ records.drop (offset + 1), row.cells.length ≤ header.cells.length) ∨
        ∃ row, IsFirstTooLong header.cells.length (records.drop (offset + 1)) row) := by
  cases hheader : records[offset]? with
  | none => exact .inl (List.getElem?_eq_none_iff.mp hheader)
  | some header =>
    refine .inr ⟨header, rfl, ?_⟩
    cases hfind : (records.drop (offset + 1)).find? fun row =>
      header.cells.length < row.cells.length with
    | none => exact .inl ((find?_tooLong_eq_none_iff _ _).mp hfind)
    | some row => exact .inr ⟨row, (find?_tooLong_eq_some_iff _ _ row).mp hfind⟩

theorem ofRecords_eq_ok_iff (sheet : Sheet) :
    ofRecords path offset records = .ok sheet ↔
      ∃ header, records[offset]? = some header ∧
        (∀ row ∈ records.drop (offset + 1), row.cells.length ≤ header.cells.length) ∧
        sheet = ⟨path, header.cells.map Text.trim, records.drop (offset + 1)⟩ := by
  have hfitting : ∀ header, records[offset]? = some header →
      (∀ row ∈ records.drop (offset + 1), row.cells.length ≤ header.cells.length) →
      ofRecords path offset records =
        .ok ⟨path, header.cells.map Text.trim, records.drop (offset + 1)⟩ := by
    intro header hheader hfits
    obtain ⟨hoffset, rfl⟩ := List.getElem?_eq_some_iff.mp hheader
    exact ofRecords_eq_ok path offset records hoffset hfits
  constructor
  · intro hok
    rcases header_cases offset records with hshort | ⟨header, hheader, hfits | ⟨row, hrow⟩⟩
    · rw [ofRecords_eq_missingHeader path offset records hshort] at hok
      cases hok
    · rw [hfitting header hheader hfits] at hok
      cases hok
      exact ⟨header, hheader, hfits, rfl⟩
    · rw [ofRecords_eq_tooLong path offset records header row hheader hrow] at hok
      cases hok
  · rintro ⟨header, hheader, hfits, rfl⟩
    exact hfitting header hheader hfits

theorem ofRecords_eq_error_iff (fault : SheetFault) :
    ofRecords path offset records = .error fault ↔
      (records.length ≤ offset ∧ fault = .missingHeader path offset) ∨
        ∃ header row, records[offset]? = some header ∧
          IsFirstTooLong header.cells.length (records.drop (offset + 1)) row ∧
          fault = .malformed path row.line (.tooLong header.cells.length row.cells.length) := by
  constructor
  · intro herror
    rcases header_cases offset records with hshort | ⟨header, hheader, hfits | ⟨row, hrow⟩⟩
    · rw [ofRecords_eq_missingHeader path offset records hshort] at herror
      cases herror
      exact .inl ⟨hshort, rfl⟩
    · have hok := (ofRecords_eq_ok_iff path offset records _).mpr ⟨header, hheader, hfits, rfl⟩
      rw [hok] at herror
      cases herror
    · rw [ofRecords_eq_tooLong path offset records header row hheader hrow] at herror
      cases herror
      exact .inr ⟨header, row, hheader, hrow, rfl⟩
  · rintro (⟨hshort, rfl⟩ | ⟨header, row, hheader, hrow, rfl⟩)
    · exact ofRecords_eq_missingHeader path offset records hshort
    · exact ofRecords_eq_tooLong path offset records header row hheader hrow

theorem assembles_ofRecords :
    Assembles path offset records (ofRecords path offset records) := by
  refine ⟨ofRecords_eq_error_iff path offset records, ofRecords_eq_ok_iff path offset records, ?_⟩
  intro sheet header hok hheader
  obtain ⟨found, hfound, -, rfl⟩ := (ofRecords_eq_ok_iff path offset records sheet).mp hok
  obtain rfl : header = found := Option.some.inj (hheader.symm.trans hfound)
  exact bindsBy_of_columns_eq rfl

end Outcome

/-- The records of a text or of the bytes of a file make up a sheet exactly when there is a header
among them that no later record exceeds, and the sheet then has all that the records say. -/
theorem assembles_records (path : String) (offset : Nat) :
    (∀ records, Assembles path offset records (ofRecords path offset records)) ∧
      (∀ text, Assembles path offset (readChars (dropMark text.toList))
        (ofText path offset text)) ∧
      ∀ bytes records, readBytes (dropMarkBytes bytes.toList) = .ok records →
        Assembles path offset records (ofBytes path offset bytes) := by
  have hrecords := assembles_ofRecords path offset
  refine ⟨hrecords, fun text => hrecords _, ?_⟩
  intro bytes records hread
  rw [ofBytes, hread]
  exact hrecords records

/-- A title, a header that has a name twice, and two rows, one of them shorter than the header. -/
def raggedRecords : List TextRecord :=
  [⟨["Note"], 1⟩, ⟨[" Name ", "Reg.", "Name"], 2⟩, ⟨["1", " "], 3⟩, ⟨["", "2", "3"], 4⟩]

def raggedBytes : ByteArray :=
  ⟨#[0x4E, 0x6F, 0x74, 0x65, 0x0A, 0x20, 0x4E, 0x61, 0x6D, 0x65, 0x20, 0x2C, 0x52, 0x65, 0x67,
    0x2E, 0x2C, 0x4E, 0x61, 0x6D, 0x65, 0x0A, 0x31, 0x2C, 0x20, 0x0A, 0x2C, 0x32, 0x2C, 0x33,
    0x0A]⟩

theorem readBytes_raggedBytes :
    readBytes (dropMarkBytes raggedBytes.toList) = .ok raggedRecords := by
  decide +kernel

theorem assembles_records_ragged :
    readBytes (dropMarkBytes raggedBytes.toList) = .ok raggedRecords ∧
      ofBytes "spec.csv" 0 raggedBytes = .error (.malformed "spec.csv" 2 (.tooLong 1 3)) ∧
      Assembles "spec.csv" 1 raggedRecords (ofBytes "spec.csv" 1 raggedBytes) := by
  have htitle := (assembles_records "spec.csv" 0).2.2 raggedBytes _ readBytes_raggedBytes
  refine ⟨readBytes_raggedBytes, (htitle.error _).mpr (.inr ?_),
    (assembles_records "spec.csv" 1).2.2 raggedBytes _ readBytes_raggedBytes⟩
  exact ⟨⟨["Note"], 1⟩, ⟨[" Name ", "Reg.", "Name"], 2⟩, rfl, ⟨[], _, rfl, by decide, by simp⟩, rfl⟩

end Sheet

end GuestCases
