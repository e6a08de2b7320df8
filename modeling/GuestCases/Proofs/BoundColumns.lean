import GuestCases.Cpuid.Rows
import GuestCases.Msr.Rows
import GuestCases.Proofs.SheetAssembly
import Mathlib.Data.List.Forall2

/-!
Which column each cell of a row is read from. A sheet has rows exactly when its header names every
column that is needed, under one of its names when it has several. Then there is a row for each
record, in order, and each part of it is the text of the record in the column of that part.
-/

namespace GuestCases

namespace Sheet

def IsColumn (sheet : Sheet) (name : String) (position : Nat) : Prop :=
  sheet.columns[position]? = some name ∧ ∀ earlier < position, sheet.columns[earlier]? ≠ some name

def IsFirstColumn (sheet : Sheet) (candidates : List String) (position : Nat) : Prop :=
  ∃ before candidate after, candidates = before ++ candidate :: after ∧
    sheet.IsColumn candidate position ∧ ∀ earlier ∈ before, earlier ∉ sheet.columns

/-- The record has the trimmed text at the position, or it ends before it or is blank there. -/
def HasText (record : Csv.TextRecord) (position : Nat) : Option String → Prop
  | some text => ∃ cell, record.cells[position]? = some cell ∧ Text.trim cell = text ∧ text ≠ ""
  | none => record.cells.length ≤ position ∨
      ∃ cell, record.cells[position]? = some cell ∧ ∀ c ∈ cell.toList, Text.isBlank c = true

def InColumn (sheet : Sheet) (name : String) (record : Csv.TextRecord) (text : Option String) :
    Prop :=
  ∃ position, sheet.IsColumn name position ∧ HasText record position text

def InFirstColumn (sheet : Sheet) (candidates : List String) (record : Csv.TextRecord)
    (text : Option String) : Prop :=
  ∃ position, sheet.IsFirstColumn candidates position ∧ HasText record position text

theorem position?_eq_some_iff_isColumn (sheet : Sheet) (name : String) (position : Nat) :
    sheet.position? name = some position ↔ sheet.IsColumn name position := by
  rw [position?, List.idxOf?_eq_some_iff, IsColumn, List.getElem?_eq_some_iff]
  constructor
  · rintro ⟨hbound, hname, hbefore⟩
    refine ⟨⟨hbound, hname⟩, fun earlier hearlier hsame => ?_⟩
    exact hbefore earlier hearlier (List.getElem?_eq_some_iff.mp hsame).2
  · rintro ⟨⟨hbound, hname⟩, hbefore⟩
    exact ⟨hbound, hname, fun earlier hearlier hsame =>
      hbefore earlier hearlier (List.getElem?_eq_some_iff.mpr ⟨_, hsame⟩)⟩

theorem column_eq_ok_iff_isColumn (sheet : Sheet) (name : String) (position : Nat) :
    sheet.column name = .ok position ↔ sheet.IsColumn name position := by
  rw [column_eq_ok_iff, position?_eq_some_iff_isColumn]

theorem firstColumn_eq_ok_iff_isFirstColumn (sheet : Sheet) (candidates : List String)
    (position : Nat) :
    sheet.firstColumn candidates = .ok position ↔ sheet.IsFirstColumn candidates position := by
  have hnone : ∀ name, sheet.position? name = none ↔ name ∉ sheet.columns :=
    fun name => List.idxOf?_eq_none_iff
  rw [firstColumn_eq_ok_iff, List.findSome?_eq_some_iff]
  simp only [position?_eq_some_iff_isColumn, hnone, IsFirstColumn]

theorem cell?_eq_iff (record : Csv.TextRecord) (position : Nat) (text : Option String) :
    record.cell? position = text ↔ HasText record position text := by
  cases text with
  | none => exact cell?_eq_none_iff record position
  | some text => exact cell?_eq_some_iff record position text

theorem exists_column_iff (sheet : Sheet) (name : String) :
    (∃ position, sheet.column name = .ok position) ↔ name ∈ sheet.columns := by
  rw [← not_iff_not, ← List.idxOf?_eq_none_iff, column]
  change _ ↔ sheet.position? name = none
  cases sheet.position? name <;> simp

theorem exists_firstColumn_iff (sheet : Sheet) (candidates : List String) :
    (∃ position, sheet.firstColumn candidates = .ok position) ↔
      ∃ candidate ∈ candidates, candidate ∈ sheet.columns := by
  rw [← not_iff_not]
  have hnone : candidates.findSome? sheet.position? = none ↔
      ∀ candidate ∈ candidates, candidate ∉ sheet.columns := by
    rw [List.findSome?_eq_none_iff]
    exact forall₂_congr fun candidate _ => List.idxOf?_eq_none_iff
  have hmissing : ¬(∃ position, sheet.firstColumn candidates = .ok position) ↔
      candidates.findSome? sheet.position? = none := by
    rw [firstColumn]
    cases candidates.findSome? sheet.position? <;> simp
  rw [hmissing, hnone]
  simp

/-- The text in a column is that of the cell at its position. -/
theorem inColumn_iff {sheet : Sheet} {name : String} {position : Nat}
    (h : sheet.column name = .ok position) (record : Csv.TextRecord) (text : Option String) :
    sheet.InColumn name record text ↔ text = record.cell? position := by
  simp only [InColumn, ← column_eq_ok_iff_isColumn, h, Except.ok.injEq, exists_eq_left',
    ← cell?_eq_iff, eq_comm]

theorem inFirstColumn_iff {sheet : Sheet} {candidates : List String} {position : Nat}
    (h : sheet.firstColumn candidates = .ok position) (record : Csv.TextRecord)
    (text : Option String) :
    sheet.InFirstColumn candidates record text ↔ text = record.cell? position := by
  simp only [InFirstColumn, ← firstColumn_eq_ok_iff_isFirstColumn, h, Except.ok.injEq,
    exists_eq_left', ← cell?_eq_iff, eq_comm]

end Sheet

theorem exists_of_forall₂ {α β : Type} {R : α → β → Prop} {firsts : List α} {seconds : List β}
    (h : List.Forall₂ R firsts seconds) (second : β) (hsecond : second ∈ seconds) :
    ∃ first ∈ firsts, R first second := by
  induction h with
  | nil => cases hsecond
  | cons hhead _ ih =>
    rcases List.mem_cons.mp hsecond with rfl | hrest
    · exact ⟨_, List.mem_cons_self, hhead⟩
    · obtain ⟨first, hfirst, hrelated⟩ := ih hrest
      exact ⟨first, List.mem_cons_of_mem _ hfirst, hrelated⟩

theorem forall₂_iff_map_eq {α β : Type} {R : α → β → Prop} (f : α → β)
    (h : ∀ first second, R first second ↔ second = f first) (firsts : List α) (seconds : List β) :
    List.Forall₂ R firsts seconds ↔ firsts.map f = seconds := by
  have hrelation : R = fun first second => f first = second := by
    funext first second
    exact propext ((h first second).trans eq_comm)
  rw [hrelation, ← List.forall₂_map_left_iff, List.forall₂_eq_eq_eq]

/-- Rows are made when the columns are bound, one for each record. -/
theorem rows_eq_ok_iff {ε β ρ τ : Type} {bound? : Except ε β} {rowOf : β → τ → ρ}
    {IsRow : τ → ρ → Prop} {records : List τ} {rows : List ρ}
    (h : ∀ bound, bound? = .ok bound → ∀ record row, IsRow record row ↔ row = rowOf bound record) :
    bound?.map (fun bound => records.map (rowOf bound)) = .ok rows ↔
      (∃ bound, bound? = .ok bound) ∧ List.Forall₂ IsRow records rows := by
  rw [Attempt.map_eq_ok_iff]
  constructor
  · rintro ⟨bound, hbound, hrows⟩
    exact ⟨⟨bound, hbound⟩, (forall₂_iff_map_eq _ (h bound hbound) _ _).mpr hrows⟩
  · rintro ⟨⟨bound, hbound⟩, hrows⟩
    exact ⟨bound, hbound, (forall₂_iff_map_eq _ (h bound hbound) _ _).mp hrows⟩

namespace Msr

structure Columns.Bind (columns : Columns) (sheet : Sheet) : Prop where
  name : nameColumn ∈ sheet.columns
  first : firstColumn ∈ sheet.columns
  last : lastColumn ∈ sheet.columns
  size : sizeColumn ∈ sheet.columns
  read : ∃ candidate ∈ columns.read, candidate ∈ sheet.columns
  write : ∃ candidate ∈ columns.write, candidate ∈ sheet.columns

structure IsRowOf (columns : Columns) (sheet : Sheet) (record : Csv.TextRecord) (row : Row) :
    Prop where
  line : row.line = record.line
  name : sheet.InColumn nameColumn record row.name
  first : sheet.InColumn firstColumn record row.first
  last : sheet.InColumn lastColumn record row.last
  size : sheet.InColumn sizeColumn record row.size
  read : sheet.InFirstColumn columns.read record row.read
  write : sheet.InFirstColumn columns.write record row.write

theorem bind_eq_ok_iff (columns : Columns) (sheet : Sheet) (bound : Bound) :
    columns.bind sheet = .ok bound ↔ sheet.column nameColumn = .ok bound.name ∧
      sheet.column firstColumn = .ok bound.first ∧ sheet.column lastColumn = .ok bound.last ∧
      sheet.column sizeColumn = .ok bound.size ∧
      sheet.firstColumn columns.read = .ok bound.read ∧
      sheet.firstColumn columns.write = .ok bound.write := by
  simp only [Columns.bind, bind, Attempt.bind_eq_ok_iff, pure, Except.pure, Except.ok.injEq]
  constructor
  · rintro ⟨name, hname, first, hfirst, last, hlast, size, hsize, read, hread, write, hwrite, rfl⟩
    exact ⟨hname, hfirst, hlast, hsize, hread, hwrite⟩
  · rintro ⟨hname, hfirst, hlast, hsize, hread, hwrite⟩
    exact ⟨_, hname, _, hfirst, _, hlast, _, hsize, _, hread, _, hwrite, rfl⟩

theorem exists_bind_iff (columns : Columns) (sheet : Sheet) :
    (∃ bound, columns.bind sheet = .ok bound) ↔ columns.Bind sheet := by
  simp only [bind_eq_ok_iff]
  constructor
  · rintro ⟨bound, hname, hfirst, hlast, hsize, hread, hwrite⟩
    exact {
      name := (sheet.exists_column_iff _).mp ⟨_, hname⟩
      first := (sheet.exists_column_iff _).mp ⟨_, hfirst⟩
      last := (sheet.exists_column_iff _).mp ⟨_, hlast⟩
      size := (sheet.exists_column_iff _).mp ⟨_, hsize⟩
      read := (sheet.exists_firstColumn_iff _).mp ⟨_, hread⟩
      write := (sheet.exists_firstColumn_iff _).mp ⟨_, hwrite⟩
    }
  · rintro ⟨hname, hfirst, hlast, hsize, hread, hwrite⟩
    obtain ⟨name, hname⟩ := (sheet.exists_column_iff _).mpr hname
    obtain ⟨first, hfirst⟩ := (sheet.exists_column_iff _).mpr hfirst
    obtain ⟨last, hlast⟩ := (sheet.exists_column_iff _).mpr hlast
    obtain ⟨size, hsize⟩ := (sheet.exists_column_iff _).mpr hsize
    obtain ⟨read, hread⟩ := (sheet.exists_firstColumn_iff _).mpr hread
    obtain ⟨write, hwrite⟩ := (sheet.exists_firstColumn_iff _).mpr hwrite
    exact ⟨⟨name, first, last, size, read, write⟩, hname, hfirst, hlast, hsize, hread, hwrite⟩

theorem isRowOf_iff {columns : Columns} {sheet : Sheet} {bound : Bound}
    (h : columns.bind sheet = .ok bound) (record : Csv.TextRecord) (row : Row) :
    IsRowOf columns sheet record row ↔ row = bound.row record := by
  obtain ⟨hname, hfirst, hlast, hsize, hread, hwrite⟩ := (bind_eq_ok_iff columns sheet bound).mp h
  obtain ⟨line, name, first, last, size, read, write⟩ := row
  simp only [Bound.row, Row.mk.injEq, ← Sheet.inColumn_iff hname, ← Sheet.inColumn_iff hfirst,
    ← Sheet.inColumn_iff hlast, ← Sheet.inColumn_iff hsize, ← Sheet.inFirstColumn_iff hread,
    ← Sheet.inFirstColumn_iff hwrite]
  constructor
  · rintro ⟨hline, hname, hfirst, hlast, hsize, hread, hwrite⟩
    exact ⟨hline, hname, hfirst, hlast, hsize, hread, hwrite⟩
  · rintro ⟨hline, hname, hfirst, hlast, hsize, hread, hwrite⟩
    exact ⟨hline, hname, hfirst, hlast, hsize, hread, hwrite⟩

/-- A sheet has rows when its columns are there, and each row is a record in these columns. -/
theorem rowsOf_eq_ok_iff (columns : Columns) (sheet : Sheet) (rows : List Row) :
    rowsOf columns sheet = .ok rows ↔
      columns.Bind sheet ∧ List.Forall₂ (IsRowOf columns sheet) sheet.rows rows := by
  rw [← exists_bind_iff]
  exact rows_eq_ok_iff fun bound hbound => isRowOf_iff hbound

theorem exists_rowsOf (columns : Columns) (sheet : Sheet) (h : columns.Bind sheet) :
    ∃ rows, rowsOf columns sheet = .ok rows := by
  obtain ⟨bound, hbound⟩ := (exists_bind_iff columns sheet).mpr h
  exact ⟨sheet.rows.map bound.row, by rw [rowsOf, hbound, Except.map]⟩

end Msr

namespace Cpuid

structure Columns.Bind (columns : Columns) (sheet : Sheet) : Prop where
  name : columns.fieldName ∈ sheet.columns
  register : registerColumn ∈ sheet.columns
  msb : msbColumn ∈ sheet.columns
  lsb : lsbColumn ∈ sheet.columns
  size : sizeColumn ∈ sheet.columns
  virtType : ∃ candidate ∈ columns.virtType, candidate ∈ sheet.columns
  virtDetail : ∃ candidate ∈ columns.virtDetail, candidate ∈ sheet.columns

structure IsRowOf (columns : Columns) (sheet : Sheet) (record : Csv.TextRecord) (row : Row) :
    Prop where
  line : row.line = record.line
  name : sheet.InColumn columns.fieldName record row.name
  register : sheet.InColumn registerColumn record row.register
  msb : sheet.InColumn msbColumn record row.msb
  lsb : sheet.InColumn lsbColumn record row.lsb
  size : sheet.InColumn sizeColumn record row.size
  virtType : sheet.InFirstColumn columns.virtType record row.virtType
  virtDetail : sheet.InFirstColumn columns.virtDetail record row.virtDetail

theorem bind_eq_ok_iff (columns : Columns) (sheet : Sheet) (bound : Bound) :
    columns.bind sheet = .ok bound ↔ sheet.column columns.fieldName = .ok bound.name ∧
      sheet.column registerColumn = .ok bound.register ∧
      sheet.column msbColumn = .ok bound.msb ∧ sheet.column lsbColumn = .ok bound.lsb ∧
      sheet.column sizeColumn = .ok bound.size ∧
      sheet.firstColumn columns.virtType = .ok bound.virtType ∧
      sheet.firstColumn columns.virtDetail = .ok bound.virtDetail := by
  simp only [Columns.bind, bind, Attempt.bind_eq_ok_iff, pure, Except.pure, Except.ok.injEq]
  constructor
  · rintro ⟨name, hname, register, hregister, msb, hmsb, lsb, hlsb, size, hsize, virtType, htype,
      virtDetail, hdetail, rfl⟩
    exact ⟨hname, hregister, hmsb, hlsb, hsize, htype, hdetail⟩
  · rintro ⟨hname, hregister, hmsb, hlsb, hsize, htype, hdetail⟩
    exact ⟨_, hname, _, hregister, _, hmsb, _, hlsb, _, hsize, _, htype, _, hdetail, rfl⟩

theorem exists_bind_iff (columns : Columns) (sheet : Sheet) :
    (∃ bound, columns.bind sheet = .ok bound) ↔ columns.Bind sheet := by
  simp only [bind_eq_ok_iff]
  constructor
  · rintro ⟨bound, hname, hregister, hmsb, hlsb, hsize, htype, hdetail⟩
    exact {
      name := (sheet.exists_column_iff _).mp ⟨_, hname⟩
      register := (sheet.exists_column_iff _).mp ⟨_, hregister⟩
      msb := (sheet.exists_column_iff _).mp ⟨_, hmsb⟩
      lsb := (sheet.exists_column_iff _).mp ⟨_, hlsb⟩
      size := (sheet.exists_column_iff _).mp ⟨_, hsize⟩
      virtType := (sheet.exists_firstColumn_iff _).mp ⟨_, htype⟩
      virtDetail := (sheet.exists_firstColumn_iff _).mp ⟨_, hdetail⟩
    }
  · rintro ⟨hname, hregister, hmsb, hlsb, hsize, htype, hdetail⟩
    obtain ⟨name, hname⟩ := (sheet.exists_column_iff _).mpr hname
    obtain ⟨register, hregister⟩ := (sheet.exists_column_iff _).mpr hregister
    obtain ⟨msb, hmsb⟩ := (sheet.exists_column_iff _).mpr hmsb
    obtain ⟨lsb, hlsb⟩ := (sheet.exists_column_iff _).mpr hlsb
    obtain ⟨size, hsize⟩ := (sheet.exists_column_iff _).mpr hsize
    obtain ⟨virtType, htype⟩ := (sheet.exists_firstColumn_iff _).mpr htype
    obtain ⟨virtDetail, hdetail⟩ := (sheet.exists_firstColumn_iff _).mpr hdetail
    exact ⟨⟨name, register, msb, lsb, size, virtType, virtDetail⟩, hname, hregister, hmsb, hlsb,
      hsize, htype, hdetail⟩

theorem isRowOf_iff {columns : Columns} {sheet : Sheet} {bound : Bound}
    (h : columns.bind sheet = .ok bound) (record : Csv.TextRecord) (row : Row) :
    IsRowOf columns sheet record row ↔ row = bound.row record := by
  obtain ⟨hname, hregister, hmsb, hlsb, hsize, htype, hdetail⟩ :=
    (bind_eq_ok_iff columns sheet bound).mp h
  obtain ⟨line, name, register, msb, lsb, size, virtType, virtDetail⟩ := row
  simp only [Bound.row, Row.mk.injEq, ← Sheet.inColumn_iff hname, ← Sheet.inColumn_iff hregister,
    ← Sheet.inColumn_iff hmsb, ← Sheet.inColumn_iff hlsb, ← Sheet.inColumn_iff hsize,
    ← Sheet.inFirstColumn_iff htype, ← Sheet.inFirstColumn_iff hdetail]
  constructor
  · rintro ⟨hline, hname, hregister, hmsb, hlsb, hsize, htype, hdetail⟩
    exact ⟨hline, hname, hregister, hmsb, hlsb, hsize, htype, hdetail⟩
  · rintro ⟨hline, hname, hregister, hmsb, hlsb, hsize, htype, hdetail⟩
    exact ⟨hline, hname, hregister, hmsb, hlsb, hsize, htype, hdetail⟩

/-- A sheet has rows when its columns are there, and each row is a record in these columns. -/
theorem rowsOf_eq_ok_iff (columns : Columns) (sheet : Sheet) (rows : List Row) :
    rowsOf columns sheet = .ok rows ↔
      columns.Bind sheet ∧ List.Forall₂ (IsRowOf columns sheet) sheet.rows rows := by
  rw [← exists_bind_iff]
  exact rows_eq_ok_iff fun bound hbound => isRowOf_iff hbound

end Cpuid

end GuestCases
