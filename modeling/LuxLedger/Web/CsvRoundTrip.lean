/-
  Web/CsvRoundTrip.lean --- a statement file written in any legal way is imported as
  the records it was written from.
-/
import LuxLedger.Web.CsvGrammar
import Mathlib.Data.List.Forall2

set_option autoImplicit false

namespace LuxLedger.Web.Csv

open Javascript Relational

/-! ## What is written -/

/-- A record that an import accepts. -/
structure SourceRecord (dates : Dates) where
  id : JsString
  amountMinor : JsString
  currency : JsString
  reference : JsString
  date : JsString
  description : Option JsString
  instant : Int
  id_nonblank : id.trim ≠ []
  amount_positive : isPositiveInteger amountMinor = true
  currency_nonblank : currency.trim ≠ []
  reference_nonblank : reference.trim ≠ []
  date_parses : dates.parse date = some instant

namespace SourceRecord

variable {dates : Dates}

/-- What a column of a given name holds; `none` for a column the record says nothing of. -/
def field? (r : SourceRecord dates) (name : JsString) : Option JsString :=
  if name = units "id" then some r.id
  else if name = units "amount_minor" then some r.amountMinor
  else if name = units "currency" then some r.currency
  else if name = units "reference" then some r.reference
  else if name = units "date" then some r.date
  else if name = units "description" then some (r.description.getD [])
  else none

/-- The record as imported from row `i`. -/
def imported (r : SourceRecord dates) (i : Nat) : StatementRecord where
  id := r.id
  amountMinor := r.amountMinor
  currency := r.currency
  reference := r.reference
  date := dates.toISOString r.instant
  description := r.description.filter fun d => !d.isEmpty
  sourceLine := i + 2

/-- A row with the fields of the record in the columns of their names. -/
structure Fills (names : List JsString) (r : SourceRecord dates) (values : List JsString) :
    Prop where
  length_eq : values.length = names.length
  field_eq : ∀ name value text, (name, value) ∈ names.zip values → r.field? name = some text →
    value = text

end SourceRecord

/-- A file with a header row, and below it the rows of the records.  Blank records may
stand anywhere, and the file chooses the quoting and the line ends. -/
structure StatementFile (dates : Dates) where
  file : File
  header : List JsString
  rows : List (List JsString)
  records : List (SourceRecord dates)
  rows_eq : file.rows = header :: rows
  fills : List.Forall₂ (SourceRecord.Fills (header.map JsString.trim)) records rows
  /-- a column's name is its header cell less the white space around it -/
  names_nodup : (header.map JsString.trim).Nodup
  required_mem : ∀ name ∈ requiredNames, units name ∈ header.map JsString.trim
  description_mem : ∀ r ∈ records, r.description.getD [] ≠ [] →
    units "description" ∈ header.map JsString.trim
  records_pos : 0 < records.length
  records_le : records.length ≤ 1000

/-! ## Reading a row -/

section Rows

variable {dates : Dates} {names values : List JsString} {r : SourceRecord dates}

theorem lookup_zip {name : JsString} (hname : name ∈ names)
    (hlength : values.length = names.length) :
    ∃ value, (names.zip values).lookup name = some value ∧ (name, value) ∈ names.zip values := by
  induction names generalizing values with
  | nil => exact absurd hname List.not_mem_nil
  | cons first names ih =>
      cases values with
      | nil => cases hlength
      | cons value values =>
          rw [List.zip_cons_cons, List.lookup_cons]
          by_cases heq : name = first
          · rw [heq, beq_self_eq_true]
            exact ⟨value, rfl, List.mem_cons_self⟩
          · rw [beq_eq_false_iff_ne.mpr heq]
            obtain ⟨found, hfound, hmem⟩ :=
              ih ((List.mem_cons.mp hname).resolve_left heq) (Nat.succ.inj hlength)
            exact ⟨found, hfound, List.mem_cons_of_mem _ hmem⟩

theorem lookup_zip_none {name : JsString} (hname : name ∉ names) :
    (names.zip values).lookup name = none := by
  rw [List.lookup_eq_none_iff]
  rintro ⟨key, value⟩ hmem
  rw [bne_iff_ne]
  rintro rfl
  exact hname (List.of_mem_zip hmem).1

theorem column?_of_fills (h : r.Fills names values) {name : String} {text : JsString}
    (hname : units name ∈ names) (hfield : r.field? (units name) = some text) :
    column? names values name = some text := by
  obtain ⟨value, hlookup, hmem⟩ := lookup_zip hname h.length_eq
  rw [column?, hlookup, h.field_eq _ _ _ hmem hfield]

theorem column_of_fills (h : r.Fills names values) {name : String} {text : JsString}
    (hname : units name ∈ names) (hfield : r.field? (units name) = some text) :
    column names values name = text := by
  rw [column, column?_of_fills h hname hfield, Option.getD_some]

/-- The description is dropped when it is empty, or when no column has it. -/
theorem description_of_fills (h : r.Fills names values)
    (hdescription : r.description.getD [] ≠ [] → units "description" ∈ names) :
    (column? names values "description").filter (fun d => !d.isEmpty) =
      r.description.filter fun d => !d.isEmpty := by
  have hempty : r.description.getD [] = [] → r.description.filter (fun d => !d.isEmpty) = none := by
    intro hnil
    cases hd : r.description with
    | none => rfl
    | some d =>
        rw [hd, Option.getD_some] at hnil
        rw [hnil]
        rfl
  by_cases hname : units "description" ∈ names
  · have hfield : r.field? (units "description") = some (r.description.getD []) := by
      have hother : ∀ name ∈ requiredNames, units "description" ≠ units name := by decide
      simp only [SourceRecord.field?, if_neg (hother "id" (by decide)),
        if_neg (hother "amount_minor" (by decide)), if_neg (hother "currency" (by decide)),
        if_neg (hother "reference" (by decide)), if_neg (hother "date" (by decide)), if_true]
    rw [column?_of_fills h hname hfield]
    cases hd : r.description with
    | none => rfl
    | some d => rfl
  · have hnil : r.description.getD [] = [] := by
      by_contra hne
      exact hname (hdescription hne)
    rw [hempty hnil, column?, lookup_zip_none hname]
    rfl

theorem parseRow_of_fills (h : r.Fills names values)
    (hrequired : ∀ name ∈ requiredNames, units name ∈ names)
    (hdescription : r.description.getD [] ≠ [] → units "description" ∈ names) (i : Nat) :
    parseRow dates names i values = .ok (r.imported i) := by
  have hid : column names values "id" = r.id :=
    column_of_fills h (hrequired "id" (by decide)) rfl
  have hamount : column names values "amount_minor" = r.amountMinor :=
    column_of_fills h (hrequired "amount_minor" (by decide)) rfl
  have hcurrency : column names values "currency" = r.currency :=
    column_of_fills h (hrequired "currency" (by decide)) rfl
  have hreference : column names values "reference" = r.reference :=
    column_of_fills h (hrequired "reference" (by decide)) rfl
  have hdate : column names values "date" = r.date :=
    column_of_fills h (hrequired "date" (by decide)) rfl
  have hpresent : ¬ (r.id.trim = [] ∨ r.reference.trim = [] ∨ r.currency.trim = []) := by
    rintro (hblank | hblank | hblank)
    · exact r.id_nonblank hblank
    · exact r.reference_nonblank hblank
    · exact r.currency_nonblank hblank
  rw [parseRow, hid, hamount, hcurrency, hreference, hdate, if_neg (not_not.mpr h.length_eq),
    if_neg (by simp [r.amount_positive]), if_neg hpresent, r.date_parses,
    description_of_fills h hdescription]
  rfl

theorem parseRows_of_fills {records : List (SourceRecord dates)} {rows : List (List JsString)}
    (h : List.Forall₂ (SourceRecord.Fills names) records rows)
    (hrequired : ∀ name ∈ requiredNames, units name ∈ names)
    (hdescription : ∀ r ∈ records, r.description.getD [] ≠ [] → units "description" ∈ names)
    (i : Nat) :
    parseRows dates names i rows = .ok (records.mapIdx fun k r => r.imported (i + k)) := by
  induction h generalizing i with
  | nil => rfl
  | @cons r values records rows hfills _ ih =>
      have hrest := ih (fun r' hr' => hdescription r' (List.mem_cons_of_mem _ hr')) (i + 1)
      rw [parseRows, parseRow_of_fills hfills hrequired (hdescription r List.mem_cons_self),
        hrest, List.mapIdx_cons]
      simp only [bind, Except.bind, pure, Except.pure, Nat.add_zero, Nat.add_right_comm _ 1,
        Nat.add_assoc]

end Rows

/-! ## The byte order mark

A text that starts with a mark of its own loses it; it was white space in front of
the first field, which is trimmed there. -/

theorem isKept_eq (row : List JsString) :
    isKept row = (row.map JsString.trim).any fun v => !v.isEmpty := by
  rw [isKept, List.any_map]
  rfl

theorem stripMark_of_ne {u : CodeUnit} {rest : JsString} (h : u ≠ byteOrderMark) :
    stripMark (u :: rest) = u :: rest := if_neg h

theorem Cell.dropMark {cell : Cell} {tail text : JsString} (htail : tail.head? ≠ some byteOrderMark)
    (h : cell.text ++ tail = byteOrderMark :: text) :
    ∃ cell' : Cell, cell'.text ++ tail = text ∧ cell'.value.trim = cell.value.trim := by
  cases cell with
  | bare value plain =>
      cases value with
      | nil =>
          rw [Cell.text, List.nil_append] at h
          exact absurd (h ▸ rfl) htail
      | cons u value =>
          rw [Cell.text, List.cons_append, List.cons.injEq] at h
          refine ⟨.bare value fun v hv => plain v (List.mem_cons_of_mem _ hv), h.2, ?_⟩
          rw [Cell.value, Cell.value, h.1, JsString.trim_cons_of_white (by decide)]
  | quoted value =>
      rw [Cell.text, List.cons_append, List.cons_append, List.cons.injEq] at h
      exact absurd h.1 (by decide)

theorem Record.dropMark {r : Record} {tail text : JsString}
    (htail : tail.head? ≠ some byteOrderMark) (h : r.text ++ tail = byteOrderMark :: text) :
    ∃ r' : Record, r'.text ++ tail = text ∧
      r'.values.map JsString.trim = r.values.map JsString.trim := by
  obtain ⟨init, final⟩ := r
  cases init with
  | nil =>
      obtain ⟨cell, htext, hvalue⟩ := Cell.dropMark htail h
      refine ⟨⟨[], cell⟩, htext, ?_⟩
      rw [Record.values, Record.values, List.map_nil, List.nil_append, List.nil_append,
        List.map_singleton, List.map_singleton, hvalue]
  | cons first init =>
      have hsplit : ∀ cell : Cell, Record.text ⟨cell :: init, final⟩ ++ tail =
          cell.text ++ (comma :: (Record.text ⟨init, final⟩ ++ tail)) := by
        intro cell
        simp only [Record.text, cellsText, List.flatMap_cons, List.append_assoc,
          List.cons_append, List.nil_append]
      have hcomma : (comma :: (Record.text ⟨init, final⟩ ++ tail)).head? ≠ some byteOrderMark :=
        fun hhead => absurd (Option.some.inj hhead) (by decide)
      rw [hsplit] at h
      obtain ⟨cell, htext, hvalue⟩ := Cell.dropMark hcomma h
      refine ⟨⟨cell :: init, final⟩, (hsplit cell).trans htext, ?_⟩
      rw [Record.values, Record.values, List.map_cons, List.map_cons, List.cons_append,
        List.cons_append, List.map_cons, List.map_cons, hvalue]

/-- The rows without the mark: the first may differ in white space. -/
theorem File.dropMark {file : File} {text : JsString} {header : List JsString}
    {rows : List (List JsString)} (h : file.text = byteOrderMark :: text)
    (hrows : file.rows = header :: rows) :
    ∃ file' : File, file'.text = text ∧ ∃ header', file'.rows = header' :: rows ∧
      header'.map JsString.trim = header.map JsString.trim := by
  have hkept : ∀ {values values' : List JsString} {others : List (List JsString)},
      values'.map JsString.trim = values.map JsString.trim →
      (if isKept values then [values] else []) ++ others = header :: rows →
      ∃ header', (if isKept values' then [values'] else []) ++ others = header' :: rows ∧
        header'.map JsString.trim = header.map JsString.trim := by
    intro values values' others htrim hsplit
    rw [isKept_eq, htrim, ← isKept_eq]
    split_ifs at hsplit ⊢
    · rw [List.singleton_append, List.cons.injEq] at hsplit
      exact ⟨values', by rw [List.singleton_append, hsplit.2], htrim.trans (by rw [hsplit.1])⟩
    · exact ⟨header, hsplit, rfl⟩
  obtain ⟨lines, last⟩ := file
  cases lines with
  | nil =>
      have htext : last.text ++ [] = byteOrderMark :: text := by
        rw [List.append_nil]
        exact h
      obtain ⟨last', htext', htrim⟩ := Record.dropMark (by decide) htext
      rw [File.rows_nil] at hrows
      obtain ⟨header', hheader, heq⟩ := hkept htrim ((List.append_nil _).trans hrows)
      refine ⟨⟨[], last'⟩, (List.append_nil _).symm.trans htext', header', ?_, heq⟩
      rw [File.rows_nil]
      exact (List.append_nil _).symm.trans hheader
  | cons line lines =>
      obtain ⟨r, e⟩ := line
      rw [File.text_cons] at h
      obtain ⟨r', htext', htrim⟩ :=
        Record.dropMark (head?_lineEnd_ne (by decide) (by decide) e) h
      rw [File.rows_cons] at hrows
      obtain ⟨header', hheader, heq⟩ := hkept htrim hrows
      refine ⟨⟨(r', e) :: lines, last⟩, (File.text_cons _ _ _ _).trans htext', header', ?_, heq⟩
      rw [File.rows_cons]
      exact hheader

/-! ## The import -/

/-- A table of the records, whatever white space stands around the column names. -/
theorem parseTable_of_file {dates : Dates} (s : StatementFile dates) {header : List JsString}
    (hheader : header.map JsString.trim = s.header.map JsString.trim) :
    parseTable dates (header :: s.rows) = .ok (s.records.mapIdx fun i r => r.imported i) := by
  have hlength : s.rows.length = s.records.length := s.fills.length_eq.symm
  have hcount : ¬ (s.rows = [] ∨ 1000 < s.rows.length) := by
    rintro (hempty | hmany)
    · have hpos := s.records_pos
      rw [← hlength, hempty] at hpos
      exact Nat.lt_irrefl 0 hpos
    · rw [hlength] at hmany
      exact not_lt.mpr s.records_le hmany
  have hnames : ¬ ((∃ name ∈ requiredNames, units name ∉ s.header.map JsString.trim) ∨
      ¬ (s.header.map JsString.trim).Nodup) := by
    rintro (⟨name, hname, habsent⟩ | hdup)
    · exact habsent (s.required_mem name hname)
    · exact hdup s.names_nodup
  have hrecords := parseRows_of_fills s.fills s.required_mem s.description_mem 0
  simp only [Nat.zero_add] at hrecords
  unfold parseTable
  simp only [List.head?_cons, Option.getD_some, List.tail_cons, hheader]
  rw [if_neg hnames, if_neg hcount, hrecords]

/-- However a file of one to a thousand records is written, with or without a byte order
mark, importing it returns the records in order. -/
theorem parseStatementCsv_of_file (dates : Dates) (s : StatementFile dates) (input : JsString)
    (hinput : input = s.file.text ∨ input = byteOrderMark :: s.file.text)
    (hsize : (stripMark input).length ≤ 1000000) :
    parseStatementCsv dates input = .ok (s.records.mapIdx fun i r => r.imported i) := by
  obtain ⟨file, htext, header, hrows, hheader⟩ : ∃ file : File, file.text = stripMark input ∧
      ∃ header, file.rows = header :: s.rows ∧
        header.map JsString.trim = s.header.map JsString.trim := by
    rcases hinput with rfl | rfl
    · cases hfile : s.file.text with
      | nil => exact ⟨s.file, hfile, s.header, s.rows_eq, rfl⟩
      | cons u text =>
          by_cases hmark : u = byteOrderMark
          · obtain ⟨file, htext, hrows⟩ := File.dropMark (hmark ▸ hfile) s.rows_eq
            exact ⟨file, by rw [htext, hmark]; rfl, hrows⟩
          · exact ⟨s.file, by rw [stripMark_of_ne hmark, hfile], s.header, s.rows_eq, rfl⟩
    · exact ⟨s.file, rfl, s.header, s.rows_eq, rfl⟩
  rw [parseStatementCsv, tokenise_file htext hsize, hrows]
  exact parseTable_of_file s hheader

section Sample

/-- A field of the characters of a literal, quoted only when it has to be. -/
def Cell.literal (s : String) : Cell :=
  if h : (units s).all isPlain = true then .bare (units s) (List.all_eq_true.mp h)
  else .quoted (units s)

/-- Dates that know the first day of 2024. -/
def newYear : Dates where
  parse s := if s = units "2024-01-01" then some 1704067200000 else none
  toISOString n := if n = 1704067200000 then units "2024-01-01T00:00:00.000Z" else []

/-- A record. -/
def sampleRecord : SourceRecord newYear where
  id := units "a"
  amountMinor := units "25"
  currency := units "USD"
  reference := units " r,\n1"
  date := units "2024-01-01"
  description := none
  instant := 1704067200000
  id_nonblank := by decide +kernel
  amount_positive := by decide +kernel
  currency_nonblank := by decide +kernel
  reference_nonblank := by decide +kernel
  date_parses := by decide +kernel

/-- A header with a padded and a quoted name, a blank line, and one record. -/
def sampleFile : File where
  lines :=
    [(⟨[.literal "date", .literal " id", .quoted (units "currency"), .literal "note",
        .literal "amount_minor"], .literal "reference"⟩, .crlf),
      (⟨[.quoted (units " ")], .literal ""⟩, .lf),
      (⟨[.literal "2024-01-01", .quoted (units "a"), .literal "USD", .literal "",
        .literal "25"], .quoted (units " r,\n1")⟩, .cr)]
  last := ⟨[], .literal ""⟩

/-- A statement with it. -/
def sampleStatement : StatementFile newYear where
  file := sampleFile
  header := [units "date", units " id", units "currency", units "note", units "amount_minor",
    units "reference"]
  rows := [[units "2024-01-01", units "a", units "USD", [], units "25", units " r,\n1"]]
  records := [sampleRecord]
  rows_eq := by decide +kernel
  fills := by
    refine .cons ⟨rfl, ?_⟩ .nil
    intro name value text hmem hfield
    have hall : ∀ p ∈ ([units "date", units " id", units "currency", units "note",
          units "amount_minor", units "reference"].map JsString.trim).zip
          [units "2024-01-01", units "a", units "USD", [], units "25", units " r,\n1"],
        sampleRecord.field? p.1 = some p.2 ∨ sampleRecord.field? p.1 = none := by
      decide +kernel
    rcases hall _ hmem with hsome | hnone
    · exact Option.some.inj (hsome.symm.trans hfield)
    · cases hnone.symm.trans hfield
  names_nodup := by decide +kernel
  required_mem := by decide +kernel
  description_mem := fun r hr hne => absurd (List.mem_singleton.mp hr ▸ rfl) hne
  records_pos := by decide +kernel
  records_le := by decide +kernel

theorem parseStatementCsv_sample :
    parseStatementCsv newYear (byteOrderMark :: sampleFile.text) =
      .ok [{ id := units "a", amountMinor := units "25", currency := units "USD",
             reference := units " r,\n1", date := units "2024-01-01T00:00:00.000Z",
             description := none, sourceLine := 2 }] := by
  have himport := parseStatementCsv_of_file newYear sampleStatement
    (byteOrderMark :: sampleFile.text) (Or.inr rfl) (by decide +kernel)
  exact himport.trans (by rfl)

end Sample

end LuxLedger.Web.Csv
