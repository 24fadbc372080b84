/-
  Web/CsvGrammar.lean --- the grammar of a statement file, and that the scanner
  accepts exactly its texts.

  A file is given as a syntax tree: cells with their quoting, records of cells, the
  line end behind each record but the last.  Its text is what the tree prints.
-/
import LuxLedger.Web.StatementCsv

set_option autoImplicit false

namespace LuxLedger.Web.Csv

open Javascript

/-! ## Syntax trees -/

/-- Not a quote, a comma or a line break. -/
def isPlain (u : CodeUnit) : Bool :=
  u ≠ quote && u ≠ comma && u ≠ lineFeed && u ≠ carriageReturn

/-- A field: bare, or quoted with any content. -/
inductive Cell where
  | bare (value : JsString) (plain : ∀ u ∈ value, isPlain u = true)
  | quoted (value : JsString)

/-- A quoted field doubles its quotes. -/
def doubled (value : JsString) : JsString :=
  value.flatMap fun u => if u = quote then [quote, quote] else [u]

namespace Cell

/-- The cell is quoted. -/
def isQuoted : Cell → Bool
  | .bare _ _ => false
  | .quoted _ => true

/-- The value of a cell. -/
def value : Cell → JsString
  | .bare value _ => value
  | .quoted value => value

/-- The cell, written. -/
def text : Cell → JsString
  | .bare value _ => value
  | .quoted value => quote :: doubled value ++ [quote]

end Cell

/-- The cells of a record: those before a comma, and the last. -/
structure Record where
  init : List Cell
  final : Cell

/-- Cells with a comma behind each. -/
def cellsText (cells : List Cell) : JsString := cells.flatMap fun c => c.text ++ [comma]

namespace Record

/-- The record, written. -/
def text (r : Record) : JsString := cellsText r.init ++ r.final.text

/-- The values of a record. -/
def values (r : Record) : List JsString := r.init.map Cell.value ++ [r.final.value]

end Record

/-- What ends a line. -/
inductive LineEnd where
  | crlf
  | lf
  | cr
  deriving DecidableEq, Repr

/-- The line end, written. -/
def LineEnd.text : LineEnd → JsString
  | .crlf => [carriageReturn, lineFeed]
  | .lf => [lineFeed]
  | .cr => [carriageReturn]

/-- A file: records with their line ends, and the record behind the last line end. -/
structure File where
  lines : List (Record × LineEnd)
  last : Record

/-- Records with their line ends. -/
def linesText (lines : List (Record × LineEnd)) : JsString :=
  lines.flatMap fun l => l.1.text ++ l.2.text

namespace File

/-- The file, written. -/
def text (file : File) : JsString := linesText file.lines ++ file.last.text

/-- The records of a file. -/
def records (file : File) : List Record := file.lines.map (·.1) ++ [file.last]

/-- The rows of a file: its records less the blank ones. -/
def rows (file : File) : List (List JsString) :=
  (file.records.map Record.values).filter isKept

theorem rows_cons (r : Record) (e : LineEnd) (lines : List (Record × LineEnd)) (last : Record) :
    rows ⟨(r, e) :: lines, last⟩ =
      (if isKept r.values then [r.values] else []) ++ rows ⟨lines, last⟩ := by
  rw [rows, records, List.map_cons, List.cons_append, List.map_cons, List.filter_cons, rows,
    records]
  split_ifs <;> rfl

theorem rows_nil (last : Record) :
    rows ⟨[], last⟩ = if isKept last.values then [last.values] else [] := by
  rw [rows, records, List.map_nil, List.nil_append, List.map_singleton, List.filter_cons,
    List.filter_nil]

theorem text_cons (r : Record) (e : LineEnd) (lines : List (Record × LineEnd)) (last : Record) :
    text ⟨(r, e) :: lines, last⟩ = r.text ++ (e.text ++ text ⟨lines, last⟩) := by
  simp only [text, linesText, List.flatMap_cons, List.append_assoc]

end File

/-! ## One turn of the scanner -/

section Steps

variable {scan : Scan} {c : CodeUnit} {rest : JsString} {rows : List (List JsString)}

theorem isPlain_iff : isPlain c = true ↔
    c ≠ quote ∧ c ≠ comma ∧ c ≠ lineFeed ∧ c ≠ carriageReturn := by
  simp only [isPlain, Bool.and_eq_true, decide_eq_true_eq, and_assoc]

theorem scanLoop_of_step {scan' : Scan} {skip : Bool}
    (h : scanStep scan c rest.head? = .ok (scan', skip)) :
    scanLoop scan false (c :: rest) = scanLoop scan' skip rest := by
  rw [scanLoop, if_neg Bool.false_ne_true, h]

theorem scanLoop_skip : scanLoop scan true (c :: rest) = scanLoop scan false rest := by
  rw [scanLoop, if_pos rfl]

theorem scanLoop_plain (hquoted : scan.quoted = false) (hclosed : scan.closed = false)
    (hc : isPlain c = true) :
    scanLoop scan false (c :: rest) =
      scanLoop { scan with field := scan.field ++ [c] } false rest := by
  obtain ⟨hquote, hcomma, hline, hreturn⟩ := isPlain_iff.mp hc
  apply scanLoop_of_step
  rw [scanStep, if_neg (by simp [hquoted]), if_neg (fun h => hquote h.1), if_neg hcomma,
    if_neg (by simp [hline, hreturn]), if_neg (by simp [hclosed, hquote])]

theorem scanLoop_open (hquoted : scan.quoted = false) (hclosed : scan.closed = false)
    (hfield : scan.field = []) :
    scanLoop scan false (quote :: rest) = scanLoop { scan with quoted := true } false rest := by
  apply scanLoop_of_step
  rw [scanStep, if_neg (by simp [hquoted]), if_pos ⟨rfl, hfield, hclosed⟩]

theorem scanLoop_doubled (hquoted : scan.quoted = true) :
    scanLoop scan false (quote :: quote :: rest) =
      scanLoop { scan with field := scan.field ++ [quote] } false rest := by
  have hstep : scanStep scan quote (some quote) =
      .ok ({ scan with field := scan.field ++ [quote] }, true) := by
    rw [scanStep, if_pos hquoted, if_pos ⟨rfl, rfl⟩]
  exact (scanLoop_of_step hstep).trans scanLoop_skip

theorem scanLoop_close (hquoted : scan.quoted = true) (hrest : rest.head? ≠ some quote) :
    scanLoop scan false (quote :: rest) =
      scanLoop { scan with quoted := false, closed := true } false rest := by
  apply scanLoop_of_step
  rw [scanStep, if_pos hquoted, if_neg (fun h => hrest h.2), if_pos rfl]

theorem scanLoop_inside (hquoted : scan.quoted = true) (hc : c ≠ quote) :
    scanLoop scan false (c :: rest) =
      scanLoop { scan with field := scan.field ++ [c] } false rest := by
  apply scanLoop_of_step
  rw [scanStep, if_pos hquoted, if_neg (fun h => hc h.1), if_neg hc]

theorem scanLoop_comma (hquoted : scan.quoted = false) :
    scanLoop scan false (comma :: rest) =
      scanLoop { scan with row := scan.row ++ [scan.field], field := [], closed := false } false
        rest := by
  apply scanLoop_of_step
  rw [scanStep, if_neg (by simp [hquoted]), if_neg (fun h => absurd h.1 (by decide)), if_pos rfl]

theorem scanStep_lineBreak {next : Option CodeUnit} (hquoted : scan.quoted = false)
    (hc : c = lineFeed ∨ c = carriageReturn) :
    scanStep scan c next = .ok (.fresh scan.rowsWithCurrent,
      decide (c = carriageReturn ∧ next = some lineFeed)) := by
  have hquote : c ≠ quote := by rcases hc with rfl | rfl <;> decide
  have hcomma : c ≠ comma := by rcases hc with rfl | rfl <;> decide
  rw [scanStep, if_neg (by simp [hquoted]), if_neg (fun h => hquote h.1), if_neg hcomma, if_pos hc]
  simp only [hquoted, Scan.fresh]

theorem scanLoop_lineFeed (hquoted : scan.quoted = false) :
    scanLoop scan false (lineFeed :: rest) =
      scanLoop (.fresh scan.rowsWithCurrent) false rest := by
  apply scanLoop_of_step
  rw [scanStep_lineBreak hquoted (Or.inl rfl), decide_eq_false fun h => absurd h.1 (by decide)]

/-- A line feed in front of a record is a blank record. -/
theorem scanLoop_fresh_lineFeed :
    scanLoop (.fresh rows) false (lineFeed :: rest) = scanLoop (.fresh rows) false rest := by
  rw [scanLoop_lineFeed rfl]
  rfl

/-- A carriage return ends a record, whether or not a line feed belongs to it. -/
theorem scanLoop_carriageReturn (hquoted : scan.quoted = false) :
    scanLoop scan false (carriageReturn :: rest) =
      scanLoop (.fresh scan.rowsWithCurrent) false rest := by
  rw [scanLoop_of_step (scanStep_lineBreak hquoted (Or.inr rfl))]
  by_cases hnext : rest.head? = some lineFeed
  · rw [decide_eq_true ⟨rfl, hnext⟩]
    cases rest with
    | nil => cases hnext
    | cons u rest =>
        rw [List.head?_cons, Option.some.injEq] at hnext
        rw [hnext, scanLoop_skip, scanLoop_fresh_lineFeed]
  · rw [decide_eq_false fun h => hnext h.2]

theorem scanLoop_lineEnd (hquoted : scan.quoted = false) (e : LineEnd) :
    scanLoop scan false (e.text ++ rest) = scanLoop (.fresh scan.rowsWithCurrent) false rest := by
  cases e with
  | crlf =>
      rw [LineEnd.text, List.cons_append, List.cons_append, List.nil_append,
        scanLoop_carriageReturn hquoted, scanLoop_fresh_lineFeed]
  | lf => exact scanLoop_lineFeed hquoted
  | cr => exact scanLoop_carriageReturn hquoted

end Steps

/-! ## The scanner reads what a tree prints -/

/-- The scanner before a cell. -/
def Scan.atCell (rows : List (List JsString)) (row : List JsString) : Scan :=
  ⟨rows, row, [], false, false⟩

/-- The scanner behind a cell. -/
def Scan.behind (rows : List (List JsString)) (row : List JsString) (cell : Cell) : Scan :=
  ⟨rows, row, cell.value, false, cell.isQuoted⟩

section Cells

variable {rows : List (List JsString)} {row : List JsString} {rest : JsString}

theorem scanLoop_bare {text : JsString} (hplain : ∀ u ∈ text, isPlain u = true)
    (field : JsString) :
    scanLoop ⟨rows, row, field, false, false⟩ false (text ++ rest) =
      scanLoop ⟨rows, row, field ++ text, false, false⟩ false rest := by
  induction text generalizing field with
  | nil => rw [List.nil_append, List.append_nil]
  | cons u text ih =>
      rw [List.cons_append, scanLoop_plain rfl rfl (hplain u List.mem_cons_self)]
      have hrest := ih (fun v hv => hplain v (List.mem_cons_of_mem _ hv)) (field ++ [u])
      rw [List.append_assoc, List.singleton_append] at hrest
      exact hrest

theorem scanLoop_quotedText (hrest : rest.head? ≠ some quote) (value field : JsString) :
    scanLoop ⟨rows, row, field, true, false⟩ false (doubled value ++ quote :: rest) =
      scanLoop ⟨rows, row, field ++ value, false, true⟩ false rest := by
  induction value generalizing field with
  | nil =>
      rw [doubled, List.flatMap_nil, List.nil_append, scanLoop_close rfl hrest, List.append_nil]
  | cons u value ih =>
      have hnext := ih (field ++ [u])
      rw [List.append_assoc, List.singleton_append] at hnext
      rw [doubled, List.flatMap_cons, ← doubled, List.append_assoc]
      split_ifs with hquote
      · rw [List.cons_append, List.cons_append, List.nil_append, scanLoop_doubled rfl]
        rw [hquote] at hnext ⊢
        exact hnext
      · rw [List.singleton_append, scanLoop_inside rfl hquote]
        exact hnext

theorem scanLoop_cell (cell : Cell) (hrest : rest.head? ≠ some quote) :
    scanLoop (.atCell rows row) false (cell.text ++ rest) =
      scanLoop (.behind rows row cell) false rest := by
  cases cell with
  | bare value plain => exact scanLoop_bare plain []
  | quoted value =>
      rw [Cell.text, List.cons_append, List.cons_append, List.append_assoc, List.singleton_append,
        scanLoop_open rfl rfl rfl]
      exact scanLoop_quotedText hrest value []

theorem head?_comma_ne_quote : (comma :: rest).head? ≠ some quote :=
  fun h => absurd (Option.some.inj h) (by decide)

theorem scanLoop_cells (cells : List Cell) :
    scanLoop (.atCell rows row) false (cellsText cells ++ rest) =
      scanLoop (.atCell rows (row ++ cells.map Cell.value)) false rest := by
  induction cells generalizing row with
  | nil => rw [cellsText, List.flatMap_nil, List.nil_append, List.map_nil, List.append_nil]
  | cons cell cells ih =>
      rw [cellsText, List.flatMap_cons, ← cellsText, List.append_assoc, List.append_assoc,
        List.singleton_append, scanLoop_cell cell head?_comma_ne_quote, scanLoop_comma rfl,
        List.map_cons]
      have hrest : scanLoop (.atCell rows (row ++ [cell.value])) false (cellsText cells ++ rest) =
          _ := ih
      rw [List.append_assoc, List.singleton_append] at hrest
      exact hrest

theorem scanLoop_record (r : Record) (hrest : rest.head? ≠ some quote) :
    scanLoop (.fresh rows) false (r.text ++ rest) =
      scanLoop (.behind rows (r.init.map Cell.value) r.final) false rest := by
  rw [Record.text, List.append_assoc]
  exact (scanLoop_cells r.init).trans (scanLoop_cell r.final hrest)

theorem rowsWithCurrent_behind (r : Record) :
    (Scan.behind rows (r.init.map Cell.value) r.final).rowsWithCurrent =
      rows ++ if isKept r.values then [r.values] else [] := by
  unfold Scan.rowsWithCurrent Scan.behind
  dsimp only
  rw [← Record.values]
  split_ifs
  · rfl
  · exact (List.append_nil rows).symm

theorem head?_lineEnd_ne {u : CodeUnit} (hreturn : carriageReturn ≠ u) (hline : lineFeed ≠ u)
    (e : LineEnd) : (e.text ++ rest).head? ≠ some u := by
  cases e with
  | crlf => exact fun h => hreturn (Option.some.inj h)
  | lf => exact fun h => hline (Option.some.inj h)
  | cr => exact fun h => hreturn (Option.some.inj h)

end Cells

/-- Scanning what a file prints ends behind its last record, with its rows. -/
theorem scanLoop_file (file : File) (rows : List (List JsString)) :
    ∃ scan, scanLoop (.fresh rows) false file.text = .ok scan ∧ scan.quoted = false ∧
      scan.rowsWithCurrent = rows ++ file.rows := by
  obtain ⟨lines, last⟩ := file
  induction lines generalizing rows with
  | nil =>
      have hscan : scanLoop (.fresh rows) false (last.text ++ []) = _ :=
        scanLoop_record last (by decide)
      rw [List.append_nil] at hscan
      refine ⟨_, hscan.trans rfl, rfl, ?_⟩
      rw [rowsWithCurrent_behind, File.rows_nil]
  | cons line lines ih =>
      obtain ⟨r, e⟩ := line
      obtain ⟨scan, hscan, hquoted, hrows⟩ :=
        ih (Scan.behind rows (r.init.map Cell.value) r.final).rowsWithCurrent
      refine ⟨scan, ?_, hquoted, ?_⟩
      · rw [File.text_cons, scanLoop_record r (head?_lineEnd_ne (by decide) (by decide) e),
          scanLoop_lineEnd rfl]
        exact hscan
      · rw [hrows, rowsWithCurrent_behind, File.rows_cons, List.append_assoc]

/-! ## The scanner accepts only what a tree prints -/

/-- What a turn of the scanner can do. -/
inductive Turn (scan : Scan) : CodeUnit → Option CodeUnit → Scan → Bool → Prop where
  | doubled (hquoted : scan.quoted = true) :
      Turn scan quote (some quote) { scan with field := scan.field ++ [quote] } true
  | close (next : Option CodeUnit) (hquoted : scan.quoted = true) :
      Turn scan quote next { scan with quoted := false, closed := true } false
  | inside (c : CodeUnit) (next : Option CodeUnit) (hquoted : scan.quoted = true)
      (hc : c ≠ quote) : Turn scan c next { scan with field := scan.field ++ [c] } false
  | opened (next : Option CodeUnit) (hquoted : scan.quoted = false) (hfield : scan.field = [])
      (hclosed : scan.closed = false) : Turn scan quote next { scan with quoted := true } false
  | comma (next : Option CodeUnit) (hquoted : scan.quoted = false) :
      Turn scan comma next
        { scan with row := scan.row ++ [scan.field], field := [], closed := false } false
  | lineBreak (c : CodeUnit) (next : Option CodeUnit) (hquoted : scan.quoted = false)
      (hc : c = lineFeed ∨ c = carriageReturn) :
      Turn scan c next (.fresh scan.rowsWithCurrent)
        (decide (c = carriageReturn ∧ next = some lineFeed))
  | plain (c : CodeUnit) (next : Option CodeUnit) (hquoted : scan.quoted = false)
      (hclosed : scan.closed = false) (hc : isPlain c = true) :
      Turn scan c next { scan with field := scan.field ++ [c] } false

theorem scanStep_cases {scan scan' : Scan} {c : CodeUnit} {next : Option CodeUnit} {skip : Bool}
    (h : scanStep scan c next = .ok (scan', skip)) : Turn scan c next scan' skip := by
  cases hquoted : scan.quoted with
  | true =>
      rw [scanStep, if_pos hquoted] at h
      split_ifs at h with hdoubled hquote
      · obtain ⟨rfl, rfl⟩ := hdoubled
        cases h
        exact .doubled hquoted
      · cases h
        exact hquote ▸ .close next hquoted
      · cases h
        exact .inside c next hquoted hquote
  | false =>
      by_cases hline : c = lineFeed ∨ c = carriageReturn
      · rw [scanStep_lineBreak hquoted hline] at h
        cases h
        exact .lineBreak c next hquoted hline
      · rw [scanStep, if_neg (by simp [hquoted])] at h
        split_ifs at h with hopen hcomma hbad
        · obtain ⟨rfl, hfield, hclosed⟩ := hopen
          cases h
          exact .opened next hquoted hfield hclosed
        · cases h
          exact hcomma ▸ .comma next hquoted
        · cases h
          rw [not_or, Bool.not_eq_true] at hbad
          rw [not_or] at hline
          exact .plain c next hquoted hbad.1
            (isPlain_iff.mpr ⟨hbad.2, hcomma, hline.1, hline.2⟩)

/-- The text of the current record so far: complete cells, and a part of the next one. -/
inductive Reading : Scan → List Cell → JsString → Prop where
  | bare {rows : List (List JsString)} {cells : List Cell} {field : JsString}
      (plain : ∀ u ∈ field, isPlain u = true) :
      Reading ⟨rows, cells.map Cell.value, field, false, false⟩ cells field
  | inside {rows : List (List JsString)} {cells : List Cell} {field : JsString} :
      Reading ⟨rows, cells.map Cell.value, field, true, false⟩ cells (quote :: doubled field)
  | closed {rows : List (List JsString)} {cells : List Cell} {field : JsString} :
      Reading ⟨rows, cells.map Cell.value, field, false, true⟩ cells
        (quote :: doubled field ++ [quote])

theorem Reading.fresh (rows : List (List JsString)) : Reading (.fresh rows) [] [] := by
  have hempty : ∀ u ∈ ([] : JsString), isPlain u = true := fun _ hu => absurd hu List.not_mem_nil
  exact @Reading.bare rows [] [] hempty

/-- Outside quotes the part is a cell. -/
theorem Reading.cell {scan : Scan} {cells : List Cell} {part : JsString}
    (h : Reading scan cells part) (hquoted : scan.quoted = false) :
    ∃ cell : Cell, cell.text = part ∧ cell.value = scan.field ∧
      scan.row = cells.map Cell.value := by
  cases h with
  | bare plain => exact ⟨.bare _ plain, rfl, rfl, rfl⟩
  | inside => cases hquoted
  | closed => exact ⟨.quoted _, rfl, rfl, rfl⟩

/-- Outside quotes the record could end here. -/
theorem Reading.record {scan : Scan} {cells : List Cell} {part : JsString}
    (h : Reading scan cells part) (hquoted : scan.quoted = false) :
    ∃ r : Record, r.text = cellsText cells ++ part ∧
      scan.rowsWithCurrent = scan.rows ++ if isKept r.values then [r.values] else [] := by
  obtain ⟨cell, htext, hvalue, hrow⟩ := h.cell hquoted
  refine ⟨⟨cells, cell⟩, by rw [Record.text, htext], ?_⟩
  rw [Scan.rowsWithCurrent, hrow, ← hvalue, Record.values]
  split_ifs
  · rfl
  · exact (List.append_nil _).symm

theorem doubled_concat (value : JsString) (u : CodeUnit) :
    doubled (value ++ [u]) = doubled value ++ if u = quote then [quote, quote] else [u] := by
  rw [doubled, List.flatMap_append, List.flatMap_singleton, ← doubled]

theorem cellsText_concat (cells : List Cell) (cell : Cell) :
    cellsText (cells ++ [cell]) = cellsText cells ++ cell.text ++ [comma] := by
  rw [cellsText, List.flatMap_append, List.flatMap_singleton, ← cellsText, List.append_assoc]

/-- A turn that does not end the record reads on in it. -/
theorem Reading.turn {scan scan' : Scan} {cells : List Cell} {part : JsString} {c : CodeUnit}
    {next : Option CodeUnit} {skip : Bool} (h : Reading scan cells part)
    (hturn : Turn scan c next scan' skip) :
    (∃ cells' part', Reading scan' cells' part' ∧ scan'.rows = scan.rows ∧
      cellsText cells' ++ part' =
        cellsText cells ++ part ++ c :: (if skip = true then next.toList else [])) ∨
    (scan.quoted = false ∧ (c = lineFeed ∨ c = carriageReturn) ∧
      scan' = .fresh scan.rowsWithCurrent ∧
      skip = decide (c = carriageReturn ∧ next = some lineFeed)) := by
  cases hturn with
  | doubled hquoted =>
      cases h with
      | bare _ => cases hquoted
      | closed => cases hquoted
      | inside =>
          refine Or.inl ⟨cells, _, .inside, rfl, ?_⟩
          rw [doubled_concat, if_pos rfl, if_pos rfl, List.append_assoc, List.cons_append]
          rfl
  | close _ hquoted =>
      cases h with
      | bare _ => cases hquoted
      | closed => cases hquoted
      | inside =>
          refine Or.inl ⟨cells, _, .closed, rfl, ?_⟩
          rw [if_neg Bool.false_ne_true, List.append_assoc]
  | inside _ _ hquoted hc =>
      cases h with
      | bare _ => cases hquoted
      | closed => cases hquoted
      | inside =>
          refine Or.inl ⟨cells, _, .inside, rfl, ?_⟩
          rw [doubled_concat, if_neg hc, if_neg Bool.false_ne_true, List.append_assoc,
            List.cons_append]
  | opened _ hquoted hfield hclosed =>
      cases h with
      | inside => cases hquoted
      | closed => cases hclosed
      | bare _ =>
          cases hfield
          refine Or.inl ⟨cells, _, .inside, rfl, ?_⟩
          rw [if_neg Bool.false_ne_true, List.append_nil]
          rfl
  | comma _ hquoted =>
      obtain ⟨cell, htext, hvalue, hrow⟩ := h.cell hquoted
      refine Or.inl ⟨cells ++ [cell], [], ?_, rfl, ?_⟩
      · rw [hrow, hquoted, ← hvalue, ← List.map_singleton, ← List.map_append]
        exact .bare fun _ hu => absurd hu List.not_mem_nil
      · rw [cellsText_concat, htext, List.append_nil, if_neg Bool.false_ne_true]
  | lineBreak _ _ hquoted hc => exact Or.inr ⟨hquoted, hc, rfl, rfl⟩
  | plain _ _ hquoted hclosed hc =>
      cases h with
      | inside => cases hquoted
      | closed => cases hclosed
      | bare plain =>
          refine Or.inl ⟨cells, _, .bare ?_, rfl, ?_⟩
          · intro u hu
            rcases List.mem_append.mp hu with hu | hu
            · exact plain u hu
            · exact List.mem_singleton.mp hu ▸ hc
          · rw [if_neg Bool.false_ne_true, List.append_assoc]

/-- No line feed stands behind a carriage return that ends a line by itself. -/
def LongestLineEnds : List (Record × LineEnd) → Record → Prop
  | [], _ => True
  | (_, e) :: lines, last =>
      (e = .cr → (File.text ⟨lines, last⟩).head? ≠ some lineFeed) ∧ LongestLineEnds lines last

/-- Every line break is read as the longest line end. -/
def File.Canonical (file : File) : Prop := LongestLineEnds file.lines file.last

/-- The line end that a line break and the unit behind it form. -/
theorem lineEnd_of_break {c : CodeUnit} {rest text : JsString} {skip : Bool}
    (hc : c = lineFeed ∨ c = carriageReturn)
    (hskip : skip = decide (c = carriageReturn ∧ rest.head? = some lineFeed))
    (htext : text = cellsText [] ++ [] ++ (if skip = true then rest.tail else rest)) :
    ∃ e : LineEnd, c :: rest = e.text ++ text ∧ (e = .cr → text.head? ≠ some lineFeed) := by
  rw [cellsText, List.flatMap_nil, List.nil_append, List.nil_append] at htext
  simp only [hskip, decide_eq_true_eq] at htext
  rcases hc with rfl | rfl
  · rw [if_neg fun h => absurd h.1 (by decide)] at htext
    exact ⟨.lf, by rw [htext]; rfl, fun h => by cases h⟩
  · by_cases hnext : rest.head? = some lineFeed
    · rw [if_pos ⟨rfl, hnext⟩] at htext
      refine ⟨.crlf, ?_, fun h => by cases h⟩
      cases rest with
      | nil => cases hnext
      | cons u rest =>
          rw [htext, Option.some.inj hnext]
          rfl
    · rw [if_neg fun h => hnext h.2] at htext
      exact ⟨.cr, by rw [htext]; rfl, fun _ => htext ▸ hnext⟩

/-- A text that the loop gets through, outside quotes at the end, is printed by a file.
The induction is on the text; the part of the record already read stands in front. -/
theorem file_of_scanLoop {text : JsString} : ∀ {skip : Bool} {scan scan' : Scan}
    {cells : List Cell} {part : JsString}, Reading scan cells part →
    scanLoop scan skip text = .ok scan' → scan'.quoted = false →
    ∃ file : File, file.Canonical ∧
      file.text = cellsText cells ++ part ++ (if skip = true then text.tail else text) ∧
      scan'.rowsWithCurrent = scan.rows ++ file.rows := by
  induction text with
  | nil =>
      intro skip scan scan' cells part hreading hscan hquoted
      cases hscan
      obtain ⟨r, htext, hrows⟩ := hreading.record hquoted
      refine ⟨⟨[], r⟩, trivial, ?_, ?_⟩
      · rw [List.tail_nil, ite_self, List.append_nil, ← htext]
        rfl
      · rw [hrows, File.rows_nil]
  | cons c rest ih =>
      intro skip scan scan' cells part hreading hscan hquoted
      cases skip with
      | true =>
          rw [scanLoop_skip] at hscan
          exact ih hreading hscan hquoted
      | false =>
          rw [scanLoop, if_neg Bool.false_ne_true] at hscan
          cases hstep : scanStep scan c rest.head? with
          | error e =>
              rw [hstep] at hscan
              cases hscan
          | ok turn =>
              obtain ⟨mid, skip'⟩ := turn
              rw [hstep] at hscan
              dsimp only at hscan
              rw [if_neg Bool.false_ne_true]
              -- with a skipped unit, the rest is that unit and what is left to read
              have hrest : rest = (if skip' = true then rest.head?.toList else []) ++
                  (if skip' = true then rest.tail else rest) := by
                split_ifs
                · cases rest <;> rfl
                · rfl
              rcases hreading.turn (scanStep_cases hstep) with
                ⟨cells', part', hreading', hrows', htext'⟩ | ⟨hoff, hc, rfl, hskip⟩
              · obtain ⟨file, hcanonical, htext, hrows⟩ := ih hreading' hscan hquoted
                refine ⟨file, hcanonical, ?_, by rw [hrows, hrows']⟩
                rw [htext, htext', List.append_assoc, List.cons_append, ← hrest]
              · obtain ⟨r, hrecord, hcurrent⟩ := hreading.record hoff
                obtain ⟨⟨lines, last⟩, hcanonical, htext, hrows⟩ :=
                  ih (Reading.fresh _) hscan hquoted
                obtain ⟨e, he, hlongest⟩ := lineEnd_of_break hc hskip htext
                refine ⟨⟨(r, e) :: lines, last⟩, ⟨hlongest, hcanonical⟩, ?_, ?_⟩
                · rw [File.text_cons, hrecord, ← he]
                · rw [hrows, File.rows_cons, Scan.fresh, hcurrent, List.append_assoc]

/-! ## The tokeniser and the grammar -/

/-- The rows of an accepted text, from a tree that prints it. -/
theorem file_of_tokenise {input : JsString} {rows : List (List JsString)}
    (h : tokenise input = .ok rows) :
    ∃ file : File, file.Canonical ∧ file.text = stripMark input ∧ file.rows = rows ∧
      (stripMark input).length ≤ 1000000 := by
  unfold tokenise at h
  split_ifs at h with hsize
  cases hscan : scanLoop (.fresh []) false (stripMark input) with
  | error e =>
      rw [hscan] at h
      cases h
  | ok scan =>
      rw [hscan] at h
      dsimp only at h
      split_ifs at h with hquoted
      obtain ⟨file, hcanonical, htext, hrows⟩ :=
        file_of_scanLoop (Reading.fresh []) hscan (Bool.eq_false_iff.mpr hquoted)
      refine ⟨file, hcanonical, htext, ?_, not_lt.mp hsize⟩
      rw [← Except.ok.inj h, hrows]
      rfl

theorem tokenise_file {input : JsString} {file : File} (htext : file.text = stripMark input)
    (hsize : (stripMark input).length ≤ 1000000) : tokenise input = .ok file.rows := by
  obtain ⟨scan, hscan, hquoted, hrows⟩ := scanLoop_file file []
  rw [htext] at hscan
  rw [tokenise, if_neg (not_lt.mpr hsize), hscan]
  dsimp only
  rw [if_neg (Bool.eq_false_iff.mp hquoted), hrows, List.nil_append]

/-- The tokeniser accepts exactly the texts within the size limit that files print, with
the fields of their nonblank records; any other text makes it throw. -/
theorem tokenise_grammar (input : JsString) :
    (∀ rows, tokenise input = .ok rows ↔
      (stripMark input).length ≤ 1000000 ∧
        ∃ file : File, file.text = stripMark input ∧
          rows = (file.records.map Record.values).filter isKept) ∧
    ((∃ e, tokenise input = .error e) ↔
      1000000 < (stripMark input).length ∨ ¬ ∃ file : File, file.text = stripMark input) := by
  have haccepted : ∀ rows, tokenise input = .ok rows ↔
      (stripMark input).length ≤ 1000000 ∧
        ∃ file : File, file.text = stripMark input ∧
          rows = (file.records.map Record.values).filter isKept := by
    intro rows
    constructor
    · intro h
      obtain ⟨file, _, htext, hrows, hsize⟩ := file_of_tokenise h
      exact ⟨hsize, file, htext, hrows.symm⟩
    · rintro ⟨hsize, file, htext, rfl⟩
      exact tokenise_file htext hsize
  refine ⟨haccepted, ?_⟩
  constructor
  · rintro ⟨e, herror⟩
    by_contra hfits
    rw [not_or, not_lt, not_not] at hfits
    obtain ⟨hsize, file, htext⟩ := hfits
    rw [tokenise_file htext hsize] at herror
    cases herror
  · intro hreason
    cases h : tokenise input with
    | error e => exact ⟨e, rfl⟩
    | ok rows =>
        obtain ⟨file, _, htext, _, hsize⟩ := file_of_tokenise h
        rcases hreason with hlarge | hnone
        · exact absurd hsize (not_le.mpr hlarge)
        · exact absurd ⟨file, htext⟩ hnone

/-- Quoted fields keep commas, line breaks and quotes; a blank line is no row. -/
example : tokenise (units "a,\"x,\"\"\n\"\r\n \r\"\",b") =
    .ok [[units "a", units "x,\"\n"], [units "", units "b"]] := by
  decide +kernel

end LuxLedger.Web.Csv
