/-
  Web/CsvLines.lean --- the row numbers of an import and the physical lines of the
  file.

  A record's row number counts the nonblank records up to it.  The physical line on
  which it starts counts the line breaks in front of it: one for each earlier record,
  and those inside quoted fields.
-/
import LuxLedger.Web.CsvRoundTrip

set_option autoImplicit false

namespace LuxLedger.Web.Csv

open Javascript Relational

/-! ## Physical lines -/

/-- The line breaks of a text: CRLF, LF and CR. -/
def lineBreaks : JsString → Nat
  | [] => 0
  | u :: rest =>
      (if u = lineFeed ∨ (u = carriageReturn ∧ rest.head? ≠ some lineFeed) then 1 else 0) +
        lineBreaks rest

/-- The physical line of an offset, counted from 1. -/
def lineAt (text : JsString) (offset : Nat) : Nat := 1 + lineBreaks (text.take offset)

/-- The physical line on which the record at a position of the file starts. -/
def File.startLine (file : File) (position : Nat) : Nat :=
  lineAt file.text (linesText (file.lines.take position)).length

/-- A record that is not blank and stands on one physical line. -/
def Record.OneLine (r : Record) : Prop := isKept r.values = true ∧ lineBreaks r.text = 0

instance (r : Record) : Decidable r.OneLine :=
  inferInstanceAs (Decidable (isKept r.values = true ∧ lineBreaks r.text = 0))

theorem lineBreaks_append {s t : JsString}
    (h : s.getLast? ≠ some carriageReturn ∨ t.head? ≠ some lineFeed) :
    lineBreaks (s ++ t) = lineBreaks s + lineBreaks t := by
  induction s with
  | nil => rw [List.nil_append, lineBreaks, Nat.zero_add]
  | cons u s ih =>
      cases s with
      | nil =>
          rw [List.singleton_append, lineBreaks, lineBreaks, lineBreaks, Nat.add_zero]
          congr 2
          rw [List.getLast?_singleton, Ne, Option.some.injEq] at h
          by_cases hu : u = carriageReturn
          · have hnext := h.resolve_left (not_not.mpr hu)
            simp only [hu, hnext, ne_eq, not_false_eq_true, and_self, or_true, List.head?_nil,
              reduceCtorEq]
          · simp only [hu, false_and]
      | cons v s =>
          have hrest : (v :: s).getLast? ≠ some carriageReturn ∨ t.head? ≠ some lineFeed := by
            rw [List.getLast?_cons_cons] at h
            exact h
          calc lineBreaks (u :: (v :: s ++ t))
              = (if u = lineFeed ∨ (u = carriageReturn ∧ some v ≠ some lineFeed) then 1 else 0) +
                  lineBreaks (v :: s ++ t) := rfl
            _ = (if u = lineFeed ∨ (u = carriageReturn ∧ some v ≠ some lineFeed) then 1 else 0) +
                  (lineBreaks (v :: s) + lineBreaks t) := by rw [ih hrest]
            _ = lineBreaks (u :: v :: s) + lineBreaks t := (Nat.add_assoc _ _ _).symm

/-- A record does not end in a carriage return. -/
theorem Cell.getLast?_ne (cell : Cell) : cell.text.getLast? ≠ some carriageReturn := by
  cases cell with
  | bare value plain =>
      intro h
      exact (isPlain_iff.mp (plain _ (List.mem_of_getLast? h))).2.2.2 rfl
  | quoted value =>
      rw [Cell.text, List.getLast?_append_of_ne_nil _ (List.cons_ne_nil _ _)]
      exact fun h => absurd (Option.some.inj h) (by decide)

theorem Record.getLast?_ne (r : Record) : r.text.getLast? ≠ some carriageReturn := by
  rw [Record.text]
  by_cases hfinal : r.final.text = []
  · rw [hfinal, List.append_nil]
    rcases List.eq_nil_or_concat r.init with hinit | ⟨init, cell, hinit⟩
    · rw [hinit]
      exact fun h => by cases h
    · rw [hinit, List.concat_eq_append, cellsText_concat,
        List.getLast?_append_of_ne_nil _ (List.cons_ne_nil _ _)]
      exact fun h => absurd (Option.some.inj h) (by decide)
  · rw [List.getLast?_append_of_ne_nil _ hfinal]
    exact r.final.getLast?_ne

theorem lineBreaks_line (r : Record) (e : LineEnd) :
    lineBreaks (r.text ++ e.text) = lineBreaks r.text + 1 := by
  rw [lineBreaks_append (Or.inl r.getLast?_ne)]
  cases e <;> rfl

/-- In a canonical file every record in front adds its own lines. -/
theorem lineBreaks_linesText {lines : List (Record × LineEnd)} {last : Record}
    (h : LongestLineEnds lines last) (n : Nat) :
    lineBreaks (linesText (lines.take n)) =
      ((lines.take n).map fun l => lineBreaks l.1.text + 1).sum := by
  induction lines generalizing n with
  | nil => rw [List.take_nil]; rfl
  | cons line lines ih =>
      obtain ⟨r, e⟩ := line
      obtain ⟨hlongest, hrest⟩ := h
      cases n with
      | zero => rfl
      | succ n =>
          have hjoin : (r.text ++ e.text).getLast? ≠ some carriageReturn ∨
              (linesText (lines.take n)).head? ≠ some lineFeed := by
            cases e with
            | crlf =>
                left
                rw [LineEnd.text, List.getLast?_append_of_ne_nil _ (List.cons_ne_nil _ _)]
                exact fun h => absurd (Option.some.inj h) (by decide)
            | lf =>
                left
                rw [LineEnd.text, List.getLast?_append_of_ne_nil _ (List.cons_ne_nil _ _)]
                exact fun h => absurd (Option.some.inj h) (by decide)
            | cr =>
                right
                intro hhead
                apply hlongest rfl
                have hsplit : File.text ⟨lines, last⟩ =
                    linesText (lines.take n) ++ (linesText (lines.drop n) ++ last.text) := by
                  rw [← List.append_assoc, linesText, linesText, ← List.flatMap_append,
                    List.take_append_drop]
                  rfl
                rw [hsplit, List.head?_append, hhead, Option.some_or]
          rw [List.take_succ_cons, linesText, List.flatMap_cons, ← linesText,
            lineBreaks_append hjoin, lineBreaks_line, ih hrest n, List.map_cons, List.sum_cons]

/-! ## Positions of the nonblank records -/

/-- The record at a position starts behind all earlier records, blank ones included. -/
theorem File.startLine_eq {file : File} (hcanonical : file.Canonical) {before after : List Record}
    {r : Record} (hrecords : file.records = before ++ r :: after) :
    file.startLine before.length = 1 + (before.map fun b => lineBreaks b.text + 1).sum := by
  obtain ⟨lines, last⟩ := file
  have htake : (lines.take before.length).map (·.1) = before := by
    have hprefix := congrArg (List.take before.length) hrecords
    rw [List.take_left, File.records] at hprefix
    have hle : before.length ≤ (lines.map (·.1)).length := by
      have hlength := congrArg List.length hrecords
      simp only [File.records, List.length_append, List.length_cons, List.length_nil,
        List.length_map] at hlength ⊢
      omega
    rw [List.take_append_of_le_length hle, ← List.map_take] at hprefix
    exact hprefix
  have hsplit : File.text ⟨lines, last⟩ = linesText (lines.take before.length) ++
      (linesText (lines.drop before.length) ++ last.text) := by
    rw [← List.append_assoc, linesText, linesText, ← List.flatMap_append, List.take_append_drop]
    rfl
  rw [File.startLine, lineAt, hsplit, List.take_left, lineBreaks_linesText hcanonical]
  conv_rhs => rw [← htake, List.map_map]
  rfl

/-- The blank records and the inner line breaks in front of a record are what its
physical line exceeds the count of nonblank records by. -/
theorem sum_lineBreaks_eq_iff (before : List Record) :
    (before.map fun b => lineBreaks b.text + 1).sum = before.countP (fun b => isKept b.values) ↔
      ∀ b ∈ before, b.OneLine := by
  have hle : ∀ bs : List Record, bs.countP (fun b => isKept b.values) ≤
      (bs.map fun b => lineBreaks b.text + 1).sum := by
    intro bs
    induction bs with
    | nil => exact Nat.le_refl 0
    | cons b bs ih =>
        rw [List.map_cons, List.sum_cons, List.countP_cons]
        split_ifs <;> omega
  induction before with
  | nil => exact iff_of_true rfl fun b hb => absurd hb List.not_mem_nil
  | cons b bs ih =>
      have hrest := hle bs
      rw [List.map_cons, List.sum_cons, List.countP_cons, List.forall_mem_cons]
      refine Iff.trans ?_ (and_congr_right fun _ => ih)
      rw [Record.OneLine]
      split_ifs with hkept
      · simp only [hkept, true_and]
        omega
      · simp only [hkept, Bool.false_eq_true, false_and, iff_false]
        omega

theorem getElem?_filter {α : Type} {p : α → Bool} {xs : List α} {k : Nat} {x : α}
    (h : (xs.filter p)[k]? = some x) :
    ∃ before after, xs = before ++ x :: after ∧ p x = true ∧ before.countP p = k := by
  induction xs generalizing k with
  | nil => cases h
  | cons y ys ih =>
      by_cases hy : p y = true
      · rw [List.filter_cons_of_pos hy] at h
        cases k with
        | zero =>
            rw [List.getElem?_cons_zero, Option.some.injEq] at h
            exact ⟨[], ys, by rw [h, List.nil_append], h ▸ hy, rfl⟩
        | succ k =>
            rw [List.getElem?_cons_succ] at h
            obtain ⟨before, after, rfl, hx, hcount⟩ := ih h
            exact ⟨y :: before, after, rfl, hx, by rw [List.countP_cons_of_pos hy, hcount]⟩
      · rw [List.filter_cons_of_neg hy] at h
        obtain ⟨before, after, rfl, hx, hcount⟩ := ih h
        exact ⟨y :: before, after, rfl, hx, by rw [List.countP_cons_of_neg hy, hcount]⟩

/-- Where the row at an index of the table comes from. -/
theorem File.record_of_row {file : File} {k : Nat} {values : List JsString}
    (h : file.rows[k]? = some values) :
    ∃ before r after, file.records = before ++ r :: after ∧ r.values = values ∧
      before.countP (fun b => isKept b.values) = k := by
  rw [File.rows, List.filter_map, List.getElem?_map, Option.map_eq_some_iff] at h
  obtain ⟨r, hr, hvalues⟩ := h
  obtain ⟨before, after, hrecords, _, hcount⟩ := getElem?_filter hr
  exact ⟨before, r, after, hrecords, hvalues, hcount⟩

/-! ## Row numbers -/

theorem parseRows_getElem? {dates : Dates} {names : List JsString} {rows : List (List JsString)}
    {out : List StatementRecord} {i : Nat} (h : parseRows dates names i rows = .ok out) {k : Nat}
    {record : StatementRecord} (hk : out[k]? = some record) :
    ∃ values, rows[k]? = some values ∧ parseRow dates names (i + k) values = .ok record := by
  induction rows generalizing i out k with
  | nil =>
      cases h
      cases hk
  | cons values rows ih =>
      rw [parseRows, bind_eq_ok_iff] at h
      obtain ⟨first, hfirst, hrest⟩ := h
      rw [bind_eq_ok_iff] at hrest
      obtain ⟨records, hrecords, hout⟩ := hrest
      rw [pure_eq_ok_iff] at hout
      rw [← hout] at hk
      cases k with
      | zero => exact ⟨values, rfl, Option.some.inj hk ▸ hfirst⟩
      | succ k =>
          obtain ⟨found, hfound, hrow⟩ := ih hrecords hk
          exact ⟨found, hfound, by rw [← Nat.add_right_comm, Nat.add_assoc] at hrow; exact hrow⟩

theorem parseRows_error {dates : Dates} {names : List JsString} {rows : List (List JsString)}
    {e : CsvError} {i : Nat} (h : parseRows dates names i rows = .error e) :
    ∃ k values, rows[k]? = some values ∧ parseRow dates names (i + k) values = .error e := by
  induction rows generalizing i with
  | nil => cases h
  | cons values rows ih =>
      rw [parseRows] at h
      cases hfirst : parseRow dates names i values with
      | error e' =>
          rw [hfirst] at h
          cases h
          exact ⟨0, values, rfl, hfirst⟩
      | ok first =>
          cases hrest : parseRows dates names (i + 1) rows with
          | ok records =>
              rw [hfirst, hrest] at h
              cases h
          | error e' =>
              rw [hfirst, hrest] at h
              cases h
              obtain ⟨k, found, hfound, hrow⟩ := ih hrest
              exact ⟨k + 1, found, hfound, by
                rw [← Nat.add_right_comm, Nat.add_assoc] at hrow; exact hrow⟩

theorem parseRow_number {dates : Dates} {names values : List JsString} {i : Nat} :
    (∀ record, parseRow dates names i values = .ok record → record.sourceLine = i + 2) ∧
      ∀ e, parseRow dates names i values = .error e → e.row? = some (i + 2) := by
  unfold parseRow
  split_ifs
  · exact ⟨fun _ h => (by cases h), fun _ h => (by cases h; rfl)⟩
  · exact ⟨fun _ h => (by cases h), fun _ h => (by cases h; rfl)⟩
  · exact ⟨fun _ h => (by cases h), fun _ h => (by cases h; rfl)⟩
  · split
    · exact ⟨fun _ h => (by cases h), fun _ h => (by cases h; rfl)⟩
    · exact ⟨fun _ h => (by cases h; rfl), fun _ h => (by cases h)⟩

/-- The column names of a file. -/
def File.names (file : File) : List JsString := (file.rows.head?.getD []).map JsString.trim

/-- Past the checks on the header row, an import is the import of the rows. -/
theorem parseStatementCsv_rows (dates : Dates) {input : JsString} {file : File}
    (htext : file.text = stripMark input) :
    (∀ out, parseStatementCsv dates input = .ok out →
      parseRows dates file.names 0 file.rows.tail = .ok out) ∧
    ∀ e row, parseStatementCsv dates input = .error e → e.row? = some row →
      parseRows dates file.names 0 file.rows.tail = .error e := by
  unfold parseStatementCsv
  by_cases hsize : (stripMark input).length ≤ 1000000
  · rw [tokenise_file htext hsize]
    simp only [bind, Except.bind, parseTable]
    split_ifs
    · exact ⟨fun _ h => (by cases h), fun _ _ h hrow => (by cases h; cases hrow)⟩
    · exact ⟨fun _ h => (by cases h), fun _ _ h hrow => (by cases h; cases hrow)⟩
    · exact ⟨fun _ h => h, fun _ _ h _ => h⟩
  · rw [tokenise, if_pos (not_le.mp hsize)]
    exact ⟨fun _ h => (by cases h), fun _ _ h hrow => (by cases h; cases hrow)⟩

/-- A row number is the physical line of its record exactly when every record in front of
it is nonblank and on one line. -/
theorem rowNumber_iff {file : File} (hcanonical : file.Canonical) {i : Nat}
    {values : List JsString} (h : file.rows.tail[i]? = some values) :
    ∃ before r after, file.records = before ++ r :: after ∧ r.values = values ∧
      before.countP (fun b => isKept b.values) = i + 1 ∧
      (i + 2 = file.startLine before.length ↔ ∀ b ∈ before, b.OneLine) := by
  rw [List.getElem?_tail] at h
  obtain ⟨before, r, after, hrecords, hvalues, hcount⟩ := File.record_of_row h
  refine ⟨before, r, after, hrecords, hvalues, hcount, ?_⟩
  rw [File.startLine_eq hcanonical hrecords, ← sum_lineBreaks_eq_iff, hcount]
  omega

/-- An accepted text is printed by a canonical file.  In it, the source line of a
returned record, and the row that an error names, are the physical line exactly when no
blank record and no line break inside quotes stands before. -/
theorem sourceLine_iff (dates : Dates) (input : JsString) :
    (∀ rows, tokenise input = .ok rows →
      ∃ file : File, file.Canonical ∧ file.text = stripMark input) ∧
    ∀ file : File, file.Canonical → file.text = stripMark input →
      (∀ out i record, parseStatementCsv dates input = .ok out → out[i]? = some record →
        ∃ before r after, file.records = before ++ r :: after ∧
          before.countP (fun b => isKept b.values) = i + 1 ∧
          parseRow dates file.names i r.values = .ok record ∧
          (record.sourceLine = file.startLine before.length ↔ ∀ b ∈ before, b.OneLine)) ∧
      ∀ e row, parseStatementCsv dates input = .error e → e.row? = some row →
        ∃ i before r after, file.records = before ++ r :: after ∧
          before.countP (fun b => isKept b.values) = i + 1 ∧
          parseRow dates file.names i r.values = .error e ∧
          (row = file.startLine before.length ↔ ∀ b ∈ before, b.OneLine) := by
  constructor
  · intro rows h
    obtain ⟨file, hcanonical, htext, _⟩ := file_of_tokenise h
    exact ⟨file, hcanonical, htext⟩
  · intro file hcanonical htext
    obtain ⟨haccepted, hrejected⟩ := parseStatementCsv_rows dates htext
    constructor
    · intro out i record h hrecord
      obtain ⟨values, hvalues, hrow⟩ := parseRows_getElem? (haccepted out h) hrecord
      obtain ⟨before, r, after, hrecords, rfl, hcount, hline⟩ := rowNumber_iff hcanonical hvalues
      rw [Nat.zero_add] at hrow
      exact ⟨before, r, after, hrecords, hcount, hrow, parseRow_number.1 _ hrow ▸ hline⟩
    · intro e row h hnamed
      obtain ⟨i, values, hvalues, hrow⟩ := parseRows_error (hrejected e row h hnamed)
      obtain ⟨before, r, after, hrecords, rfl, hcount, hline⟩ := rowNumber_iff hcanonical hvalues
      rw [Nat.zero_add] at hrow
      have hnumber := Option.some.inj (hnamed.symm.trans (parseRow_number.2 _ hrow))
      exact ⟨i, before, r, after, hrecords, hcount, hrow, hnumber ▸ hline⟩

/-- A header row, an empty line, and a record. -/
def blankLineFile : File where
  lines :=
    [(⟨[.literal "id", .literal "amount_minor",
        .literal "currency", .literal "reference"],
        .literal "date"⟩, .lf),
      (⟨[], .literal ""⟩, .lf)]
  last := ⟨[.literal "a", .literal "25",
    .literal "USD", .literal "r"],
    .literal "2024-01-01"⟩

/-- The record behind the empty line starts on line 3 and is reported on line 2. -/
theorem sourceLine_after_blank_line :
    blankLineFile.text =
        units "id,amount_minor,currency,reference,date\n\na,25,USD,r,2024-01-01" ∧
      blankLineFile.Canonical ∧
      (parseStatementCsv newYear blankLineFile.text).map (·.map (·.sourceLine)) = .ok [2] ∧
      blankLineFile.records.map (fun r => isKept r.values) = [true, false, true] ∧
      blankLineFile.startLine 2 = 3 := by
  refine ⟨by decide +kernel, ⟨fun h => (by cases h), fun h => (by cases h), trivial⟩, by rfl,
    by decide +kernel, by decide +kernel⟩

end LuxLedger.Web.Csv
