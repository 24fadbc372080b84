/-
  Web/StatementCsv.lean --- `parseStatementCsv`: the scanner of a statement file and
  the checks on its rows.

  Source: `apps/web/src/csv.ts`.
-/
import LuxLedger.Javascript.BigInt
import LuxLedger.Relational.Statement

set_option autoImplicit false

namespace LuxLedger.Web

open Javascript Relational

namespace Csv

/-- The quotation mark. -/
def quote : CodeUnit := 34

/-- The comma. -/
def comma : CodeUnit := 44

/-- The line feed. -/
def lineFeed : CodeUnit := 10

/-- The carriage return. -/
def carriageReturn : CodeUnit := 13

/-- The byte order mark. -/
def byteOrderMark : CodeUnit := 0xFEFF

/-- What `parseStatementCsv` throws.  The rows are numbered as the messages number them. -/
inductive CsvError where
  | tooLarge
  | malformedQuoting
  | unterminatedField
  | headers
  | recordCount
  | columnCount (row : Nat)
  | amount (row : Nat)
  | missing (row : Nat)
  deriving DecidableEq, Repr

/-- The columns every file has. -/
def requiredNames : List String := ["id", "amount_minor", "currency", "reference", "date"]

/-- The message of an error. -/
def CsvError.message : CsvError → String
  | .tooLarge => "CSV must be smaller than 1 MB"
  | .malformedQuoting => "Malformed CSV quoting"
  | .unterminatedField => "Unterminated CSV quoted field"
  | .headers => "CSV requires unique headers: " ++ ", ".intercalate requiredNames
  | .recordCount => "Import between 1 and 1000 records per file"
  | .columnCount row => s!"CSV row {row} has a different column count"
  | .amount row => s!"CSV row {row}: amount_minor must be a positive integer string"
  | .missing row =>
      s!"CSV row {row}: missing identifier, currency, reference or valid date"

/-- The row that a message names. -/
def CsvError.row? : CsvError → Option Nat
  | .columnCount row => some row
  | .amount row => some row
  | .missing row => some row
  | _ => none

/-! ## The scanner -/

/-- `row.some(v => v.trim())`. -/
def isKept (row : List JsString) : Bool := row.any fun v => !v.trim.isEmpty

/-- The variables of the scanning loop. -/
structure Scan where
  rows : List (List JsString)
  row : List JsString
  field : JsString
  quoted : Bool
  closed : Bool
  deriving DecidableEq, Repr

/-- The variables before a record. -/
def Scan.fresh (rows : List (List JsString)) : Scan := ⟨rows, [], [], false, false⟩

/-- `row.push(field); if (row.some(v => v.trim())) rows.push(row)`. -/
def Scan.rowsWithCurrent (scan : Scan) : List (List JsString) :=
  if isKept (scan.row ++ [scan.field]) then scan.rows ++ [scan.row ++ [scan.field]] else scan.rows

/-- One turn of the loop at the code unit `c`, with `next` behind it.  The flag says
that the turn took both (`i++`). -/
def scanStep (scan : Scan) (c : CodeUnit) (next : Option CodeUnit) :
    Except CsvError (Scan × Bool) :=
  if scan.quoted = true then
    if c = quote ∧ next = some quote then .ok ({ scan with field := scan.field ++ [quote] }, true)
    else if c = quote then .ok ({ scan with quoted := false, closed := true }, false)
    else .ok ({ scan with field := scan.field ++ [c] }, false)
  else if c = quote ∧ scan.field = [] ∧ scan.closed = false then
    .ok ({ scan with quoted := true }, false)
  else if c = comma then
    .ok ({ scan with row := scan.row ++ [scan.field], field := [], closed := false }, false)
  else if c = lineFeed ∨ c = carriageReturn then
    .ok ({ scan with rows := scan.rowsWithCurrent, row := [], field := [], closed := false },
      decide (c = carriageReturn ∧ next = some lineFeed))
  else if scan.closed = true ∨ c = quote then .error .malformedQuoting
  else .ok ({ scan with field := scan.field ++ [c] }, false)

/-- `for (let i = 0; i < text.length; i++)`; `skip` when the last turn took two units. -/
def scanLoop (scan : Scan) (skip : Bool) : JsString → Except CsvError Scan
  | [] => .ok scan
  | c :: rest =>
      if skip = true then scanLoop scan false rest
      else
        match scanStep scan c rest.head? with
        | .error e => .error e
        | .ok (scan', skip') => scanLoop scan' skip' rest

/-- `input.replace(/^\uFEFF/, '')`. -/
def stripMark : JsString → JsString
  | [] => []
  | u :: rest => if u = byteOrderMark then rest else u :: rest

/-- The rows of a file: everything before `rows.shift()`. -/
def tokenise (input : JsString) : Except CsvError (List (List JsString)) :=
  if 1000000 < (stripMark input).length then .error .tooLarge
  else
    match scanLoop (.fresh []) false (stripMark input) with
    | .error e => .error e
    | .ok scan =>
        if scan.quoted = true then .error .unterminatedField else .ok scan.rowsWithCurrent

/-! ## The records -/

/-- `Date.parse`, with `none` for `NaN`, and `toISOString` of a time value. -/
structure Dates where
  parse : JsString → Option Int
  toISOString : Int → JsString

/-- An element of the array that `parseStatementCsv` returns. -/
structure StatementRecord where
  id : JsString
  amountMinor : JsString
  currency : JsString
  reference : JsString
  date : JsString
  description : Option JsString
  sourceLine : Nat
  deriving DecidableEq, Repr

/-- `/^[1-9][0-9]*$/`. -/
def isPositiveInteger : JsString → Bool
  | [] => false
  | u :: rest => 49 ≤ u && u ≤ 57 && rest.all isDigit

/-- `Object.fromEntries(headers.map((h, j) => [h, values[j]]))[name]`. -/
def column? (headers values : List JsString) (name : String) : Option JsString :=
  (headers.zip values).lookup (units name)

/-- `record[name]` of a required column. -/
def column (headers values : List JsString) (name : String) : JsString :=
  (column? headers values name).getD []

/-- The callback of `rows.map`. -/
def parseRow (dates : Dates) (headers : List JsString) (i : Nat) (values : List JsString) :
    Except CsvError StatementRecord :=
  if values.length ≠ headers.length then .error (.columnCount (i + 2))
  else if isPositiveInteger (column headers values "amount_minor") = false then
    .error (.amount (i + 2))
  else if (column headers values "id").trim = [] ∨ (column headers values "reference").trim = [] ∨
      (column headers values "currency").trim = [] then .error (.missing (i + 2))
  else
    match dates.parse (column headers values "date") with
    | none => .error (.missing (i + 2))
    | some instant =>
        .ok
          { id := column headers values "id"
            amountMinor := column headers values "amount_minor"
            currency := column headers values "currency"
            reference := column headers values "reference"
            date := dates.toISOString instant
            description := (column? headers values "description").filter fun d => !d.isEmpty
            sourceLine := i + 2 }

/-- `rows.map((values, i) => …)`, which ends at the first row that throws. -/
def parseRows (dates : Dates) (headers : List JsString) (i : Nat) :
    List (List JsString) → Except CsvError (List StatementRecord)
  | [] => .ok []
  | values :: rest => do
      let record ← parseRow dates headers i values
      let records ← parseRows dates headers (i + 1) rest
      return record :: records

/-- The checks on the header row and the number of records. -/
def parseTable (dates : Dates) (table : List (List JsString)) :
    Except CsvError (List StatementRecord) :=
  let headers := (table.head?.getD []).map JsString.trim
  let rows := table.tail
  if (∃ name ∈ requiredNames, units name ∉ headers) ∨ ¬ headers.Nodup then .error .headers
  else if rows = [] ∨ 1000 < rows.length then .error .recordCount
  else parseRows dates headers 0 rows

/-- `parseStatementCsv`. -/
def parseStatementCsv (dates : Dates) (input : JsString) :
    Except CsvError (List StatementRecord) := do
  let table ← tokenise input
  parseTable dates table

end Csv

end LuxLedger.Web
