import DatasetService.Csv.Reader
import DatasetService.Csv.Writer
import DatasetService.Json.Parser
import DatasetService.Json.Printer
import DatasetService.Number.Literal
import DatasetService.Store.Basic

set_option autoImplicit false

/- Tables: reading them from uploads, and writing them as objects or as CSV. -/
namespace DatasetService.Table

open Text (Bytes)

/-- A cell of CSV as a JSON value: an integer, a finite number, or its text. -/
def cellValue (text : String) : Json.Value :=
  match Literal.signed? text.toList with
  | some value => .ofInt value
  | none =>
      match Literal.finite? .double text.toList with
      | some number => .number (.float number)
      | none => .string text

/-- The text of a value in a cell. -/
def cellText : Json.Value → String
  | .string text => text
  | .null => ""
  | value => value.compact

def ofCsv (bytes : Bytes) : Except StoreError Table :=
  match Csv.read bytes with
  | .error error => .error (.invalid ("invalid csv body: " ++ error.message))
  | .ok (columns, rows) => .ok { columns, rows := rows.map (·.map cellValue) }

def mixedRows : StoreError := .invalid "JSON rows must all be objects or all be arrays"

/-- The cells of an object under the columns; a missing one is null. -/
def objectRow (columns : List String) : Json.Value → Except StoreError (List Json.Value)
  | .object members =>
      .ok (columns.map fun column => (Json.Value.member? members column).getD .null)
  | _ => .error mixedRows

def arrayRow : Json.Value → Except StoreError (List Json.Value)
  | .array cells => .ok cells
  | _ => .error mixedRows

/-- Read rows one by one; the first that cannot be read decides. -/
def readRows (read : Json.Value → Except StoreError (List Json.Value)) :
    List Json.Value → Except StoreError (List (List Json.Value))
  | [] => .ok []
  | item :: items => do
      let row ← read item
      let rows ← readRows read items
      return row :: rows

def numberedColumns (count : Nat) : List String :=
  (List.range count).map fun index => "field_" ++ toString (index + 1)

/-- The table of an array of rows. The first row has the columns: the keys of an object,
or numbers. -/
def ofJson (value : Json.Value) : Except StoreError Table :=
  match value with
  | .array [] => .ok { columns := [], rows := [] }
  | .array (.object first :: items) => do
      let columns := first.map Prod.fst
      let rows ← readRows (objectRow columns) (.object first :: items)
      return { columns, rows }
  | .array (.array first :: items) => do
      let rows ← readRows arrayRow (.array first :: items)
      return { columns := numberedColumns first.length, rows }
  | .array _ => .error (.invalid "JSON rows must be objects or arrays")
  | _ => .error (.invalid "JSON body must be an array of rows")

/-- The table of an upload. One of no declared type is CSV if it is not JSON. -/
def ofUpload (upload : Upload) : Except StoreError Table :=
  if upload.isCsv then ofCsv upload.bytes
  else
    match Json.parse upload.bytes with
    | .ok value => ofJson value
    | .error error =>
        if upload.contentType.isNone then ofCsv upload.bytes
        else .error (.invalid ("body is not valid JSON: " ++ error.message))

/-- One object a row. -/
def objects (table : Table) : List Json.Value :=
  table.rows.map fun row => Json.Value.ofMembers (table.columns.zip row)

/-- The first rows of a table, or all of them. -/
def firstRows (table : Table) (limit : Option Nat) : List (List Json.Value) :=
  match limit with
  | some count => table.rows.take count
  | none => table.rows

/-- The header and the first rows as CSV. Every row needs a cell for each column. -/
def csv (table : Table) (limit : Option Nat) : Except StoreError Bytes :=
  match Csv.write? table.columns ((table.firstRows limit).map (·.map cellText)) with
  | some text => .ok (Text.encode text)
  | none => .error (.internal "writing csv row")

end DatasetService.Table
