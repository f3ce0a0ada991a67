import DatasetService.Text.Utf8

set_option autoImplicit false

/- Reading comma-separated records. A record ends at a line feed, a carriage return, or
both; lines without a character are skipped. A field that starts with a quote runs to the
next quote that is not doubled, and what follows that quote still belongs to it. -/
namespace DatasetService.Csv

open Text (Bytes)

/-- Where the reader stands between two bytes. -/
inductive State
  | recordStart
  | fieldStart
  | inField
  | inQuoted
  | afterQuote
  | afterReturn
deriving DecidableEq, Repr

/-- What a byte does to the record being read. -/
inductive Effect
  | skip
  | append
  | endField
  | endRecord
deriving DecidableEq, Repr

def isDelimiter (byte : UInt8) : Bool := byte == 0x2C

def isQuote (byte : UInt8) : Bool := byte == 0x22

def isReturn (byte : UInt8) : Bool := byte == 0x0D

def isFeed (byte : UInt8) : Bool := byte == 0x0A

/-- A byte that is not part of a quoted field's content. -/
def plain (byte : UInt8) : State × Effect :=
  if isDelimiter byte then (.fieldStart, .endField)
  else if isReturn byte then (.afterReturn, .endRecord)
  else if isFeed byte then (.recordStart, .endRecord)
  else (.inField, .append)

def startField (byte : UInt8) : State × Effect :=
  if isQuote byte then (.inQuoted, .skip) else plain byte

def startRecord (byte : UInt8) : State × Effect :=
  if isReturn byte || isFeed byte then (.recordStart, .skip) else startField byte

def step (state : State) (byte : UInt8) : State × Effect :=
  match state with
  | .recordStart => startRecord byte
  | .fieldStart => startField byte
  | .inField => plain byte
  | .inQuoted => if isQuote byte then (.afterQuote, .skip) else (.inQuoted, .append)
  | .afterQuote => if isQuote byte then (.inQuoted, .append) else plain byte
  | .afterReturn => if isFeed byte then (.recordStart, .skip) else startRecord byte

/-- Fields of one record, and where reading it began. -/
structure RawRecord where
  fields : List Bytes
  line : Nat
  offset : Nat
deriving DecidableEq, Repr

/-- The fields read so far, last first, and the bytes of the one being read, last first. -/
structure Fragment where
  fields : List Bytes := []
  content : Bytes := []

def Fragment.close (fragment : Fragment) : List Bytes :=
  (fragment.content.reverse :: fragment.fields).reverse

/-- The records of the bytes. `line` and `offset` say where the record under way began, and
`seenLine` and `seenOffset` where reading has come. -/
def records (state : State) (fragment : Fragment) (line offset seenLine seenOffset : Nat) :
    Bytes → List RawRecord
  | [] =>
      match state with
      | .recordStart | .afterReturn => []
      | _ => [{ fields := fragment.close, line, offset }]
  | byte :: rest =>
      let seenLine := if isFeed byte then seenLine + 1 else seenLine
      let seenOffset := seenOffset + 1
      match step state byte with
      | (state, .skip) => records state fragment line offset seenLine seenOffset rest
      | (state, .append) =>
          records state { fragment with content := byte :: fragment.content } line offset
            seenLine seenOffset rest
      | (state, .endField) =>
          records state { fields := fragment.content.reverse :: fragment.fields } line offset
            seenLine seenOffset rest
      | (state, .endRecord) =>
          { fields := fragment.close, line, offset } ::
            records state {} seenLine seenOffset seenLine seenOffset rest

/-- The records of a document. A byte order mark at its start is left out, but counted. -/
def rawRecords : Bytes → List RawRecord
  | 0xEF :: 0xBB :: 0xBF :: rest => records .recordStart {} 1 0 1 3 rest
  | bytes => records .recordStart {} 1 0 1 0 bytes

inductive Error
  | unequalLengths (record line offset length expected : Nat)
  | notUtf8 (record line offset field validUpTo : Nat)
deriving DecidableEq, Repr

def counted (count : Nat) : String := toString count ++ " fields"

def Error.message : Error → String
  | .unequalLengths record line offset length expected =>
      "CSV error: record " ++ toString record ++ " (line: " ++ toString line ++ ", byte: " ++
        toString offset ++ "): found record with " ++ counted length ++
        ", but the previous record has " ++ counted expected
  | .notUtf8 record line offset field validUpTo =>
      "CSV parse error: record " ++ toString record ++ " (line " ++ toString line ++
        ", field: " ++ toString field ++ ", byte: " ++ toString offset ++
        "): invalid utf-8: invalid UTF-8 in field " ++ toString field ++
        " near byte index " ++ toString validUpTo

/-- The texts of the fields, or the first field that is not UTF-8 and where it fails. -/
def fieldTexts (index : Nat) : List Bytes → Except (Nat × Nat) (List String)
  | [] => .ok []
  | field :: fields =>
      match Text.stringOf? field with
      | none => .error (index, Text.validUpTo field)
      | some text => (fieldTexts (index + 1) fields).map (text :: ·)

def decodeRecord (index : Nat) (expected : Option Nat) (record : RawRecord) :
    Except Error (List String) :=
  let length := record.fields.length
  if expected.any (· != length) then
    .error (.unequalLengths index record.line record.offset length (expected.getD 0))
  else
    match fieldTexts 0 record.fields with
    | .error (field, validUpTo) =>
        .error (.notUtf8 index record.line record.offset field validUpTo)
    | .ok texts => .ok texts

/-- Decode records in order. All have as many fields as the first. -/
def decodeRecords (index : Nat) (expected : Option Nat) :
    List RawRecord → Except Error (List (List String))
  | [] => .ok []
  | record :: more => do
      let texts ← decodeRecord index expected record
      let rest ← decodeRecords (index + 1) (some (expected.getD texts.length)) more
      return texts :: rest

/-- The column names and the rows of a document. One without any record has no column. -/
def read (bytes : Bytes) : Except Error (List String × List (List String)) := do
  match ← decodeRecords 0 none (rawRecords bytes) with
  | [] => return ([], [])
  | header :: rows => return (header, rows)

end DatasetService.Csv
