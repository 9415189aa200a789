/-!
# Records of separated values

A text of separated values is read line by line (a line ends after each line feed) by a
machine whose states say where it stands in a record. Fields are cut at the separator. A field
that starts with the quote character is quoted up to the next quote, and inside the quotes
separators and line breaks are kept; after the closing quote the field goes on unquoted, so
`"a"b` reads as `ab` and a doubled quote is not an escaped one. A quote inside an unquoted field
is an ordinary character. An empty line is an empty record. A carriage return or line feed ends
an unquoted record, and anything after it on the same line is an error.

`Csv.firstRecord` gives the first record that is not empty, if any.
-/

namespace Ingest

namespace Csv

/-- Where the machine stands. -/
inductive State where
  | startRecord
  | startField
  | inField
  | inQuotedField
  | eatLineEnd
deriving DecidableEq, Repr

/-- The longest field, in characters. -/
def fieldLimit : Nat := 131072

/-- Why a text is not a record. -/
inductive CsvError where
  /-- Something follows a line end on the same line. -/
  | lineEndInField
  /-- A field longer than `fieldLimit`. -/
  | fieldTooLong
deriving DecidableEq, Repr

/-- The message of a reading failure. -/
def CsvError.message : CsvError → String
  | .lineEndInField =>
    "new-line character seen in unquoted field - do you need to open the file with newline=''?"
  | .fieldTooLong => "field larger than field limit (" ++ toString fieldLimit ++ ")"

/-- The machine: its state, the record read so far and the field being read (reversed). -/
structure Reader where
  separator : Char
  quote : Char
  state : State
  fields : Array String
  field : List Char
  fieldLength : Nat

namespace Reader

/-- The reader before a record. -/
def start (separator quote : Char) : Reader := ⟨separator, quote, .startRecord, #[], [], 0⟩

/-- The reader with the current field closed. -/
def saveField (r : Reader) : Reader :=
  { r with fields := r.fields.push (String.ofList r.field.reverse), field := [], fieldLength := 0 }

/-- The reader with `c` added to the current field. -/
def addChar (r : Reader) (c : Char) : Except CsvError Reader :=
  if r.fieldLength ≥ fieldLimit then .error .fieldTooLong
  else .ok { r with field := c :: r.field, fieldLength := r.fieldLength + 1 }

/-- Whether `c` ends a line. -/
def isLineEnd (c : Char) : Bool := c == '\n' || c == '\r'

/-- The reader at a field start after character `c`, or after the end of a line (`none`). -/
def atFieldStart (r : Reader) : Option Char → Except CsvError Reader
  | none => .ok { r.saveField with state := .startRecord }
  | some c =>
    if isLineEnd c then .ok { r.saveField with state := .eatLineEnd }
    else if c == r.quote then .ok { r with state := .inQuotedField }
    else if c == r.separator then .ok r.saveField
    else do
      let r ← r.addChar c
      return { r with state := .inField }

/-- The reader after character `c`, or after the end of a line (`none`). -/
def step (r : Reader) (c : Option Char) : Except CsvError Reader :=
  match r.state, c with
  | .startRecord, none => .ok r
  | .startRecord, some c =>
    if isLineEnd c then .ok { r with state := .eatLineEnd }
    else atFieldStart { r with state := .startField } (some c)
  | .startField, c => atFieldStart r c
  | .inField, none => .ok { r.saveField with state := .startRecord }
  | .inField, some c =>
    if isLineEnd c then .ok { r.saveField with state := .eatLineEnd }
    else if c == r.separator then .ok { r.saveField with state := .startField }
    else r.addChar c
  | .inQuotedField, none => .ok r
  | .inQuotedField, some c =>
    if c == r.quote then .ok { r with state := .inField }
    else r.addChar c
  | .eatLineEnd, none => .ok { r with state := .startRecord }
  | .eatLineEnd, some c => if isLineEnd c then .ok r else .error .lineEndInField

/-- The reader after a whole line and its end. -/
def readLine (r : Reader) (line : List Char) : Except CsvError Reader := do
  let r ← line.foldlM (fun r c => r.step (some c)) r
  r.step none

end Reader

/-- The lines of a text, each with its line feed. -/
def lines (cs : List Char) : List (List Char) :=
  match cs.splitOn '\n' with
  | [] => []
  | parts =>
    let body := parts.dropLast.map (· ++ ['\n'])
    match parts.getLast? with
    | some [] | none => body
    | some last => body ++ [last]

/-- The next record from `rest`, the reader having started it: none at the end of the text. -/
def nextRecord (r : Reader) :
    List (List Char) → Except CsvError (Option (Array String × List (List Char)))
  | [] =>
    if r.fieldLength ≠ 0 || r.state == .inQuotedField then .ok (some (r.saveField.fields, []))
    else .ok none
  | line :: rest => do
    let r ← r.readLine line
    if r.state == .startRecord then return some (r.fields, rest)
    else nextRecord r rest

/-- The first record of the lines that is not empty; `fuel` bounds the records read. -/
def firstFilled (separator quote : Char) :
    Nat → List (List Char) → Except CsvError (Option (List String))
  | 0, _ => .ok none
  | fuel + 1, ls => do
    match ← nextRecord (Reader.start separator quote) ls with
    | none => return none
    | some (fields, rest) =>
      if fields.isEmpty then firstFilled separator quote fuel rest
      else return some fields.toList

/-- The first record of `text` that is not empty, if any. -/
def firstRecord (separator quote : Char) (text : String) : Except CsvError (Option (List String)) :=
  let ls := lines text.toList
  firstFilled separator quote (ls.length + 1) ls

end Csv

end Ingest
