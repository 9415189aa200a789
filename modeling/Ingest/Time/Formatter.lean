import Ingest.Time.Iso
import Ingest.Time.Epoch
import Ingest.Document.Convert

/-!
# Date and time formatters

A formatter reads a date and time out of a value and writes one back as a value:

* `iso8601` reads an ISO 8601 text (anything else is a type error) and writes `isoformat`;
* `unix` reads the value as a double count of seconds since 1970 and writes the whole seconds
  of the timestamp, cut toward zero;
* `unixMs` reads the value as a double, cuts it to whole milliseconds, and writes the
  timestamp times a thousand, cut toward zero;
* `tai64n` reads `@` (optional), 16 hexadecimal digits of seconds and 8 of nanoseconds, and
  writes the same form; its seconds have a reserved top bit, and the next bit makes them
  negative;
* `fallback` reads with each of its formatters in turn, going on to the next only after a
  value error, and writes with its first.

A formatter is given as a dictionary with its `type`; a fallback lists its `formatters`, at
least one. Other keys are refused, and a `java` pattern formatter cannot be made at all.
-/

namespace Ingest.Time

/-- A way to read and write dates and times. -/
inductive Formatter where
  | iso8601
  | unix
  | unixMs
  | tai64n
  | fallback (first : Formatter) (rest : List Formatter)
deriving Repr, Inhabited

namespace Tai64

/-- Whether `c` is a hexadecimal digit. -/
def isHex (c : Char) : Bool :=
  ('0' ≤ c && c ≤ '9') || ('a' ≤ c && c ≤ 'f') || ('A' ≤ c && c ≤ 'F')

/-- The value of hexadecimal digits. -/
def hexValue (cs : List Char) : Nat :=
  cs.foldl (fun n c =>
    let d := if '0' ≤ c && c ≤ '9' then c.toNat - '0'.toNat
      else if 'a' ≤ c && c ≤ 'f' then c.toNat - 'a'.toNat + 10
      else c.toNat - 'A'.toNat + 10
    n * 16 + d) 0

/-- The date and time of a TAI64N label. -/
def read (s : String) : Except Error DateTime :=
  let cs := match s.toList with
    | '@' :: rest => rest
    | cs => cs
  if cs.length != 24 || !cs.all isHex then .error .tai64Label
  else
    let seconds := hexValue (cs.take 16)
    let nanos := hexValue (cs.drop 16)
    if seconds ≥ Nat.pow 2 63 then .error .tai64Label
    else
      let seconds : Int :=
        if seconds ≥ Nat.pow 2 62 then (seconds : Int) - Int.pow 2 63 else seconds
      DateTime.ofTai64 seconds (Binary64.ofRat false nanos 1000)

/-- The TAI64N label of a date and time: negative seconds are offset by 2^63. -/
def write (t : DateTime) : Except Error String := do
  let seconds := ((← t.timestamp).trunc?).getD 0
  let seconds := if seconds < 0 then seconds + Int.pow 2 63 else seconds
  return "@" ++ String.ofList (Text.hexDigits seconds.toNat 16) ++
    String.ofList (Text.hexDigits (t.micro * 1000) 8)

end Tai64

namespace Formatter

/-- Whether a failure is a value error, the kind a fallback moves on after. -/
def isValueError (e : Error) : Bool := e.kind == "ValueError" || e.kind == "AddressValueError"

/-- The name of the formatter's kind. -/
def className : Formatter → String
  | .iso8601 => "ISO8601DateTimeFormatter"
  | .unix => "UNIXDateTimeFormatter"
  | .unixMs => "UNIXMSDateTimeFormatter"
  | .tai64n => "ESTAI64NDateTimeFormatter"
  | .fallback .. => "FallbackDateTimeFormatter"

/-- The integer a double cuts to. -/
def truncate (x : Binary64) : Except Error Int :=
  if x.isNaN then .error .nanToInt
  else
    match x.trunc? with
    | some n => .ok n
    | none => .error .infinityToInt

mutual
/-- The date and time the value `v` of store `s` holds. -/
def parse (s : Store) (v : Node) : Formatter → Except Error DateTime
  | .iso8601 =>
    match s.scalarOf? v with
    | some (.str t) => DateTime.ofIso t
    | _ => .error .formatterInput
  | .unix => do
    DateTime.ofTimestamp (← s.toFloat v)
  | .unixMs => do
    let ms ← truncate (← s.toFloat v)
    DateTime.ofTimestamp (Binary64.ofRat (ms < 0) ms.natAbs 1000)
  | .tai64n =>
    match s.scalarOf? v with
    | some (.str t) => Tai64.read t
    | _ => .error .formatterInput
  | .fallback first rest => parseFirst s v (first :: rest)

/-- The date and time read by the first formatter of a list that does not fail with a value
error; another failure stops the search. -/
def parseFirst (s : Store) (v : Node) : List Formatter → Except Error DateTime
  | [] => .error .noFormatter
  | f :: fs =>
    match parse s v f with
    | .ok t => .ok t
    | .error e => if isValueError e then parseFirst s v fs else .error e
end

/-- The value a date and time is written as; only a date without a timestamp fails. -/
def format (t : DateTime) : Formatter → Except Error Scalar
  | .iso8601 => .ok (.str t.isoformat)
  | .unix => do return .int (((← t.timestamp).trunc?).getD 0)
  | .unixMs => do
    return .int (((Binary64.mulFinite (← t.timestamp) (Binary64.ofInt 1000)).trunc?).getD 0)
  | .tai64n => do return .str (← Tai64.write t)
  | .fallback first _ => format t first

/-- The formatter as a dictionary of its kind and options. -/
def describe : Formatter → Element
  | .fallback first rest =>
    .dict [("type", .scalar (.str "FallbackDateTimeFormatter")),
      ("formatters", .list (first.describe :: rest.attach.map fun ⟨f, _⟩ => f.describe))]
  | f => .dict [("type", .scalar (.str f.className))]

/-- The formatter a dictionary describes; `fuel` bounds the nesting of fallbacks. -/
def ofSpecWith : Nat → Element → Except Error Formatter
  | 0, _ => .error .invalid
  | fuel + 1, .dict entries =>
    let onlyKeys (keys : List String) : Bool := entries.all fun (k, _) => keys.contains k
    match entries.lookup "type" with
    | some (.scalar (.str "java")) => .error .patternFormatter
    | some (.scalar (.str "fallback")) => do
      let formatters ← match entries.lookup "formatters" with
        | some (.list items) => items.mapM (ofSpecWith fuel)
        | _ => .error .invalid
      if !onlyKeys ["type", "formatters"] then .error .invalid
      else match formatters with
        | [] => .error .invalid
        | f :: fs => .ok (.fallback f fs)
    | some (.scalar (.str kind)) =>
      let simple := match kind with
        | "iso8601" => some Formatter.iso8601
        | "unix" => some .unix
        | "unix_ms" => some .unixMs
        | "tai64n" => some .tai64n
        | _ => none
      match simple with
      | some f => if onlyKeys ["type"] then .ok f else .error .invalid
      | none => .error .invalid
    | _ => .error .invalid
  | _ + 1, _ => .error .invalid

/-- The formatter a dictionary describes. -/
def ofSpec (e : Element) : Except Error Formatter := ofSpecWith (e.depth + 1) e

end Formatter

namespace Zone

/-- The zone a value names: `UTC`, or a dictionary with an integer `offset_minutes`; none for
any other value. -/
def ofSpec? : Element → Option (Except Error Zone)
  | .scalar (.str "UTC") => some (.ok utc)
  | .dict [("offset_minutes", .scalar (.int n))] => some (ofMinutes n)
  | _ => none

end Zone

end Ingest.Time
