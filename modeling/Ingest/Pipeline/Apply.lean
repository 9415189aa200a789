import Ingest.Pipeline.Processor
import Ingest.Document.Compare
import Ingest.Document.Convert
import Ingest.Document.Json
import Ingest.Document.Strict
import Ingest.Order.RunSort
import Ingest.Text.Case
import Ingest.Text.Chars
import Ingest.Text.Csv
import Ingest.Regex.Match

/-!
# What processors do to a document

Processors act on a document held in a `Store`, through `Run`: a step that reads and changes
the store and may fail. A failure keeps the changes made before it, so a processor that fails
half way leaves the document as far as it got.

A field action reads its field (a missing field is skipped when `ignoreMissing` is set, and is
a failure otherwise), checks that the value has the kind the action takes (a failed check is
`Error.invalid`), computes the result, and writes it to the target, or back to the field. With
`removeIfSuccessful` and a target, the field is then removed.
-/

namespace Ingest

/-- A step on the store of documents, which may fail and keeps its changes when it does. -/
abbrev Run := EStateM Error Store

namespace Run

/-- The node at `p` below `doc`, or where the walk stopped. -/
def find (p : FieldPath) (doc : Node) : Run (Except PathMiss Node) := do
  return (← get).get p doc

/-- The node at `p` below `doc`. -/
def read (p : FieldPath) (doc : Node) : Run Node := do
  match (← get).get p doc with
  | .ok n => pure n
  | .error m => throw (p.missing m)

/-- Write `v` at `p` below `doc`; a write that stops keeps what it changed on the way. -/
def write (p : FieldPath) (v : Node) (override : Bool) (doc : Node) : Run Unit :=
  (Store.set p v override doc).adaptExcept p.missing

/-- Remove the entry at `p` below `doc`. -/
def erase (p : FieldPath) (doc : Node) : Run Unit := do
  match (← get).delete p doc with
  | .ok s => set s
  | .error m => throw (p.missing m)

/-- A tree put into the store. -/
def put (e : Element) : Run Node := modifyGet fun s => s.install e

/-- A scalar put into the store. -/
def scalar (x : Scalar) : Run Node := modifyGet fun s => s.scalar x

/-- A new list of the given nodes. -/
def list (items : List Node) : Run Node := modifyGet fun s => s.alloc (.list items)

/-- The text a node holds; any other value fails the kind check. -/
def text (n : Node) : Run String := do
  match (← get).scalarOf? n with
  | some (.str t) => pure t
  | _ => throw .invalid

/-- The integer a node stands for under the strict reading; any other value fails the check. -/
def strictInt (n : Node) : Run Int := do
  match (← get).scalarOf? n with
  | some (.int i) => pure i
  | some (.str t) =>
    match (Element.scalar (.str t)).toInt? with
    | some i => pure i
    | none => throw .invalid
  | _ => throw .invalid

/-- Whether a node is null or the empty text. -/
def isEmptyValue (n : Node) : Run Bool := do
  match (← get).scalarOf? n with
  | some .null => pure true
  | some (.str "") => pure true
  | _ => pure false

end Run

/-- The factors of the units of byte sizes, in the order they are tried as endings. -/
def byteUnits : List (String × Nat) :=
  [("k", Nat.pow 2 10), ("kb", Nat.pow 2 10), ("m", Nat.pow 2 20), ("mb", Nat.pow 2 20),
   ("g", Nat.pow 2 30), ("gb", Nat.pow 2 30), ("t", Nat.pow 2 40), ("tb", Nat.pow 2 40),
   ("p", Nat.pow 2 50), ("pb", Nat.pow 2 50), ("b", 1)]

/-- The number of bytes a size such as `12kb` or `1.5 MB` stands for: the first unit that ends
the text in lower case gives the factor, and what comes before it, blanks cut at its end, is an
integer or else a double, multiplied and cut toward zero. `0` and `-1` need no unit. -/
def byteCount (t : String) : Except Error Int :=
  if t == "0" || t == "-1" then (Scalar.str t).toInt
  else
    let v := Text.casefold t
    match byteUnits.find? fun (u, _) => v.endsWith u with
    | none => .error (.unknownUnit v)
    | some (u, factor) =>
      let rest := Text.trimEnd (String.ofList (v.toList.take (v.length - u.length)))
      match readInt rest with
      | .ok n => .ok (n * factor)
      | .error _ =>
        match readFloat? rest with
        | none => .error (.notAFloat (Text.quote rest))
        | some x =>
          let y := if x.isFinite then x.mulFinite (Binary64.ofInt factor) else x
          (Scalar.float y).toInt

/-- Whether an integer lies within optional bounds, both included. -/
def withinBounds (n : Int) (max min : Option Int) : Bool :=
  !((min.map fun m => decide (n < m)).getD false || (max.map fun m => decide (n > m)).getD false)

/-- `entries` with `k` bound to `v`: in place if `k` is there, at the end otherwise. -/
def bindField (entries : List (FieldPath × Scalar)) (k : FieldPath) (v : Scalar) :
    List (FieldPath × Scalar) :=
  if entries.any (·.1 == k) then entries.map fun (j, w) => if j == k then (j, v) else (j, w)
  else entries ++ [(k, v)]

/-- The fields a record fills: each target with the text in its place, and null for targets
beyond the record; a target named twice keeps its first place and its last value, and texts
beyond the targets are dropped. -/
def recordFields (targets : List FieldPath) (row : List String) : List (FieldPath × Scalar) :=
  let filled := (targets.zip row).foldl (fun acc (k, t) => bindField acc k (.str t)) []
  (targets.drop row.length).foldl (fun acc k => bindField acc k .null) filled

namespace Action

/-- The value computed by a field action from the value `v` of its field. -/
def process (a : Action Node) (v : Node) : Run Node := do
  let s ← get
  match a with
  | .boolean _ =>
    match s.scalarOf? v with
    | some (.str t) =>
      let f := Text.casefold t
      if f == "true" then pure (.scalar (.bool true))
      else if f == "false" then pure (.scalar (.bool false))
      else throw (.notBoolean (s.repr v))
    | _ => throw (.notBoolean (s.repr v))
  | .bytes _ =>
    let t ← Run.text v
    match byteCount t with
    | .ok n => pure (.scalar (.int n))
    | .error e => throw e
  | .float _ precision =>
    match s.toFloat v with
    | .ok x => Run.scalar (.float (if precision == .half then x.toBinary32 else x))
    | .error e => throw e
  | .integer _ max min =>
    match s.toInt v with
    | .ok n =>
      if withinBounds n max min then pure (.scalar (.int n)) else throw (.outOfBounds min max)
    | .error e => throw e
  | .ip _ =>
    let attempt (v4 : Bool) : Except AddressError IpAddress :=
      match s.scalarOf? v with
      | some (.int n) => if v4 then IpAddress.ofIntV4 n else IpAddress.ofIntV6 n
      | some (.bool b) =>
        let n : Int := if b then 1 else 0
        if v4 then IpAddress.ofIntV4 n else IpAddress.ofIntV6 n
      | _ =>
        if v4 then IpAddress.parseV4 (s.text v) (s.repr v)
        else IpAddress.parseV6 (s.text v) (s.repr v)
    match attempt true with
    | .ok addr => pure (.scalar (.ip addr))
    | .error _ =>
      match attempt false with
      | .ok addr => pure (.scalar (.ip addr))
      | .error e => throw (.address e)
  | .string _ => pure (.scalar (.str (s.text v)))
  | .lowercase _ => return .scalar (.str (Text.lower (← Run.text v)))
  | .uppercase _ => return .scalar (.str (Text.upper (← Run.text v)))
  | .trim _ =>
    match s.scalarOf? v, s.items? v with
    | some (.str t), _ => pure (.scalar (.str (Text.trim t)))
    | _, some items =>
      let texts ← items.mapM Run.text
      Run.list (texts.map fun t => .scalar (.str (Text.trim t)))
    | _, _ => throw .invalid
  | .sort _ order =>
    match s.items? v with
    | some items =>
      match Order.sortBy s.less (order == .desc) items with
      | .ok sorted => Run.list sorted
      | .error e => throw e
    | none => throw .invalid
  | .date _ parser output zone =>
    match parser.parse s v with
    | .ok t =>
      let t := if t.zone.isNone then t.withZone zone else t
      match output.format t with
      | .ok x => Run.scalar x
      | .error e => throw e
    | .error e => throw e
  | .split _ separator preserveTrailing =>
    let pieces := separator.pieces (← Run.text v)
    let pieces :=
      if preserveTrailing then pieces else (pieces.reverse.dropWhile String.isEmpty).reverse
    Run.list (pieces.map fun t => .scalar (.str t))
  | .uriParts .. | .urlDecode _ | .userAgent .. => do
    let _ ← Run.text v
    throw .notImplemented
  | _ => pure v

/-- Run a field action with options `f` on the document `doc`. -/
def applyField (a : Action Node) (f : FieldOptions) (doc : Node) : Run Unit := do
  match ← Run.find f.field doc with
  | .error m => if f.ignoreMissing then pure () else throw (f.field.missing m)
  | .ok value =>
    let result ← a.process value
    Run.write (f.target.getD f.field) result true doc
    if f.removeIfSuccessful && f.target.isSome then Run.erase f.field doc

/-- Add `v` to list `l` unless it is there already. -/
def appendNew (l v : Node) : Run Unit := do
  let s ← get
  match s.items? l with
  | some items => if s.mem v items then pure () else modify (·.extend l [v])
  | none => pure ()

/-- Run the action on the document `doc`. -/
def apply (a : Action Node) (doc : Node) : Run Unit := do
  match a with
  | .boolean f | .bytes f | .date f .. | .float f _ | .integer f .. | .ip f | .lowercase f
  | .string f
  | .trim f | .uppercase f | .sort f _ | .split f .. | .uriParts f _ | .urlDecode f
  | .userAgent f .. =>
    a.applyField f doc
  | .append field values allowDuplicates =>
    let l ← Run.read field doc
    let s ← get
    match s.items? l with
    | none => throw (.notAList (s.className l))
    | some _ =>
      if allowDuplicates then modify (·.extend l values)
      else values.forM (appendNew l)
  | .communityId fields _ ignoreMissing =>
    let attempt : Run Unit := do
      let _ ← Run.read fields.sourceIp doc
      let _ ← Run.strictInt (← Run.read fields.sourcePort doc)
      let _ ← Run.read fields.destinationIp doc
      let _ ← Run.strictInt (← Run.read fields.destinationPort doc)
      match ← Run.find fields.ianaNumber doc with
      | .ok n =>
        let _ ← Run.strictInt n
        throw .notImplemented
      | .error _ =>
        let _ ← Run.read fields.transport doc
        throw .notImplemented
    tryCatch attempt fun e =>
      match e with
      | .missingKey _ => if ignoreMissing then pure () else throw e
      | _ => throw e
  | .copy field target ignoreEmptyValue override removeIfSuccessful =>
    match ← Run.find field doc with
    | .error m => if ignoreEmptyValue then pure () else throw (field.missing m)
    | .ok value =>
      if ignoreEmptyValue && (← Run.isEmptyValue value) then return
      if !override then
        if let .ok _ ← Run.find target doc then return
      Run.write target value true doc
      if removeIfSuccessful then Run.erase field doc
  | .csv o =>
    match ← Run.find o.field doc with
    | .error m => if o.ignoreMissing then pure () else throw (o.field.missing m)
    | .ok v =>
      let s ← get
      let text ← match s.scalarOf? v with
        | some (.str t) => pure t
        | some .null => pure ""
        | _ => throw (.csvInput (s.typeName v))
      match Csv.firstRecord o.separator o.quote text with
      | .error e => throw (.csv e.message)
      | .ok none => throw .csvNoRecord
      | .ok (some row) =>
        (recordFields o.targets row).forM fun (p, x) => do
          Run.write p (← Run.scalar x) true doc
  | .drop => throw .drop
  | .json field target addToRoot =>
    let v ← Run.read field doc
    let s ← get
    match s.scalarOf? v with
    | some (.str t) =>
      match Element.readJson? t with
      | none => throw .jsonSyntax
      | some (.dict entries) =>
        if addToRoot then
          entries.forM fun (k, e) => do
            let n ← Run.put e
            modify (·.insertKey doc k n)
        else
          let n ← Run.put (.dict entries)
          Run.write (target.getD field) n true doc
      | some other => throw (.jsonNotObject other.text)
    | _ => throw (.jsonInput (s.className v) field.render)
  | .keep _ => throw .notImplemented
  | .remove fields ignoreMissing =>
    if !ignoreMissing then
      fields.forM fun f => do
        match ← Run.find f doc with
        | .ok _ => pure ()
        | .error m => throw (.nothingToRemove (f.prefixText m.depth))
    fields.forM fun f => tryCatch (Run.erase f doc) fun _ => pure ()
  | .set field value override ignoreEmptyValue =>
    if ignoreEmptyValue && (← Run.isEmptyValue value) then return
    Run.write field value override doc

end Action

mutual
/-- Run a processor of a pipeline on `doc`: a condition cannot be checked and fails; a
failure other than a drop is ignored, handed to the processors run on failure, or reported as
the failure of this processor. A failure coming out of the processors run on failure is passed
on as it is. -/
def Processor.run : Processor Node → Node → Run Unit
  | .mk a _ tag condition ignoreFailure onFailure, doc => do
    if condition.isSome then throw .notImplemented
    tryCatch (a.apply doc) fun e =>
      match e with
      | .drop => throw e
      | _ =>
        if ignoreFailure then pure ()
        else
          match onFailure with
          | some qs => Processor.runList qs doc
          | none => throw (.pipelineFailure e a.kindName tag)

/-- Run processors in order on `doc`. -/
def Processor.runList : List (Processor Node) → Node → Run Unit
  | [], _ => pure ()
  | p :: ps, doc => do
    Processor.run p doc
    Processor.runList ps doc
end

/-- A processor installed in the store: its values put there, to be shared by the documents
it writes. -/
def Processor.install (p : Processor Element) (s : Store) : Processor Node × Store :=
  p.mapValues (fun e s => s.install e) s

namespace Pipeline

/-- Run the pipeline on `doc`. -/
def run (p : Pipeline Node) (doc : Node) : Run Unit := Processor.runList p.processors doc

/-- The pipeline installed in the store, its values shared by the documents it writes. -/
def install (p : Pipeline Element) (s : Store) : Pipeline Node × Store :=
  let (ps, s) := Processor.mapList (fun e s => s.install e) p.processors s
  (⟨p.name, ps⟩, s)

end Pipeline

end Ingest
