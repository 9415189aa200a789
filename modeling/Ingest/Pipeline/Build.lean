import Ingest.Pipeline.Processor
import Ingest.Document.Strict
import Ingest.Error
import Ingest.Regex.Parse

/-!
# Building processors from options

A processor is built from the name of its kind and a dictionary of options. Each kind declares
its options with a type and, for most, a default; an option that is not declared, a required
option that is missing, or a value of the wrong type fails the build with `Error.invalid`.
Types are strict: a text is only a text, a boolean only a boolean, and an integer an integer
or a text of decimal digits with an optional minus sign. A path option takes a path or a
dotted text.

Building then normalises what it was given: a field action whose target is its own field gets
no target, and the fields of `keep` and `remove` are reduced to those that no other field of
the set lies above, in text order.
-/

namespace Ingest

/-- An option as given to a build: a value, a ready path, a list of options, built processors,
or a condition. -/
inductive Setting where
  | value (e : Element)
  | path (p : FieldPath)
  | list (items : List Setting)
  | processors (ps : List (Processor Element))
  | condition (c : Condition)
  | formatter (f : Time.Formatter)
  | zone (z : Time.Zone)
deriving Inhabited

namespace Setting

/-- A path: a ready path or a dotted text. -/
def toPath : Setting → Except Error FieldPath
  | .path p => .ok p
  | .value (.scalar (.str s)) => (FieldPath.parse s).mapError fun _ => .invalid
  | _ => .error .invalid

/-- A path, or none for null. -/
def toPath? : Setting → Except Error (Option FieldPath)
  | .value (.scalar .null) => .ok none
  | s => s.toPath.map some

/-- A list of paths. -/
def toPaths : Setting → Except Error (List FieldPath)
  | .list items => items.mapM toPath
  | .value (.list items) => items.mapM fun e => toPath (.value e)
  | _ => .error .invalid

/-- A boolean. -/
def toBool : Setting → Except Error Bool
  | .value (.scalar (.bool b)) => .ok b
  | _ => .error .invalid

/-- A text. -/
def toText : Setting → Except Error String
  | .value (.scalar (.str s)) => .ok s
  | _ => .error .invalid

/-- A text, or none for null. -/
def toText? : Setting → Except Error (Option String)
  | .value (.scalar .null) => .ok none
  | s => s.toText.map some

/-- A list of texts. -/
def toTexts : Setting → Except Error (List String)
  | .list items => items.mapM toText
  | .value (.list items) => items.mapM fun e => toText (.value e)
  | _ => .error .invalid

/-- A text of exactly one character. -/
def toChar : Setting → Except Error Char
  | .value (.scalar (.str s)) =>
    match s.toList with
    | [c] => .ok c
    | _ => .error .invalid
  | _ => .error .invalid

/-- An integer. -/
def toInt : Setting → Except Error Int
  | .value e =>
    match e.toInt? with
    | some n => .ok n
    | none => .error .invalid
  | _ => .error .invalid

/-- An integer, or none for null. -/
def toInt? : Setting → Except Error (Option Int)
  | .value (.scalar .null) => .ok none
  | s => s.toInt.map some

/-- One of the given words, as the value it names. -/
def toChoice {α : Type} (choices : List (String × α)) (s : Setting) : Except Error α :=
  match s with
  | .value (.scalar (.str w)) =>
    match choices.lookup w with
    | some a => .ok a
    | none => .error .invalid
  | _ => .error .invalid

/-- A date and time formatter. -/
def toFormatter : Setting → Except Error Time.Formatter
  | .formatter f => .ok f
  | _ => .error .invalid

/-- A time zone. -/
def toZone : Setting → Except Error Time.Zone
  | .zone z => .ok z
  | _ => .error .invalid

/-- A pattern, given as its text. -/
def toRegex : Setting → Except Error Regex.Pattern
  | .value (.scalar (.str s)) =>
    match Regex.Pattern.compile s with
    | some r => .ok r
    | none => .error .invalid
  | _ => .error .invalid

/-- A value of a document. -/
def toValue : Setting → Except Error Element
  | .value e => .ok e
  | _ => .error .invalid

/-- A list of values of a document. -/
def toValues : Setting → Except Error (List Element)
  | .value (.list items) => .ok items
  | .list items => items.mapM toValue
  | _ => .error .invalid

/-- Processors, or none for null. -/
def toProcessors? : Setting → Except Error (Option (List (Processor Element)))
  | .value (.scalar .null) => .ok none
  | .processors ps => .ok (some ps)
  | _ => .error .invalid

/-- A condition, or none for null. -/
def toCondition? : Setting → Except Error (Option Condition)
  | .value (.scalar .null) => .ok none
  | .condition c => .ok (some c)
  | _ => .error .invalid

end Setting

/-- The options given to a build, by name. -/
abbrev Options := Entries Setting

namespace Options

/-- The option `key` read by `f`, or `default` when it is not given. -/
def read {α : Type} (o : Options) (key : String) (default : α) (f : Setting → Except Error α) :
    Except Error α :=
  match Entries.lookup key o with
  | some s => f s
  | none => .ok default

/-- The required option `key` read by `f`. -/
def require {α : Type} (o : Options) (key : String) (f : Setting → Except Error α) :
    Except Error α :=
  match Entries.lookup key o with
  | some s => f s
  | none => .error .invalid

/-- Success when every option given is among `keys`. -/
def only (o : Options) (keys : List String) : Except Error Unit :=
  if o.all fun (k, _) => keys.contains k then .ok () else .error .invalid

end Options

/-- A path from its parts, proved well formed. -/
def FieldPath.const (parts : List String) (nonempty : parts ≠ [])
    (wellFormed : parts.all isPathPart = true) : FieldPath := ⟨parts, nonempty, wellFormed⟩

/-- The fields where a community identifier is looked for and written, when none are given. -/
def FlowFields.standard : FlowFields where
  target := .const ["network", "community_id"] (by simp) (by simp [isPathPart])
  sourceIp := .const ["source", "ip"] (by simp) (by simp [isPathPart])
  sourcePort := .const ["source", "port"] (by simp) (by simp [isPathPart])
  destinationIp := .const ["destination", "ip"] (by simp) (by simp [isPathPart])
  destinationPort := .const ["destination", "port"] (by simp) (by simp [isPathPart])
  ianaNumber := .const ["network", "iana_number"] (by simp) (by simp [isPathPart])
  transport := .const ["network", "transport"] (by simp) (by simp [isPathPart])
  icmpType := .const ["icmp", "type"] (by simp) (by simp [isPathPart])
  icmpCode := .const ["icmp", "code"] (by simp) (by simp [isPathPart])

/-- One pass over `snapshot`, a copy of the fields kept so far, on behalf of `field`: a kept
field above `field` (or equal to it) ends the pass and `field` is not added, while the kept
fields below it that the pass met before stay removed; a kept field below `field` is removed;
a pass that ends without meeting a field above `field` adds it. -/
def sweep (field : FieldPath) : List FieldPath → List FieldPath → List FieldPath
  | [], kept => kept ++ [field]
  | sub :: rest, kept =>
    if sub.isPrefixOf field then kept
    else if field.isPrefixOf sub then sweep field rest (kept.erase sub)
    else sweep field rest kept

/-- `fields` after `field` is offered to it: one pass over a copy of `fields`. -/
def addMinimal (fields : List FieldPath) (field : FieldPath) : List FieldPath :=
  sweep field fields fields

/-- The fields of a set that no other field of it lies above, in text order. -/
def minimalFields (fields : List FieldPath) : List FieldPath :=
  (fields.foldl addMinimal []).mergeSort fun a b => decide (a.render ≤ b.render)

/-- The user agent properties written when none are given. -/
def userAgentProperties : List String :=
  ["name", "major", "minor", "patch", "build", "os", "os_name", "os_major", "os_minor", "device"]

/-- The kinds of processors that can be built, by name. -/
inductive ProcessorKind where
  | append | boolean | bytes | communityId | copy | csv | date | drop | float | integer | ip | json
  | keep | lowercase | remove | set | sort | split | string | trim | uppercase | uriParts
  | urlDecode | userAgent
deriving DecidableEq, Repr

namespace ProcessorKind

/-- The kind with the given name. -/
def ofName? : String → Option ProcessorKind
  | "append" => some .append
  | "boolean" => some .boolean
  | "bytes" => some .bytes
  | "community_id" => some .communityId
  | "copy" => some .copy
  | "csv" => some .csv
  | "date" => some .date
  | "drop" => some .drop
  | "float" => some .float
  | "integer" => some .integer
  | "ip" => some .ip
  | "json" => some .json
  | "keep" => some .keep
  | "lowercase" => some .lowercase
  | "remove" => some .remove
  | "set" => some .set
  | "sort" => some .sort
  | "split" => some .split
  | "string" => some .string
  | "trim" => some .trim
  | "uppercase" => some .uppercase
  | "uri_parts" => some .uriParts
  | "urldecode" => some .urlDecode
  | "user_agent" => some .userAgent
  | _ => none

end ProcessorKind

/-- The options every processor takes. -/
def commonKeys : List String := ["description", "tag", "condition", "ignore_failure", "on_failure"]

/-- The options of every field action. -/
def fieldKeys : List String := ["field", "target_field", "ignore_missing", "remove_if_successful"]

/-- The field options of an action, its target dropped when it is the field itself. -/
def readFieldOptions (o : Options) : Except Error FieldOptions := do
  let field ← o.require "field" Setting.toPath
  let target ← o.read "target_field" none Setting.toPath?
  let ignoreMissing ← o.read "ignore_missing" false Setting.toBool
  let removeIfSuccessful ← o.read "remove_if_successful" false Setting.toBool
  let target := if target == some field then none else target
  return ⟨field, target, ignoreMissing, removeIfSuccessful⟩

/-- A field action built from its field options and the options of its own, declared by
`keys`. -/
def fieldAction (o : Options) (keys : List String)
    (f : FieldOptions → Except Error (Action Element)) : Except Error (Action Element) := do
  o.only (commonKeys ++ fieldKeys ++ keys)
  f (← readFieldOptions o)

/-- The action of a processor of kind `k`. -/
def readAction (k : ProcessorKind) (o : Options) : Except Error (Action Element) :=
  match k with
  | .append => do
    o.only (commonKeys ++ ["field", "values", "allow_duplicates"])
    return .append (← o.require "field" Setting.toPath) (← o.require "values" Setting.toValues)
      (← o.read "allow_duplicates" true Setting.toBool)
  | .boolean => fieldAction o [] fun f => pure (.boolean f)
  | .bytes => fieldAction o [] fun f => pure (.bytes f)
  | .communityId => do
    o.only (commonKeys ++ ["target_field", "source_ip_field", "source_port_field",
      "destination_ip_field", "destination_port_field", "iana_number_field", "transport_field",
      "icmp_type_field", "icmp_code_field", "seed", "ignore_missing"])
    let d := FlowFields.standard
    let fields : FlowFields := {
      target := ← o.read "target_field" d.target Setting.toPath
      sourceIp := ← o.read "source_ip_field" d.sourceIp Setting.toPath
      sourcePort := ← o.read "source_port_field" d.sourcePort Setting.toPath
      destinationIp := ← o.read "destination_ip_field" d.destinationIp Setting.toPath
      destinationPort := ← o.read "destination_port_field" d.destinationPort Setting.toPath
      ianaNumber := ← o.read "iana_number_field" d.ianaNumber Setting.toPath
      transport := ← o.read "transport_field" d.transport Setting.toPath
      icmpType := ← o.read "icmp_type_field" d.icmpType Setting.toPath
      icmpCode := ← o.read "icmp_code_field" d.icmpCode Setting.toPath }
    let seed ← o.read "seed" 0 Setting.toInt
    if seed < 0 || seed ≥ 65536 then throw .invalid
    return .communityId fields seed.toNat (← o.read "ignore_missing" false Setting.toBool)
  | .copy => do
    o.only (commonKeys ++ ["field", "target_field", "ignore_empty_value", "override",
      "remove_if_successful"])
    return .copy (← o.require "field" Setting.toPath)
      (← o.require "target_field" Setting.toPath)
      (← o.read "ignore_empty_value" false Setting.toBool)
      (← o.read "override" true Setting.toBool)
      (← o.read "remove_if_successful" false Setting.toBool)
  | .csv => do
    o.only (commonKeys ++ ["field", "target_fields", "separator", "quote", "ignore_missing", "trim",
      "empty_value"])
    return .csv {
      field := ← o.require "field" Setting.toPath
      targets := ← o.require "target_fields" Setting.toPaths
      separator := ← o.read "separator" ',' Setting.toChar
      quote := ← o.read "quote" '"' Setting.toChar
      ignoreMissing := ← o.read "ignore_missing" false Setting.toBool
      trim := ← o.read "trim" false Setting.toBool
      emptyValue := ← o.read "empty_value" "" Setting.toText }
  | .date => fieldAction o ["parse_handler", "output_handler", "timezone"] fun f => do
    return .date f (← o.require "parse_handler" Setting.toFormatter)
      (← o.require "output_handler" Setting.toFormatter) (← o.require "timezone" Setting.toZone)
  | .drop => do
    o.only commonKeys
    return .drop
  | .float => fieldAction o ["precision"] fun f => do
    let precisions : List (String × Precision) := [("half", .half), ("double", .double)]
    return .float f (← o.require "precision" (Setting.toChoice precisions))
  | .integer => fieldAction o ["max", "min"] fun f => do
    return .integer f (← o.read "max" none Setting.toInt?) (← o.read "min" none Setting.toInt?)
  | .ip => fieldAction o [] fun f => pure (.ip f)
  | .json => do
    o.only (commonKeys ++ ["field", "target_field", "add_to_root"])
    let field ← o.require "field" Setting.toPath
    let target ← o.read "target_field" none Setting.toPath?
    let addToRoot ← o.read "add_to_root" false Setting.toBool
    if target.isSome && addToRoot then throw .invalid
    return .json field target addToRoot
  | .keep => do
    o.only (commonKeys ++ ["fields"])
    return .keep (minimalFields (← o.require "fields" Setting.toPaths))
  | .lowercase => fieldAction o [] fun f => pure (.lowercase f)
  | .remove => do
    o.only (commonKeys ++ ["fields", "ignore_missing"])
    return .remove (minimalFields (← o.require "fields" Setting.toPaths))
      (← o.read "ignore_missing" false Setting.toBool)
  | .set => do
    o.only (commonKeys ++ ["field", "value", "override", "ignore_empty_value"])
    return .set (← o.require "field" Setting.toPath) (← o.require "value" Setting.toValue)
      (← o.read "override" true Setting.toBool)
      (← o.read "ignore_empty_value" false Setting.toBool)
  | .sort => fieldAction o ["order"] fun f => do
    return .sort f (← o.read "order" .asc (Setting.toChoice [("asc", .asc), ("desc", .desc)]))
  | .split => fieldAction o ["separator", "preserve_trailing"] fun f => do
    return .split f (← o.require "separator" Setting.toRegex)
      (← o.read "preserve_trailing" false Setting.toBool)
  | .string => fieldAction o [] fun f => pure (.string f)
  | .trim => fieldAction o [] fun f => pure (.trim f)
  | .uppercase => fieldAction o [] fun f => pure (.uppercase f)
  | .uriParts => fieldAction o ["keep_original"] fun f => do
    return .uriParts f (← o.read "keep_original" true Setting.toBool)
  | .urlDecode => fieldAction o [] fun f => pure (.urlDecode f)
  | .userAgent => fieldAction o ["regex_file", "properties"] fun f => do
    return .userAgent f (← o.read "regex_file" none Setting.toText?)
      (← o.read "properties" userAgentProperties Setting.toTexts)

/-- The processor of kind `k` with options `o`. -/
def Processor.build (k : ProcessorKind) (o : Options) : Except Error (Processor Element) := do
  let action ← readAction k o
  return .mk action (← o.read "description" none Setting.toText?)
    (← o.read "tag" none Setting.toText?)
    (← o.read "condition" none Setting.toCondition?)
    (← o.read "ignore_failure" false Setting.toBool)
    (← o.read "on_failure" none Setting.toProcessors?)

/-- The condition with options `o`: a non-empty script and nothing else. -/
def Condition.build (o : Options) : Except Error Condition := do
  o.only ["script"]
  let script ← o.require "script" Setting.toText
  if script.isEmpty then throw .invalid
  return ⟨script⟩

end Ingest
