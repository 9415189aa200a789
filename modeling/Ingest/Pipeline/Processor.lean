import Ingest.Document.FieldPath
import Ingest.Regex.Syntax
import Ingest.Time.Formatter

/-!
# Processors

A processor changes a document in place. Its `Action` says what it does; beside it every
processor has a description, a tag, an optional condition, and what to do when it fails:
`ignoreFailure`, or an `onFailure` list of processors to run instead.

Many actions read one field, turn its value into a new one and write the result back, to the
field itself or to a target field (`FieldOptions`). The others work on the document as a
whole: appending to a list, copying, setting, removing, and so on.

`Processor α` holds the values it puts into documents (a set's value, an append's values) as
`α`: trees while it is built and described, nodes of a store once installed there, so that
the documents it writes share those values.

A `Pipeline` is a named list of processors, run in order on each document.
-/

namespace Ingest

/-- The options of an action that reads one field and writes a value computed from it. -/
structure FieldOptions where
  /-- The field read. -/
  field : FieldPath
  /-- Where the result goes; none for the field itself. -/
  target : Option FieldPath
  /-- Whether a missing field is skipped rather than a failure. -/
  ignoreMissing : Bool
  /-- Whether the field is removed once the result is at the target. -/
  removeIfSuccessful : Bool
deriving DecidableEq, Repr

/-- The fields a community identifier is computed from and written to. -/
structure FlowFields where
  target : FieldPath
  sourceIp : FieldPath
  sourcePort : FieldPath
  destinationIp : FieldPath
  destinationPort : FieldPath
  ianaNumber : FieldPath
  transport : FieldPath
  icmpType : FieldPath
  icmpCode : FieldPath
deriving DecidableEq, Repr

/-- How a line of separated values is read. -/
structure CsvOptions where
  field : FieldPath
  targets : List FieldPath
  separator : Char
  quote : Char
  ignoreMissing : Bool
  trim : Bool
  emptyValue : String
deriving DecidableEq, Repr

/-- The precision a double is kept at. -/
inductive Precision where
  | half
  | double
deriving DecidableEq, Repr

/-- The order of a sort. -/
inductive SortOrder where
  | asc
  | desc
deriving DecidableEq, Repr

/-- A condition on documents, written as a script. -/
structure Condition where
  script : String
deriving DecidableEq, Repr

/-- What a processor does. -/
inductive Action (α : Type) where
  /-- Add `values` to the list at `field`; without duplicates, only values not in it yet. -/
  | append (field : FieldPath) (values : List α) (allowDuplicates : Bool)
  /-- Read a text as a boolean. -/
  | boolean (f : FieldOptions)
  /-- Read a size with a unit as a number of bytes. -/
  | bytes (f : FieldOptions)
  /-- Compute the community identifier of a network flow. -/
  | communityId (fields : FlowFields) (seed : Nat) (ignoreMissing : Bool)
  /-- Put the value of `field` at `target` as well. -/
  | copy (field target : FieldPath) (ignoreEmptyValue override removeIfSuccessful : Bool)
  /-- Read a line of separated values into fields. -/
  | csv (o : CsvOptions)
  /-- Read a date and time with `parser`, put it in `zone` if it has none, and write it with
  `output`. -/
  | date (f : FieldOptions) (parser output : Time.Formatter) (zone : Time.Zone)
  /-- Stop processing the document, which is to be dropped. -/
  | drop
  /-- Convert to a double. -/
  | float (f : FieldOptions) (precision : Precision)
  /-- Convert to an integer within optional bounds. -/
  | integer (f : FieldOptions) (max min : Option Int)
  /-- Convert to an IP address. -/
  | ip (f : FieldOptions)
  /-- Read a text as a JSON object, into a target, the field itself, or the document root. -/
  | json (field : FieldPath) (target : Option FieldPath) (addToRoot : Bool)
  /-- Keep only the given fields. -/
  | keep (fields : List FieldPath)
  /-- Convert a text to lower case. -/
  | lowercase (f : FieldOptions)
  /-- Remove the given fields. -/
  | remove (fields : List FieldPath) (ignoreMissing : Bool)
  /-- Put `value` at `field`. -/
  | set (field : FieldPath) (value : α) (override ignoreEmptyValue : Bool)
  /-- Sort a list. -/
  | sort (f : FieldOptions) (order : SortOrder)
  /-- Cut a text at the matches of a pattern; empty pieces at the end are dropped unless
  `preserveTrailing`. -/
  | split (f : FieldOptions) (separator : Regex.Pattern) (preserveTrailing : Bool)
  /-- Write a value as text. -/
  | string (f : FieldOptions)
  /-- Remove blanks around a text, or around each text of a list. -/
  | trim (f : FieldOptions)
  /-- Convert a text to upper case. -/
  | uppercase (f : FieldOptions)
  /-- Split a URI into its parts. -/
  | uriParts (f : FieldOptions) (keepOriginal : Bool)
  /-- Decode a URL-encoded text. -/
  | urlDecode (f : FieldOptions)
  /-- Read a user agent text. -/
  | userAgent (f : FieldOptions) (regexFile : Option String) (properties : List String)
deriving Repr

/-- A processor: an action with its settings and its failure handling. -/
inductive Processor (α : Type) where
  | mk (action : Action α) (description tag : Option String) (condition : Option Condition)
      (ignoreFailure : Bool) (onFailure : Option (List (Processor α)))

namespace Processor

variable {α β : Type}

/-- What the processor does. -/
def action : Processor α → Action α
  | mk a .. => a

/-- The description. -/
def description : Processor α → Option String
  | mk _ d .. => d

/-- The tag, which names the processor in reports of failures. -/
def tag : Processor α → Option String
  | mk _ _ t .. => t

/-- The condition under which the processor runs. -/
def condition : Processor α → Option Condition
  | mk _ _ _ c .. => c

/-- Whether a failure is ignored. -/
def ignoreFailure : Processor α → Bool
  | mk _ _ _ _ i _ => i

/-- The processors run instead when this one fails. -/
def onFailure : Processor α → Option (List (Processor α))
  | mk _ _ _ _ _ o => o

end Processor

namespace Action

variable {α β : Type}

/-- The name of the kind of processor that does this action. -/
def kindName : Action α → String
  | .append .. => "AppendProcessor"
  | .boolean _ => "BooleanProcessor"
  | .bytes _ => "BytesProcessor"
  | .communityId .. => "CommunityIDProcessor"
  | .copy .. => "CopyProcessor"
  | .csv _ => "CSVProcessor"
  | .date .. => "DateProcessor"
  | .drop => "DropProcessor"
  | .float .. => "FloatingPointProcessor"
  | .integer .. => "IntegerProcessor"
  | .ip _ => "IPAddressProcessor"
  | .json .. => "JsonProcessor"
  | .keep _ => "KeepProcessor"
  | .lowercase _ => "LowercaseProcessor"
  | .remove .. => "RemoveProcessor"
  | .set .. => "SetProcessor"
  | .sort .. => "SortProcessor"
  | .split .. => "RegexpSplitProcessor"
  | .string _ => "StringProcessor"
  | .trim _ => "TrimProcessor"
  | .uppercase _ => "UppercaseProcessor"
  | .uriParts .. => "URIPartsProcessor"
  | .urlDecode _ => "URLDecodeProcessor"
  | .userAgent .. => "UserAgentProcessor"

/-- The action with its values put through `f`, in order, threading a state. -/
def mapValues {σ : Type} (f : α → σ → β × σ) (a : Action α) (st : σ) : Action β × σ :=
  match a with
  | .append field values allowDuplicates =>
    let step (acc : List β × σ) (v : α) : List β × σ :=
      let (w, st) := f v acc.2
      (acc.1 ++ [w], st)
    let (vs, st) := values.foldl step ([], st)
    (.append field vs allowDuplicates, st)
  | .set field value override ignoreEmptyValue =>
    let (w, st) := f value st
    (.set field w override ignoreEmptyValue, st)
  | .boolean o => (.boolean o, st)
  | .bytes o => (.bytes o, st)
  | .communityId fs seed im => (.communityId fs seed im, st)
  | .copy a b c d e => (.copy a b c d e, st)
  | .csv o => (.csv o, st)
  | .date o p w z => (.date o p w z, st)
  | .drop => (.drop, st)
  | .float o p => (.float o p, st)
  | .integer o mx mn => (.integer o mx mn, st)
  | .ip o => (.ip o, st)
  | .json a b c => (.json a b c, st)
  | .keep fs => (.keep fs, st)
  | .lowercase o => (.lowercase o, st)
  | .remove fs im => (.remove fs im, st)
  | .sort o ord => (.sort o ord, st)
  | .split o r p => (.split o r p, st)
  | .string o => (.string o, st)
  | .trim o => (.trim o, st)
  | .uppercase o => (.uppercase o, st)
  | .uriParts o k => (.uriParts o k, st)
  | .urlDecode o => (.urlDecode o, st)
  | .userAgent o r ps => (.userAgent o r ps, st)

end Action

mutual
/-- The processor with its values, and those of the processors it runs on failure, put
through `f` in order, threading a state. -/
def Processor.mapValues {α β σ : Type} (f : α → σ → β × σ) :
    Processor α → σ → Processor β × σ
  | .mk a d t c i o, st =>
    let (a, st) := a.mapValues f st
    match o with
    | none => (.mk a d t c i none, st)
    | some ps =>
      let (qs, st) := Processor.mapList f ps st
      (.mk a d t c i (some qs), st)

/-- Processors with their values put through `f`, in order. -/
def Processor.mapList {α β σ : Type} (f : α → σ → β × σ) :
    List (Processor α) → σ → List (Processor β) × σ
  | [], st => ([], st)
  | p :: ps, st =>
    let (q, st) := Processor.mapValues f p st
    let (qs, st) := Processor.mapList f ps st
    (q :: qs, st)
end

/-- A named list of processors. -/
structure Pipeline (α : Type) where
  name : Option String
  processors : List (Processor α)

end Ingest
