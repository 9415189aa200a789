import Ingest.Elastic.Definition
import Ingest.Pipeline.Apply
import Ingest.Pipeline.Describe
import Ingest.Pipeline.Build

/-!
# Pipelines from definitions

`Step.convert` turns a checked processor of a definition into a processor of this library, and
`Definition.toPipeline` turns the processors of a definition into a pipeline, in order, stopping
at the first that fails; the failure processors of a pipeline definition are not read.

Most kinds become the processor of the same name, built with the common options: the
description, `ignore_failure`, the tag, and the failure processors converted in turn. Before
those, the arguments of the kind are worked out, and a kind may fail there. Three of these
failures are defects of the conversion, which the definitions it reads do not call for:

* `community_id` reads its ICMP code option as `icmp_code_field`, a name the processor does not
  have (its option is `icmp_code`), so every such processor fails;
* a condition (`if`) is handed to the condition it builds positionally, which that constructor
  refuses, so every processor with a condition fails once its own arguments are worked out;
* `date` with keyword formats other than exactly one builds its chain of readers under an
  option name the chain does not have, and fails its check.

A `date` processor fails in any case: a format that is not one of the four keywords, and the
output format it always writes with, are patterns of a formatter language that has no
implementation and cannot be made. The processor built last checks its options as any build
does.

`convert` and `json` keep only their field options: they become the conversion of the type
named (`auto` has none), and the JSON processor. `remove` becomes a removal of its fields, or,
with `keep`, a removal of all but those; `set` with `copy_from` becomes a copy. The other kinds
have no processor here.
-/

namespace Ingest.Elastic

/-- The date formats a definition names by keyword. -/
def dateKeywords : List String := ["ISO8601", "UNIX", "UNIX_MS", "TAI64N"]

/-- A value as a list: a list itself, any other value alone. -/
def asList : Element → Element
  | .list items => .list items
  | e => .list [e]

/-- The bounds of an integer conversion of the given type, if it is one. -/
def integerBounds : String → Option (Int × Int)
  | "integer" => some (-Int.pow 2 31, Int.pow 2 31 - 1)
  | "long" => some (-Int.pow 2 63, Int.pow 2 63 - 1)
  | _ => none

namespace Step

/-- The value of an option as a build setting. -/
def setting (s : Step) (key : String) : Setting := .value (s.value key)

/-- The options of `keys` as build settings, under the same names. -/
def settings (s : Step) (keys : List String) : Options := keys.map fun k => (k, s.setting k)

/-- The field options of a processor that changes a field into a target. -/
def fieldSettings (s : Step) : Options := s.settings ["field", "target_field", "ignore_missing"]

/-- The conversion a `convert` processor names, built from its field options alone. -/
def conversion (s : Step) : Except Error (Processor Element) :=
  let given := s.fieldSettings
  match s.value "type" with
  | .scalar (.str t) =>
    match integerBounds t with
    | some (low, high) =>
      Processor.build .integer
        (given ++ [("min", .value (.scalar (.int low))), ("max", .value (.scalar (.int high)))])
    | none =>
      match t with
      | "float" => Processor.build .float (given ++ [("precision", .value (.scalar (.str "half")))])
      | "double" =>
        Processor.build .float (given ++ [("precision", .value (.scalar (.str "double")))])
      | "string" => Processor.build .string given
      | "boolean" => Processor.build .boolean given
      | "ip" => Processor.build .ip given
      | _ => .error .notImplemented
  | _ => .error .notImplemented

/-- The failure of a date processor: a format that is not a keyword cannot be read, a list of
other than one format is passed to its chain of readers under the wrong option name, and the
output format cannot be written. -/
def dateFailure (s : Step) : Error :=
  let formats := match s.value "formats" with
    | .list items => items
    | _ => []
  if formats.any (fun f => !(dateKeywords.map fun k => Element.scalar (.str k)).contains f) then
    .patternFormatter
  else if formats.length != 1 then .invalid
  else .patternFormatter

/-- What a processor becomes before the common options: the kind to build and its own
options, a processor built outright, or a failure. -/
inductive Plan where
  | build (kind : ProcessorKind) (given : Options)
  | done (p : Except Error (Processor Element))

/-- The plan for a processor. -/
def plan (s : Step) : Plan :=
  match s.kind with
  | .append =>
    .build .append [("field", s.setting "field"), ("values", .value (asList (s.value "value"))),
      ("allow_duplicates", s.setting "allow_duplicates")]
  | .bytes => .build .bytes s.fieldSettings
  | .communityId => .done (.error (.missingOption "ESCommunityIDProcessor" "icmp_code_field"))
  | .convert => .done s.conversion
  | .csv =>
    .build .csv (s.settings ["field", "target_fields", "separator", "quote", "ignore_missing",
      "trim", "empty_value"])
  | .date => .done (.error s.dateFailure)
  | .json => .done (Processor.build .json (s.settings ["field", "target_field", "add_to_root"]))
  | .lowercase => .build .lowercase s.fieldSettings
  | .remove =>
    if isNull (some (s.value "keep")) then
      .build .remove [("fields", .value (asList (s.value "field"))),
        ("ignore_missing", s.setting "ignore_missing")]
    else .build .keep [("fields", .value (asList (s.value "keep")))]
  | .set =>
    if isNull (some (s.value "value")) then
      .build .copy [("field", s.setting "copy_from"), ("target_field", s.setting "field"),
        ("override", s.setting "override"), ("ignore_empty_value", s.setting "ignore_empty_value")]
    else .build .set (s.settings ["field", "value", "override", "ignore_empty_value"])
  | .sort => .build .sort (s.settings ["field", "target_field", "order"])
  | .split =>
    .build .split (s.settings ["field", "target_field", "separator", "ignore_missing",
      "preserve_trailing"])
  | .trim => .build .trim s.fieldSettings
  | .uppercase => .build .uppercase s.fieldSettings
  | .urlDecode => .build .urlDecode s.fieldSettings
  | .uriParts =>
    .build .uriParts (s.settings ["field", "target_field", "keep_original",
      "remove_if_successful", "ignore_missing"])
  | .userAgent =>
    .build .userAgent (s.settings ["field", "target_field", "regex_file", "properties",
      "ignore_missing"])
  | _ => .done (.error .notImplemented)

mutual
/-- The processor of this library that a checked processor stands for. -/
def convert : Step → Except Error (Processor Element)
  | s@(mk name kind values onFailure) =>
    match plan (mk name kind values onFailure) with
    | .done p => p
    | .build target given => do
      if !isNull (some (s.value "if")) then throw .conditionArgument
      let failure ← convertFailure onFailure
      Processor.build target
        ([("description", s.setting "description"), ("condition", .value (.scalar .null)),
          ("ignore_failure", s.setting "ignore_failure"), ("on_failure", failure),
          ("tag", s.setting "tag")] ++ given)

/-- The failure processors as a build setting: null when not given. -/
def convertFailure : Option (List Step) → Except Error Setting
  | some steps => do pure (Setting.processors (← convertList steps))
  | none => pure (Setting.value (.scalar .null))

/-- Processors converted in order, stopping at the first failure. -/
def convertList : List Step → Except Error (List (Processor Element))
  | [] => .ok []
  | s :: ss => do
    let p ← convert s
    return p :: (← convertList ss)
end

end Step

/-- The pipeline of a definition: its name, if any, and its processors converted. -/
def Definition.toPipeline (d : Definition) : Except Error (Pipeline Element) := do
  return ⟨d.name, ← Step.convertList d.processors⟩

/-- The pipeline of a definition given as an element or as its JSON text: the whole definition
is checked before any processor is converted. -/
def Registry.parse (r : Registry) (raw : Element) : Except Error (Pipeline Element) := do
  (← r.readRaw raw).toPipeline

end Ingest.Elastic
