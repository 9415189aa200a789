import Ingest.Pipeline.Processor
import Ingest.Document.Element

/-!
# Processors as documents

`Processor.describe` writes a processor as a dictionary: its kind under `type`, then every
option under its name, paths as their text, the processors it runs on failure described the
same way. It shows the options after normalisation, so a described processor tells what the
build made of what it was given. A pipeline is described as its name and its described
processors.

Rendering a pipeline in the configuration language of another ingest system, or reading one
from it, is not available: those operations always fail with `Error.notImplemented`.
-/

namespace Ingest

namespace Describe

/-- A text. -/
def text (s : String) : Element := .scalar (.str s)

/-- A text or null. -/
def text? : Option String → Element
  | some s => text s
  | none => .scalar .null

/-- A boolean. -/
def bool (b : Bool) : Element := .scalar (.bool b)

/-- A path as its text. -/
def path (p : FieldPath) : Element := text p.render

/-- A path as its text, or null. -/
def path? : Option FieldPath → Element
  | some p => path p
  | none => .scalar .null

/-- Paths as their texts. -/
def paths (ps : List FieldPath) : Element := .list (ps.map path)

/-- An integer, or null. -/
def int? : Option Int → Element
  | some n => .scalar (.int n)
  | none => .scalar .null

/-- The options of a field action. -/
def fieldOptions (f : FieldOptions) : List (String × Element) :=
  [("field", path f.field), ("target_field", path? f.target),
   ("ignore_missing", bool f.ignoreMissing), ("remove_if_successful", bool f.removeIfSuccessful)]

/-- The options of an action. -/
def action : Action Element → List (String × Element)
  | .append field values allowDuplicates =>
    [("field", path field), ("values", .list values), ("allow_duplicates", bool allowDuplicates)]
  | .boolean f | .bytes f | .ip f | .lowercase f | .string f | .trim f | .uppercase f
  | .urlDecode f => fieldOptions f
  | .communityId fs seed ignoreMissing =>
    [("target_field", path fs.target), ("source_ip_field", path fs.sourceIp),
     ("source_port_field", path fs.sourcePort), ("destination_ip_field", path fs.destinationIp),
     ("destination_port_field", path fs.destinationPort),
     ("iana_number_field", path fs.ianaNumber), ("transport_field", path fs.transport),
     ("icmp_type_field", path fs.icmpType), ("icmp_code_field", path fs.icmpCode),
     ("seed", .scalar (.int seed)), ("ignore_missing", bool ignoreMissing)]
  | .copy field target ignoreEmptyValue override removeIfSuccessful =>
    [("field", path field), ("target_field", path target),
     ("ignore_empty_value", bool ignoreEmptyValue), ("override", bool override),
     ("remove_if_successful", bool removeIfSuccessful)]
  | .csv o =>
    [("field", path o.field), ("target_fields", paths o.targets),
     ("separator", text (String.singleton o.separator)), ("quote", text (String.singleton o.quote)),
     ("ignore_missing", bool o.ignoreMissing), ("trim", bool o.trim),
     ("empty_value", text o.emptyValue)]
  | .date f parser output zone =>
    fieldOptions f ++ [("parse_handler", parser.describe), ("output_handler", output.describe),
      ("timezone", text zone.name)]
  | .drop => []
  | .float f precision =>
    let name := match precision with
      | .half => "half"
      | .double => "double"
    fieldOptions f ++ [("precision", text name)]
  | .integer f max min => fieldOptions f ++ [("max", int? max), ("min", int? min)]
  | .json field target addToRoot =>
    [("field", path field), ("target_field", path? target), ("add_to_root", bool addToRoot)]
  | .keep fields => [("fields", paths fields)]
  | .remove fields ignoreMissing =>
    [("fields", paths fields), ("ignore_missing", bool ignoreMissing)]
  | .set field value override ignoreEmptyValue =>
    [("field", path field), ("value", value), ("override", bool override),
     ("ignore_empty_value", bool ignoreEmptyValue)]
  | .sort f order =>
    let name := match order with
      | .asc => "asc"
      | .desc => "desc"
    fieldOptions f ++ [("order", text name)]
  | .split f separator preserveTrailing =>
    fieldOptions f ++
      [("separator", text separator.source), ("preserve_trailing", bool preserveTrailing)]
  | .uriParts f keepOriginal => fieldOptions f ++ [("keep_original", bool keepOriginal)]
  | .userAgent f regexFile properties =>
    fieldOptions f ++ [("regex_file", text? regexFile), ("properties", .list (properties.map text))]

/-- A condition. -/
def condition? : Option Condition → Element
  | some c => .dict [("type", text "PainlessCondition"), ("script", text c.script)]
  | none => .scalar .null

end Describe

mutual
/-- A processor as a dictionary of its kind and options. -/
def Processor.describe : Processor Element → Element
  | .mk a d t c i o =>
    .dict ([("type", Describe.text a.kindName), ("description", Describe.text? d),
      ("tag", Describe.text? t), ("condition", Describe.condition? c),
      ("ignore_failure", Describe.bool i),
      ("on_failure", match o with
        | some ps => .list (Processor.describeList ps)
        | none => .scalar .null)] ++ Describe.action a)

/-- Processors as dictionaries. -/
def Processor.describeList : List (Processor Element) → List Element
  | [] => []
  | p :: ps => p.describe :: Processor.describeList ps
end

namespace Pipeline

/-- The pipeline as a dictionary: its name and its described processors. -/
def describe (p : Pipeline Element) : Element :=
  .dict [("type", .scalar (.str "Pipeline")),
    ("name", match p.name with | some n => .scalar (.str n) | none => .scalar .null),
    ("processors", .list (Processor.describeList p.processors))]

/-- The pipeline as the processor list of another ingest system; not available. -/
def renderIngest (_ : Pipeline Element) : Except Error Element := .error .notImplemented

/-- The pipeline as the filter section of another ingest system; not available. -/
def renderFilter (_ : Pipeline Element) : Except Error Element := .error .notImplemented

/-- A pipeline read from the configuration of another ingest system; not available. -/
def parseFilter (_ : String) : Except Error (Pipeline Element) := .error .notImplemented

end Pipeline

end Ingest
