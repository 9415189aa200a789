import Ingest.Elastic.Shape

/-!
# Kinds of processors of an ingest pipeline definition

Each kind of processor that an ingest pipeline definition may hold declares its options: their
keys, shapes and defaults (`Kind.declarations`). Every kind also takes the common options
(`commonDeclarations`) and a list of processors to run on failure. Some kinds need exactly
one of two options to be set, not null (`Kind.exclusive`).

`Kind.all` lists the kinds in the order a definition's processors are tried against them, each
under its standard name (`Kind.name`).
-/

namespace Ingest.Elastic

/-- A kind of processor of an ingest pipeline definition. -/
inductive Kind where
  | append | bytes | communityId | convert | csv | date | dateIndexName | dissect | dotExpander
  | drop | fail | fingerprint | geoip | grok | gsub | htmlStrip | join | json | kv | lowercase
  | networkDirection | redact | registeredDomain | remove | rename | reroute | script | set
  | setSecurityUser | sort | split | trim | uppercase | urlDecode | uriParts | userAgent
deriving DecidableEq, Repr, Inhabited

/-- The options every kind of processor takes, apart from its failure processors. -/
def commonDeclarations : List Declaration :=
  [.textOrNull "description", .textOrNull "if", .flag "ignore_failure" false, .textOrNull "tag"]

/-- The key of the processors run when a processor fails. -/
def failureKey : String := "on_failure"

namespace Kind

open Declaration

/-- Every kind, in the order processors are matched against them. -/
def all : List Kind :=
  [.append, .bytes, .communityId, .convert, .csv, .date, .dateIndexName, .dissect, .dotExpander,
    .drop, .fail, .fingerprint, .geoip, .grok, .gsub, .htmlStrip, .join, .json, .kv, .lowercase,
    .networkDirection, .redact, .registeredDomain, .remove, .rename, .reroute, .script, .set,
    .setSecurityUser, .sort, .split, .trim, .uppercase, .urlDecode, .uriParts, .userAgent]

/-- The standard name of the kind in a definition. -/
def name : Kind → String
  | .append => "append"
  | .bytes => "bytes"
  | .communityId => "community_id"
  | .convert => "convert"
  | .csv => "csv"
  | .date => "date"
  | .dateIndexName => "date_index_name"
  | .dissect => "dissect"
  | .dotExpander => "dot_expander"
  | .drop => "drop"
  | .fail => "fail"
  | .fingerprint => "fingerprint"
  | .geoip => "geoip"
  | .grok => "grok"
  | .gsub => "gsub"
  | .htmlStrip => "html_strip"
  | .join => "join"
  | .json => "json"
  | .kv => "kv"
  | .lowercase => "lowercase"
  | .networkDirection => "network_direction"
  | .redact => "redact"
  | .registeredDomain => "registered_domain"
  | .remove => "remove"
  | .rename => "rename"
  | .reroute => "reroute"
  | .script => "script"
  | .set => "set"
  | .setSecurityUser => "set_security_user"
  | .sort => "sort"
  | .split => "split"
  | .trim => "trim"
  | .uppercase => "uppercase"
  | .urlDecode => "urldecode"
  | .uriParts => "uri_parts"
  | .userAgent => "user_agent"

/-- The field a processor works on, which every field processor requires. -/
def fieldDeclaration : Declaration := required "field" .text

/-- The options of a processor that changes a field in place or into a target. -/
def fieldChange : List Declaration :=
  [fieldDeclaration, textOrNull "target_field", flag "ignore_missing" false]

/-- The options of the kind, apart from the common ones, in declaration order. -/
def declarations : Kind → List Declaration
  | .append => [fieldDeclaration, required "value" .value, flag "allow_duplicates" true]
  | .bytes => fieldChange
  | .communityId =>
    [text "source_ip" "source.ip", text "source_port" "source.port",
      text "destination_ip" "destination.ip", text "destination_port" "destination.port",
      text "iana_number" "network.iana_number", text "icmp_type" "icmp.type",
      text "icmp_code" "icmp.code", text "transport" "network.transport",
      text "target_field" "network.community_id",
      optional "seed" (.count 0 65536) (.scalar (.int 0)), flag "ignore_missing" true]
  | .convert =>
    [fieldDeclaration, textOrNull "target_field",
      required "type" (.word ["integer", "long", "float", "double", "string", "boolean", "ip",
        "auto"]),
      flag "ignore_missing" false]
  | .csv =>
    [fieldDeclaration, required "target_fields" .texts,
      optional "separator" .letter (.scalar (.str ",")),
      optional "quote" .letter (.scalar (.str "\"")),
      flag "ignore_missing" false, flag "trim" false, text "empty_value" ""]
  | .date =>
    [fieldDeclaration, text "target_field" "@timestamp", required "formats" .texts,
      text "timezone" "UTC", text "locale" "ENGLISH",
      text "output_format" "yyyy-MM-dd'T'HH:mm:ss.SSSXXX"]
  | .dateIndexName =>
    [fieldDeclaration, textOrNull "index_name_prefix",
      required "date_rounding" (.word ["y", "M", "w", "d", "h", "m", "s"]),
      ⟨"date_formats", [.text, .texts], some (.scalar (.str "yyyy-MM-dd'T'HH:mm:ss.SSSXX"))⟩,
      text "timezone" "UTC", text "locale" "ENGLISH", text "index_name_format" "yyyy-MM-dd"]
  | .dissect =>
    -- the pattern is kept as text, not parsed into its keys and delimiters
    [fieldDeclaration, required "pattern" .text, text "append_separator" "",
      flag "ignore_missing" false]
  | .dotExpander => [fieldDeclaration, textOrNull "path", flag "override" false]
  | .drop => []
  | .fail => [required "message" .text]
  | .fingerprint =>
    [required "fields" .texts, text "target_field" "fingerprint", textOrNull "salt",
      word "method" ["MD5", "SHA-1", "SHA-256", "SHA-512", "MurmurHash3"] "SHA-1",
      flag "ignore_missing" false]
  | .geoip =>
    [fieldDeclaration, text "target_field" "@timestamp",
      text "database_file" "GeoLite2-City.mmdb",
      texts "properties" ["continent_name", "country_iso_code", "country_name",
        "region_iso_code", "region_name", "city_name", "location"],
      flag "ignore_missing" false, flag "download_database_on_pipeline_creation" true]
  | .grok =>
    [fieldDeclaration, required "patterns" .texts, orNull "pattern_definitions" .textMap,
      word "ecs_compatibility" ["disabled", "v1"] "disabled", flag "trace_match" false,
      flag "ignore_missing" false]
  | .gsub =>
    [fieldDeclaration, required "pattern" .text, required "replacement" .text,
      textOrNull "target_field", flag "ignore_missing" false]
  | .htmlStrip => fieldChange
  | .join => [fieldDeclaration, required "separator" .text, textOrNull "target_field"]
  | .json =>
    [fieldDeclaration, textOrNull "target_field", flag "add_to_root" false,
      word "add_to_root_conflict_strategy" ["replace", "merge"] "replace",
      flag "allow_duplicate_keys" false, flag "strict_json_parsing" false]
  | .kv =>
    [fieldDeclaration, required "field_split" .pattern, required "value_split" .pattern,
      textOrNull "target_field", orNull "include_keys" .texts, orNull "exclude_keys" .texts,
      flag "ignore_missing" false, text "prefix" "", text "trim_key" "", text "trim_value" "",
      flag "strip_brackets" false]
  | .lowercase => fieldChange
  | .networkDirection =>
    [text "source_ip" "source.ip", text "destination_ip" "destination.ip",
      text "target_field" "network.direction", orNull "internal_networks" .texts,
      textOrNull "internal_networks_field", flag "ignore_missing" true]
  | .redact =>
    [fieldDeclaration, required "patterns" .texts, orNull "pattern_definitions" .textMap,
      text "prefix" "<", text "suffix" ">", flag "ignore_missing" false]
  | .registeredDomain =>
    [fieldDeclaration, text "target_field" "", flag "ignore_missing" true]
  | .remove =>
    [⟨"field", [.text, .texts, .nothing], some (.scalar .null)⟩, flag "ignore_missing" false,
      ⟨"keep", [.text, .texts, .nothing], some (.scalar .null)⟩]
  | .rename =>
    [fieldDeclaration, required "target_field" .text, flag "ignore_missing" false,
      flag "override" false]
  | .reroute =>
    [textOrNull "destination", text "dataset" "\x7b\x7bdata_stream.dataset\x7d\x7d",
      text "namespace" "\x7b\x7bdata_stream.namespace\x7d\x7d"]
  | .script =>
    [word "lang" ["painless"] "painless", textOrNull "id",
      ⟨"source", [.text, .object, .nothing], some (.scalar .null)⟩, orNull "params" .object]
  | .set =>
    [fieldDeclaration, textOrNull "value", textOrNull "copy_from", flag "override" true,
      flag "ignore_empty_value" false, text "media_type" "application/json"]
  | .setSecurityUser =>
    [fieldDeclaration,
      texts "properties" ["username", "roles", "email", "full_name", "metadata", "api_key",
        "realm", "authentication_type"]]
  | .sort =>
    [fieldDeclaration, required "order" (.word ["asc", "desc"]), textOrNull "target_field"]
  | .split =>
    [fieldDeclaration, required "separator" .pattern, textOrNull "target_field",
      flag "ignore_missing" false, flag "preserve_trailing" false]
  | .trim => fieldChange
  | .uppercase => fieldChange
  | .urlDecode => fieldChange
  | .uriParts =>
    [fieldDeclaration, textOrNull "target_field", flag "keep_original" true,
      flag "remove_if_successful" false, flag "ignore_missing" false]
  | .userAgent =>
    [fieldDeclaration, text "target_field" "user_agent", textOrNull "regex_file",
      texts "properties" ["name", "major", "minor", "patch", "build", "os", "os_name",
        "os_major", "os_minor", "device"],
      flag "ignore_missing" false]

/-- Every option of the kind apart from its failure processors: the common ones first. -/
def options (k : Kind) : List Declaration := commonDeclarations ++ k.declarations

/-- Pairs of options of which exactly one must be set, not null. -/
def exclusive : Kind → List (String × String)
  | .networkDirection => [("internal_networks", "internal_networks_field")]
  | .remove => [("field", "keep")]
  | .set => [("value", "copy_from")]
  | _ => []

end Kind

end Ingest.Elastic
