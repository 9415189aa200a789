import Ingest.Elastic.Kind
import Ingest.Document.Json
import Ingest.Error

/-!
# Ingest pipeline definitions

A definition is either a pipeline, a dictionary with a text `name` and two lists of processors,
`processors` and `on_failure` (both empty by default, other keys ignored), or a bare list of
processors. A definition given as a text is first read as JSON.

Each processor of a list is a dictionary holding, under the name of a kind, the dictionary of
its options. A `Registry` says which names stand for which kinds; the names are tried in its
order and the first whose options check is taken, keys that name no kind being ignored. Options
check against their kind (`Kind.readValues`): every key must be an option of the kind, every
value must fit a shape of its option, required options must be given, and the exclusive pairs
of the kind must have exactly one option set. The processors to run on failure are checked the
same way.

`Step.dump` writes a checked processor back as a dictionary of its name and its options, leaving
out the options equal to their defaults.
-/

namespace Ingest.Elastic

/-- Whether an option holds null. -/
def isNull (v : Option Element) : Bool := v == some (.scalar .null)

namespace Kind

/-- The checked values of every option of the kind, in declaration order, from the options
given in `entries`, defaults filling in those not given; none when a key is not an option of the
kind, a value fits no shape of its option, a required option is missing, or an exclusive pair
does not have exactly one option set. -/
def readValues (k : Kind) (entries : List (String × Element)) :
    Option (List (String × Element)) := do
  if !entries.all (fun (key, _) => key == failureKey || k.options.any (·.key == key)) then none
  let values ← k.options.mapM fun d =>
    match Entries.lookup d.key entries with
    | some e => (Shape.fitFirst d.shapes e).map (d.key, ·)
    | none => d.default.map (d.key, ·)
  let setOne (pair : String × String) : Bool :=
    isNull (Entries.lookup pair.1 values) != isNull (Entries.lookup pair.2 values)
  if k.exclusive.all setOne then some values else none

end Kind

/-- A checked processor of a definition: the name it was given under, its kind, the values of
all its options in declaration order, and the processors to run on its failure, if given. -/
inductive Step where
  | mk (name : String) (kind : Kind) (values : List (String × Element))
    (onFailure : Option (List Step))
deriving Inhabited

namespace Step

/-- The name the processor was given under. -/
def name : Step → String
  | mk n .. => n

/-- The kind of the processor. -/
def kind : Step → Kind
  | mk _ k .. => k

/-- The values of the options of the processor. -/
def values : Step → List (String × Element)
  | mk _ _ vs _ => vs

/-- The processors to run on failure, if given. -/
def onFailure : Step → Option (List Step)
  | mk _ _ _ o => o

/-- The value of option `key`; null for a key that is not an option. -/
def value (s : Step) (key : String) : Element := (Entries.lookup key s.values).getD (.scalar .null)

/-- The options of the kind whose values differ from their defaults, in declaration order. -/
def changed (k : Kind) (values : List (String × Element)) : List (String × Element) :=
  k.options.filterMap fun d =>
    match Entries.lookup d.key values with
    | some v => if d.default == some v then none else some (d.key, v)
    | none => none

mutual
/-- The processor as a dictionary of its name and its options that differ from their defaults,
with its failure processors when they were given. -/
def dump : Step → Element
  | mk name kind values onFailure =>
    let failure := match onFailure with
      | some steps => [(failureKey, .list (dumpList steps))]
      | none => []
    .dict [(name, .dict (changed kind values ++ failure))]

/-- Processors as dictionaries. -/
def dumpList : List Step → List Element
  | [] => []
  | s :: ss => dump s :: dumpList ss
end

end Step

/-- The kinds a definition may use, each under a name, in the order processors are matched
against them; a registry may carry a label it is known by. -/
structure Registry where
  label : Option String
  kinds : List (String × Kind)

namespace Registry

/-- Every kind under its standard name, in the standard order. -/
def standard : Registry :=
  ⟨some "DEFAULT_INGEST_PIPELINE_PARSER", Kind.all.map fun k => (k.name, k)⟩

/-- The name the registry is known by: its label, or the name of registries. -/
def describe (r : Registry) : String := r.label.getD "ESIngestPipelineParser"

/-- The kinds named by the pairs of new names and names in this registry; a name that is not in
it is a missing key. -/
def resolve (r : Registry) (pairs : List (String × String)) :
    Except Error (List (String × Kind)) :=
  pairs.mapM fun (newName, known) =>
    match Entries.lookup known r.kinds with
    | some k => .ok (newName, k)
    | none => .error (.missingKey known)

/-- A registry without the names `removed`, then with the kinds `added` under their names: a
name already present keeps its place, a new one comes last. The copy has no label. -/
def copy (r : Registry) (added : List (String × Kind)) (removed : List String) : Registry :=
  let kept := r.kinds.filter fun (n, _) => !removed.contains n
  ⟨none, added.foldl (fun ks (n, k) => Entries.insert n k ks) kept⟩

mutual
/-- A list of processors, each checked; `fuel` bounds the nesting. -/
def readSteps (r : Registry) : Nat → Element → Option (List Step)
  | fuel + 1, .list items => items.mapM (readStep r fuel)
  | _, _ => none

/-- A processor: the first name of the registry that is a key of the dictionary and whose
value checks as the options of its kind. -/
def readStep (r : Registry) : Nat → Element → Option Step
  | fuel + 1, .dict entries =>
    r.kinds.findSome? fun (name, kind) =>
      match Entries.lookup name entries with
      | some (.dict options) => do
        let values ← kind.readValues options
        let onFailure ← match Entries.lookup failureKey options with
          | none | some (.scalar .null) => some none
          | some v => (readSteps r fuel v).map some
        some (.mk name kind values onFailure)
      | _ => none
  | _, _ => none
end

end Registry

/-- A checked definition: a named pipeline with its processors and failure processors, or a bare
list of processors. -/
inductive Definition where
  | pipeline (name : String) (processors onFailure : List Step)
  | steps (processors : List Step)
deriving Inhabited

namespace Definition

/-- The name of the pipeline; none for a bare list. -/
def name : Definition → Option String
  | pipeline n .. => some n
  | steps _ => none

/-- The processors of the definition. -/
def processors : Definition → List Step
  | pipeline _ ps _ => ps
  | steps ps => ps

/-- The failure processors of a pipeline; a bare list stands for itself. -/
def failureProcessors : Definition → List Step
  | pipeline _ _ fs => fs
  | steps ps => ps

end Definition

namespace Registry

/-- The processors under `key` of a pipeline dictionary, empty when absent. -/
def readListAt (r : Registry) (fuel : Nat) (entries : List (String × Element)) (key : String) :
    Option (List Step) :=
  match Entries.lookup key entries with
  | some v => r.readSteps fuel v
  | none => some []

/-- A definition checked: a pipeline dictionary first, a bare list next. -/
def read (r : Registry) (e : Element) : Option Definition :=
  let fuel := e.depth + 1
  match e with
  | .dict entries => do
    let name ← match Entries.lookup "name" entries with
      | some (.scalar (.str n)) => some n
      | _ => none
    return .pipeline name (← r.readListAt fuel entries "processors")
      (← r.readListAt fuel entries failureKey)
  | .list _ => (r.readSteps fuel e).map .steps
  | _ => none

/-- A definition given as an element or as its JSON text, checked; a failure is a failed
validation. -/
def readRaw (r : Registry) (raw : Element) : Except Error Definition :=
  let e := match raw with
    | .scalar (.str s) => Element.readJson? s
    | e => some e
  match e.bind r.read with
  | some d => .ok d
  | none => .error .invalid

/-- The processors of a definition, dumped. -/
def validate (r : Registry) (raw : Element) : Except Error (List Element) :=
  (r.readRaw raw).map fun d => Step.dumpList d.processors

/-- The failure processors of a definition, dumped. -/
def validateFailure (r : Registry) (raw : Element) : Except Error (List Element) :=
  (r.readRaw raw).map fun d => Step.dumpList d.failureProcessors

end Registry

end Ingest.Elastic
