import Ingest.Document.Store
import Ingest.Number.Notation

/-!
# How values are written in messages

Messages quote values the way the pipeline language writes them: `None`, `True` and `False`,
integers in decimal, doubles in their shortest form (`1.0`, `1e+16`, `nan`), texts quoted
(`'a'`), addresses as `IPv4Address('1.2.3.4')`, lists in brackets and dictionaries in braces
with `: ` between key and value. A container met again inside itself is written `[...]` or
`\x7b...\x7d`.

`Store.repr` is that written form; `Store.text` differs only for a text, which is written bare,
and an address, which is written as its text form. Every value has a type name (`int`,
`list`, `IPv4Address`), and a class name that addresses qualify with their module.
-/

namespace Ingest

namespace Scalar

/-- The name of the type of a scalar. -/
def typeName : Scalar → String
  | .null => "NoneType"
  | .bool _ => "bool"
  | .int _ => "int"
  | .float _ => "float"
  | .str _ => "str"
  | .ip (.v4 _) => "IPv4Address"
  | .ip (.v6 _ _) => "IPv6Address"

/-- The name of the class of a scalar, with its module for addresses. -/
def className (x : Scalar) : String :=
  match x with
  | .ip _ => "ipaddress." ++ x.typeName
  | _ => x.typeName

/-- The written form of a scalar. -/
def repr (x : Scalar) : String :=
  match x with
  | .null => "None"
  | .bool b => if b then "True" else "False"
  | .int n => toString n
  | .float f => f.toText
  | .str s => Text.quote s
  | .ip a => x.typeName ++ "(" ++ Text.quote a.toText ++ ")"

/-- The text of a scalar: a text bare, an address as its text form. -/
def text (x : Scalar) : String :=
  match x with
  | .str s => s
  | .ip a => a.toText
  | _ => x.repr

end Scalar

namespace Store

/-- The name of the type of a node's value. -/
def typeName (s : Store) (n : Node) : String :=
  match n with
  | .scalar x => x.typeName
  | .ref i =>
    match s.read? i with
    | some (.list _) => "list"
    | some (.dict _) => "dict"
    | some .nan => "float"
    | none => "NoneType"

/-- The name of the class of a node's value. -/
def className (s : Store) (n : Node) : String :=
  match n with
  | .scalar x => x.className
  | .ref _ => s.typeName n

/-- The written form of node `n` inside the containers `around`; `fuel` bounds the depth. -/
def reprOf (s : Store) : Nat → List Nat → Node → String
  | 0, _, _ => "..."
  | fuel + 1, around, n =>
    match n with
    | .scalar x => x.repr
    | .ref i =>
      match s.read? i with
      | some (.list items) =>
        if around.contains i then "[...]"
        else "[" ++ ", ".intercalate (items.map (s.reprOf fuel (i :: around))) ++ "]"
      | some (.dict entries) =>
        if around.contains i then "\x7b...\x7d"
        else
          "\x7b" ++ ", ".intercalate (entries.map fun (k, c) =>
            Text.quote k ++ ": " ++ s.reprOf fuel (i :: around) c) ++ "\x7d"
      | some .nan => "nan"
      | none => "None"

/-- The written form of a node's value. -/
def repr (s : Store) (n : Node) : String := s.reprOf (s.cells.size + 1) [] n

/-- The text of a node's value: a text bare, an address as its text form, all else written. -/
def text (s : Store) (n : Node) : String :=
  match n with
  | .scalar x => x.text
  | .ref _ => s.repr n

end Store

/-- The written form of a tree. -/
def Element.repr (e : Element) : String :=
  let (n, s) := Store.empty.install e
  s.repr n

/-- The text of a tree. -/
def Element.text (e : Element) : String :=
  let (n, s) := Store.empty.install e
  s.text n

end Ingest
