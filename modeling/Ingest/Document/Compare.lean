import Ingest.Document.Display
import Ingest.Error

/-!
# Equality and order of values

Two values are equal when they are the same container, or when they have equal contents:
numbers by their exact value across booleans, integers and doubles (`True = 1 = 1.0`, and a
NaN equals no number), texts character by character, addresses by version, number and scope,
lists item by item and dictionaries by their sets of keys and the values under them, in any
order. Values of other kinds differ.

Order is defined on numbers, on texts (by code points), on addresses of one version (by
number) and on lists (by the first item that differs, else by length). Any other pair fails to
compare: addresses of two versions with `Error.mixedVersions`, all else with
`Error.unordered`, which names both types.
-/

namespace Ingest

/-- A number, exactly: an integer or a double. -/
inductive Number where
  | int (n : Int)
  | float (x : Binary64)

namespace Number

/-- How two numbers compare as real numbers; none when one is NaN. -/
def compare? : Number → Number → Option Ordering
  | .int a, .int b => some (Ord.compare a b)
  | .float x, .int b => x.compareInt b
  | .int a, .float y => (y.compareInt a).map Ordering.swap
  | .float x, .float y => x.compare? y

end Number

/-- The number a scalar stands for; a boolean stands for 0 or 1. -/
def Scalar.number? : Scalar → Option Number
  | .bool b => some (.int (if b then 1 else 0))
  | .int n => some (.int n)
  | .float x => some (.float x)
  | _ => none

/-- Whether two scalars are equal. -/
def Scalar.equal (x y : Scalar) : Bool :=
  match x.number?, y.number? with
  | some a, some b => a.compare? b == some .eq
  | _, _ =>
    match x, y with
    | .null, .null => true
    | .str a, .str b => a == b
    | .ip (.v4 a), .ip (.v4 b) => a == b
    | .ip (.v6 a s), .ip (.v6 b t) => a == b && s == t
    | _, _ => false

namespace Store

/-- Whether nodes `a` and `b` hold equal values; `fuel` bounds the depth. -/
def equalOf (s : Store) : Nat → Node → Node → Bool
  | 0, _, _ => false
  | fuel + 1, a, b =>
    match a, b with
    | .scalar x, .scalar y => x.equal y
    | .ref i, .ref j =>
      i == j ||
        match s.read? i, s.read? j with
        | some (.list xs), some (.list ys) =>
          xs.length == ys.length && (xs.zip ys).all fun (x, y) => s.equalOf fuel x y
        | some (.dict xs), some (.dict ys) =>
          xs.length == ys.length && xs.all fun (k, x) =>
            match Entries.lookup k ys with
            | some y => s.equalOf fuel x y
            | none => false
        | _, _ => false
    | _, _ => false

/-- Whether nodes `a` and `b` hold equal values. -/
def equal (s : Store) (a b : Node) : Bool := s.equalOf (s.cells.size + 1) a b

/-- Whether `v` is one of `items`: the same value or an equal one. -/
def mem (s : Store) (v : Node) (items : List Node) : Bool := items.any (s.equal · v)

/-- The first pair of items at which two lists differ. -/
def firstDifference (s : Store) : List Node → List Node → Option (Node × Node)
  | x :: xs, y :: ys => if s.equal x y then s.firstDifference xs ys else some (x, y)
  | _, _ => none

/-- Whether the value of `a` comes before the value of `b`; `fuel` bounds the depth. -/
def lessOf (s : Store) : Nat → Node → Node → Except Error Bool
  | 0, _, _ => .ok false
  | fuel + 1, a, b =>
    let unordered : Except Error Bool := .error (.unordered (s.typeName a) (s.typeName b))
    match s.scalarOf? a, s.scalarOf? b with
    | some x, some y =>
      match x.number?, y.number? with
      | some m, some n => .ok (m.compare? n == some .lt)
      | _, _ =>
        match x, y with
        | .str u, .str v => .ok (decide (u < v))
        | .ip p, .ip q =>
          if p.version == q.version then .ok (decide (p.value < q.value))
          else .error (.mixedVersions p.toText q.toText)
        | _, _ => unordered
    | _, _ =>
      match s.items? a, s.items? b with
      | some xs, some ys =>
        match s.firstDifference xs ys with
        | some (x, y) => s.lessOf fuel x y
        | none => .ok (decide (xs.length < ys.length))
      | _, _ => unordered

/-- Whether the value of `a` comes before the value of `b`. -/
def less (s : Store) (a b : Node) : Except Error Bool := s.lessOf (s.cells.size + 1) a b

end Store

end Ingest
