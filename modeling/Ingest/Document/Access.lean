import Ingest.Document.Element
import Ingest.Document.FieldPath

/-!
# Reading and writing a document through a path

`Element.get`, `Element.set` and `Element.delete` walk a path part by part. At a dictionary a
part is a key; at a list it must read as a non-negative decimal index below the length; a
scalar has no parts. A walk that cannot go on stops with a `PathMiss`, which records how many
parts it had reached, so that the failing prefix of the path can be named.

Writing differs from reading in one way only: on the way down, a dictionary without the key
gets a new empty dictionary there (`set` never fails at a dictionary). The last part is
written in place; without `override` a value already present under a dictionary key stays.
Deleting removes the key, or the list element (later elements move down one place).

Each operation builds a new tree and leaves its argument as it was, so a failing write
changes nothing.

Beside the walks stand their equations at each kind of element, which later proofs use instead
of unfolding the walks.

A read without a default stands for the marker `NoValue`, which is not null: null is a value.
Its type has exactly one value.
-/

namespace Ingest

/-- A walk through a path stopped at part number `depth` (counted from one): the element it
had reached has nothing under that part. -/
structure PathMiss where
  depth : Nat
deriving DecidableEq, Repr

/-- Whether `c` is an ASCII decimal digit. -/
def isIndexDigit (c : Char) : Bool := '0' ≤ c && c ≤ '9'

/-- A path part read as a list index: an optional minus sign and ASCII digits, with a value
that is not negative (so `-0` reads as `0`). The reading is strict: blanks around the digits, a
plus sign or underscores make no index. -/
def indexOf? (part : String) : Option Nat :=
  let (neg, ds) := match part.toList with
    | '-' :: ds => (true, ds)
    | ds => (false, ds)
  if ds.isEmpty || !ds.all isIndexDigit then none
  else
    let n := ds.foldl (fun n c => n * 10 + (c.toNat - '0'.toNat)) 0
    if neg && n ≠ 0 then none else some n

/-- The path named by a document value: a dotted text, or a list of texts that are its parts. -/
def FieldPath.ofElement : Element → Except PathError FieldPath
  | .scalar (.str s) => FieldPath.parse s
  | .list items =>
    match items.mapM (fun | Element.scalar (.str s) => some s | _ => none) with
    | some parts => FieldPath.ofParts parts
    | none => .error .notText
  | _ => .error .notText

/-- Whether the value `x` names `p` or a path under it; a value that names no path lies under
none. -/
def FieldPath.contains (p : FieldPath) (x : Element) : Bool :=
  match FieldPath.ofElement x with
  | .ok q => p.isPrefixOf q
  | .error _ => false

namespace Element

/-- The element under `parts`, the walk having already passed `depth` parts. -/
def getAt : List String → Nat → Element → Except PathMiss Element
  | [], _, e => .ok e
  | part :: rest, depth, e =>
    let next : Option Element := match e with
      | .dict entries => Entries.lookup part entries
      | .list items => (indexOf? part).bind (items[·]?)
      | .scalar _ => none
    match next with
    | some child => getAt rest (depth + 1) child
    | none => .error ⟨depth + 1⟩

/-- The element at path `p`. -/
def get (p : FieldPath) (e : Element) : Except PathMiss Element := getAt p.parts 0 e

/-- The element at path `p`, or `default` when there is none. -/
def getD (p : FieldPath) (e default : Element) : Element :=
  match e.get p with
  | .ok v => v
  | .error _ => default

/-- The element with `v` written at `parts` (the walk having passed `depth` parts); missing
dictionary keys on the way get empty dictionaries. -/
def setAt (v : Element) (override : Bool) :
    List String → Nat → Element → Except PathMiss Element
  | [], _, _ => .ok v
  | [part], depth, e =>
    match e with
    | .dict entries =>
      if override || !Entries.contains part entries then .ok (.dict (Entries.insert part v entries))
      else .ok e
    | .list items =>
      match indexOf? part with
      | some i => if i < items.length then .ok (.list (items.set i v)) else .error ⟨depth + 1⟩
      | none => .error ⟨depth + 1⟩
    | .scalar _ => .error ⟨depth + 1⟩
  | part :: rest, depth, e =>
    match e with
    | .dict entries =>
      let child := (Entries.lookup part entries).getD (.dict [])
      (setAt v override rest (depth + 1) child).map fun c => .dict (Entries.insert part c entries)
    | .list items =>
      match indexOf? part with
      | some i =>
        match items[i]? with
        | some child => (setAt v override rest (depth + 1) child).map fun c => .list (items.set i c)
        | none => .error ⟨depth + 1⟩
      | none => .error ⟨depth + 1⟩
    | .scalar _ => .error ⟨depth + 1⟩

/-- The element with `v` written at path `p`. Without `override`, a value already present
under the last dictionary key is kept. -/
def set (p : FieldPath) (v : Element) (override : Bool) (e : Element) :
    Except PathMiss Element :=
  setAt v override p.parts 0 e

/-- The element with the entry at `parts` removed (the walk having passed `depth` parts). -/
def deleteAt : List String → Nat → Element → Except PathMiss Element
  | [], _, e => .ok e
  | [part], depth, e =>
    match e with
    | .dict entries =>
      if Entries.contains part entries then .ok (.dict (Entries.erase part entries))
      else .error ⟨depth + 1⟩
    | .list items =>
      match indexOf? part with
      | some i =>
        if i < items.length then .ok (.list (items.eraseIdx i)) else .error ⟨depth + 1⟩
      | none => .error ⟨depth + 1⟩
    | .scalar _ => .error ⟨depth + 1⟩
  | part :: rest, depth, e =>
    match e with
    | .dict entries =>
      match Entries.lookup part entries with
      | some child =>
        (deleteAt rest (depth + 1) child).map fun c => .dict (Entries.insert part c entries)
      | none => .error ⟨depth + 1⟩
    | .list items =>
      match indexOf? part with
      | some i =>
        match items[i]? with
        | some child => (deleteAt rest (depth + 1) child).map fun c => .list (items.set i c)
        | none => .error ⟨depth + 1⟩
      | none => .error ⟨depth + 1⟩
    | .scalar _ => .error ⟨depth + 1⟩

/-- The element with the entry at path `p` removed. -/
def delete (p : FieldPath) (e : Element) : Except PathMiss Element := deleteAt p.parts 0 e

@[simp] theorem getAt_nil (depth : Nat) (e : Element) : getAt [] depth e = .ok e := rfl

@[simp] theorem getAt_cons_dict (part : String) (rest : List String) (depth : Nat)
    (entries : List (String × Element)) :
    getAt (part :: rest) depth (.dict entries) =
      match Entries.lookup part entries with
      | some c => getAt rest (depth + 1) c
      | none => .error ⟨depth + 1⟩ := rfl

@[simp] theorem getAt_cons_list (part : String) (rest : List String) (depth : Nat)
    (items : List Element) :
    getAt (part :: rest) depth (.list items) =
      match (indexOf? part).bind (items[·]?) with
      | some c => getAt rest (depth + 1) c
      | none => .error ⟨depth + 1⟩ := rfl

@[simp] theorem getAt_cons_scalar (part : String) (rest : List String) (depth : Nat)
    (x : Scalar) : getAt (part :: rest) depth (.scalar x) = .error ⟨depth + 1⟩ := rfl

@[simp] theorem setAt_nil (v : Element) (override : Bool) (depth : Nat) (e : Element) :
    setAt v override [] depth e = .ok v := rfl

@[simp] theorem setAt_single_dict (v : Element) (override : Bool) (part : String) (depth : Nat)
    (entries : List (String × Element)) :
    setAt v override [part] depth (.dict entries) =
      if override || !Entries.contains part entries then .ok (.dict (Entries.insert part v entries))
      else .ok (.dict entries) := rfl

@[simp] theorem setAt_cons_dict (v : Element) (override : Bool) (part r : String)
    (rs : List String) (depth : Nat) (entries : List (String × Element)) :
    setAt v override (part :: r :: rs) depth (.dict entries) =
      (setAt v override (r :: rs) (depth + 1) ((Entries.lookup part entries).getD (.dict []))).map
        fun c => .dict (Entries.insert part c entries) := rfl

/-- At a list a write goes on into the element at the index, whether or not more parts follow. -/
@[simp] theorem setAt_cons_list (v : Element) (override : Bool) (part : String)
    (rest : List String) (depth : Nat) (items : List Element) :
    setAt v override (part :: rest) depth (.list items) =
      match indexOf? part with
      | some i =>
        match items[i]? with
        | some child =>
          (setAt v override rest (depth + 1) child).map fun c => .list (items.set i c)
        | none => .error ⟨depth + 1⟩
      | none => .error ⟨depth + 1⟩ := by
  cases rest with
  | nil =>
      cases hi : indexOf? part with
      | none => simp [setAt, hi]
      | some i =>
          by_cases hlt : i < items.length
          · simp [setAt, hi, hlt, Except.map]
          · simp [setAt, hi, hlt]
  | cons r rs => rfl

@[simp] theorem setAt_cons_scalar (v : Element) (override : Bool) (part : String)
    (rest : List String) (depth : Nat) (x : Scalar) :
    setAt v override (part :: rest) depth (.scalar x) = .error ⟨depth + 1⟩ := by
  cases rest <;> rfl

end Element

/-- The marker of a value left out, where null is itself a value. -/
inductive NoValue where
  | noValue
deriving DecidableEq, Repr

namespace NoValue

/-- Every value of the marker's type. -/
def all : List NoValue := [.noValue]

/-- How the marker prints. -/
def repr (_ : NoValue) : String := "NO_VALUE"

/-- Whether the marker's type has a single value. -/
def isSingleton : Bool := all.length == 1

/-- Every value of the type is listed in `all`. -/
theorem mem_all (a : NoValue) : a ∈ all := by cases a; simp [all]

end NoValue

end Ingest
