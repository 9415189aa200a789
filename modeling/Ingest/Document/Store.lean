import Ingest.Document.Access

/-!
# Shared documents

While a pipeline runs, its documents and the values its processors hold live in one `Store`:
an array of containers (lists and dictionaries) addressed by their index. A place in a
document holds a `Node`: a scalar by value, or a reference to a container. Two places that
refer to one container share it, so a change made through one is seen through the other, and
a container may even hold a reference to itself or to a container around it.

A NaN is kept in a container of its own: a NaN equals no value but itself, so which NaN a
place holds is visible, as it is for containers.

`Store.view` copies a node out as a `Snapshot`, a tree in which a container met again inside
itself is shown by how many levels up it encloses. `Store.install` puts a tree into the store
as fresh containers; the view of what was installed is the tree itself.

The walks `Store.get`, `Store.set` and `Store.delete` follow the same rules as the walks on
trees in `Document.Access`, and change containers in place. `Store.set` is a step on the store
itself: it makes the missing dictionaries of the path as it meets them, and a walk that stops
afterwards would keep them.
-/

namespace Ingest

/-- What a place of a shared document holds: a scalar, or a reference to a container. -/
inductive Node where
  | scalar (s : Scalar)
  | ref (cell : Nat)
deriving DecidableEq, Repr, Inhabited

/-- A container of the store. -/
inductive Cell where
  | list (items : List Node)
  | dict (entries : Entries Node)
  /-- A NaN, kept apart so that each NaN is a value of its own. -/
  | nan
deriving Repr, Inhabited

/-- Containers addressed by their index. -/
structure Store where
  cells : Array Cell
deriving Inhabited

/-- A document as it stands in a store at one moment: containers copied out, and a container
met again inside itself given by the number of levels up to where it encloses. -/
inductive Snapshot where
  | scalar (s : Scalar)
  | list (items : List Snapshot)
  | dict (entries : List (String × Snapshot))
  | enclosing (levels : Nat)
deriving Repr, Inhabited

mutual
/-- A tree as a snapshot. -/
def Element.toSnapshot : Element → Snapshot
  | .scalar s => .scalar s
  | .list items => .list (Element.itemsSnapshot items)
  | .dict entries => .dict (Element.entriesSnapshot entries)

/-- Trees as snapshots. -/
def Element.itemsSnapshot : List Element → List Snapshot
  | [] => []
  | e :: rest => e.toSnapshot :: Element.itemsSnapshot rest

/-- Dictionary entries as snapshots. -/
def Element.entriesSnapshot : List (String × Element) → List (String × Snapshot)
  | [] => []
  | (k, e) :: rest => (k, e.toSnapshot) :: Element.entriesSnapshot rest
end

namespace Store

/-- The store without containers. -/
def empty : Store := ⟨#[]⟩

/-- The container at index `i`. -/
def read? (s : Store) (i : Nat) : Option Cell := s.cells[i]?

/-- The store with container `i` replaced by `c`. -/
def write (s : Store) (i : Nat) (c : Cell) : Store := ⟨s.cells.setIfInBounds i c⟩

/-- A new container `c`, and the store that holds it. -/
def alloc (s : Store) (c : Cell) : Node × Store := (.ref s.cells.size, ⟨s.cells.push c⟩)

/-- The node for scalar `x`: a new container for a NaN, the scalar itself otherwise. -/
def scalar (s : Store) (x : Scalar) : Node × Store :=
  match x with
  | .float f => if f.isNaN then s.alloc .nan else (.scalar x, s)
  | _ => (.scalar x, s)

/-- The container a node refers to, with its index. -/
def cellOf? (s : Store) : Node → Option (Nat × Cell)
  | .ref i => (s.read? i).map (i, ·)
  | .scalar _ => none

theorem read?_lt {s : Store} {i : Nat} {c : Cell} (h : s.read? i = some c) : i < s.cells.size :=
  (Array.getElem?_eq_some_iff.mp h).1

theorem read?_write_ne (s : Store) {i j : Nat} (c : Cell) (h : i ≠ j) :
    (s.write i c).read? j = s.read? j := by
  simp [read?, write, h]

@[simp] theorem alloc_fst (s : Store) (c : Cell) : (s.alloc c).1 = .ref s.cells.size := rfl

theorem read?_alloc_self (s : Store) (c : Cell) : (s.alloc c).2.read? s.cells.size = some c := by
  simp [read?, alloc]

@[simp] theorem cellOf?_ref (s : Store) (i : Nat) : s.cellOf? (.ref i) = (s.read? i).map (i, ·) :=
  rfl

theorem cellOf?_eq_some {s : Store} {n : Node} {i : Nat} {c : Cell}
    (h : s.cellOf? n = some (i, c)) : n = .ref i ∧ s.read? i = some c := by
  cases n with
  | scalar x => simp [cellOf?] at h
  | ref j =>
      simp only [cellOf?_ref, Option.map_eq_some_iff, Prod.mk.injEq] at h
      obtain ⟨cell, hj, rfl, rfl⟩ := h
      exact ⟨rfl, hj⟩

/-- The scalar a node stands for: a scalar, or a NaN kept in a container. -/
def scalarOf? (s : Store) : Node → Option Scalar
  | .scalar x => some x
  | .ref i =>
    match s.read? i with
    | some .nan => some (.float Binary64.nan)
    | _ => none

/-- The items of a list node. -/
def items? (s : Store) (n : Node) : Option (List Node) :=
  match s.cellOf? n with
  | some (_, .list items) => some items
  | _ => none

/-- The entries of a dictionary node. -/
def entries? (s : Store) (n : Node) : Option (Entries Node) :=
  match s.cellOf? n with
  | some (_, .dict entries) => some entries
  | _ => none

mutual
/-- A tree put into the store as fresh containers. -/
def install : Element → Store → Node × Store
  | .scalar x, s => s.scalar x
  | .list items, s =>
    let (nodes, s) := installItems items s
    s.alloc (.list nodes)
  | .dict entries, s =>
    let (nodes, s) := installEntries entries s
    s.alloc (.dict nodes)

/-- Trees put into the store, in order. -/
def installItems : List Element → Store → List Node × Store
  | [], s => ([], s)
  | e :: rest, s =>
    let (n, s) := install e s
    let (ns, s) := installItems rest s
    (n :: ns, s)

/-- Dictionary entries put into the store, in order. -/
def installEntries : List (String × Element) → Store → Entries Node × Store
  | [], s => ([], s)
  | (k, e) :: rest, s =>
    let (n, s) := install e s
    let (ns, s) := installEntries rest s
    ((k, n) :: ns, s)
end

/-- The snapshot of node `n` inside the containers `around` (innermost first); `fuel` bounds
the depth, and one more than the number of containers is enough. -/
def snapshotOf (s : Store) : Nat → List Nat → Node → Snapshot
  | 0, _, _ => .scalar .null
  | fuel + 1, around, n =>
    match n with
    | .scalar x => .scalar x
    | .ref i =>
      match around.idxOf? i with
      | some k => .enclosing (k + 1)
      | none =>
        match s.read? i with
        | some (.list items) => .list (items.map (snapshotOf s fuel (i :: around)))
        | some (.dict entries) =>
          .dict (entries.map fun (k, c) => (k, snapshotOf s fuel (i :: around) c))
        | some .nan => .scalar (.float Binary64.nan)
        | none => .scalar .null

/-- The snapshot of node `n`. -/
def view (s : Store) (n : Node) : Snapshot := s.snapshotOf (s.cells.size + 1) [] n

/-- The node one part below `n`: a key of a dictionary, or an index of a list. -/
def child? (s : Store) (part : String) (n : Node) : Option Node :=
  match s.cellOf? n with
  | some (_, .dict entries) => Entries.lookup part entries
  | some (_, .list items) => (indexOf? part).bind (items[·]?)
  | _ => none

/-- The node under `parts`, the walk having already passed `depth` parts. -/
def getAt (s : Store) : List String → Nat → Node → Except PathMiss Node
  | [], _, n => .ok n
  | part :: rest, depth, n =>
    match s.child? part n with
    | some c => s.getAt rest (depth + 1) c
    | none => .error ⟨depth + 1⟩

/-- The node at path `p` below `n`. -/
def get (s : Store) (p : FieldPath) (n : Node) : Except PathMiss Node := s.getAt p.parts 0 n

@[simp] theorem getAt_nil (s : Store) (depth : Nat) (n : Node) : s.getAt [] depth n = .ok n := rfl

theorem getAt_cons_some {s : Store} {part : String} {n c : Node} (h : s.child? part n = some c)
    (rest : List String) (depth : Nat) :
    s.getAt (part :: rest) depth n = s.getAt rest (depth + 1) c := by
  simp [getAt, h]

theorem getAt_cons_none {s : Store} {part : String} {n : Node} (h : s.child? part n = none)
    (rest : List String) (depth : Nat) : s.getAt (part :: rest) depth n = .error ⟨depth + 1⟩ := by
  simp [getAt, h]

/-- The child of dictionary `i`, whose entries are `entries`, under key `k`: the one there, or
a new empty dictionary put there first. -/
def setDefault (s : Store) (i : Nat) (entries : Entries Node) (k : String) : Node × Store :=
  match Entries.lookup k entries with
  | some c => (c, s)
  | none =>
    let (c, s) := s.alloc (.dict [])
    (c, s.write i (.dict (Entries.insert k c entries)))

/-- Write `v` at `parts` below `n`, the walk having passed `depth` parts. Containers change in
place as the walk goes: a dictionary without the key gets a new empty dictionary there at once,
so a walk that stops later keeps what it changed before. -/
def setAt (v : Node) (override : Bool) :
    List String → Nat → Node → Store → EStateM.Result PathMiss Store Unit
  | [], _, _, s => .ok () s
  | [part], depth, n, s =>
    match s.cellOf? n with
    | some (i, .dict entries) =>
      if override || !Entries.contains part entries then
        .ok () (s.write i (.dict (Entries.insert part v entries)))
      else .ok () s
    | some (i, .list items) =>
      match indexOf? part with
      | some k =>
        if k < items.length then .ok () (s.write i (.list (items.set k v)))
        else .error ⟨depth + 1⟩ s
      | none => .error ⟨depth + 1⟩ s
    | _ => .error ⟨depth + 1⟩ s
  | part :: rest, depth, n, s =>
    match s.cellOf? n with
    | some (i, .dict entries) =>
      let (c, s) := s.setDefault i entries part
      setAt v override rest (depth + 1) c s
    | some (_, .list items) =>
      match (indexOf? part).bind (items[·]?) with
      | some c => setAt v override rest (depth + 1) c s
      | none => .error ⟨depth + 1⟩ s
    | _ => .error ⟨depth + 1⟩ s

/-- Write `v` at path `p` below `n`, in place. -/
def set (p : FieldPath) (v : Node) (override : Bool) (n : Node) : EStateM PathMiss Store Unit :=
  setAt v override p.parts 0 n

/-- The store with the entry at `parts` below `n` removed (the walk having passed `depth`
parts). -/
def deleteAt (s : Store) : List String → Nat → Node → Except PathMiss Store
  | [], _, _ => .ok s
  | [part], depth, n =>
    match s.cellOf? n with
    | some (i, .dict entries) =>
      if Entries.contains part entries then .ok (s.write i (.dict (Entries.erase part entries)))
      else .error ⟨depth + 1⟩
    | some (i, .list items) =>
      match indexOf? part with
      | some k =>
        if k < items.length then .ok (s.write i (.list (items.eraseIdx k)))
        else .error ⟨depth + 1⟩
      | none => .error ⟨depth + 1⟩
    | _ => .error ⟨depth + 1⟩
  | part :: rest, depth, n =>
    match s.child? part n with
    | some c => s.deleteAt rest (depth + 1) c
    | none => .error ⟨depth + 1⟩

/-- The store with the entry at path `p` below `n` removed. -/
def delete (s : Store) (p : FieldPath) (n : Node) : Except PathMiss Store :=
  s.deleteAt p.parts 0 n

/-- The store with key `k` of dictionary `n` bound to `v`. -/
def insertKey (s : Store) (n : Node) (k : String) (v : Node) : Store :=
  match s.cellOf? n with
  | some (i, .dict entries) => s.write i (.dict (Entries.insert k v entries))
  | _ => s

/-- The store with `vs` added at the end of list `n`. -/
def extend (s : Store) (n : Node) (vs : List Node) : Store :=
  match s.cellOf? n with
  | some (i, .list items) => s.write i (.list (items ++ vs))
  | _ => s

end Store

end Ingest
