import Ingest.Number.Binary64
import Ingest.Net.Address

/-!
# Document elements

A document is a tree of elements: scalars (null, booleans, integers of any size, doubles,
text, IP addresses), lists, and dictionaries. A dictionary keeps its entries in insertion
order and holds each key once: `Entries.insert` replaces the value of a present key in place
and appends a new key at the end, `Entries.erase` removes a key.

The lemmas beside the operations say what each does to `Entries.lookup`, the view through
which the rest of the library reads a dictionary.
-/

namespace Ingest

/-- A scalar element. -/
inductive Scalar where
  | null
  | bool (b : Bool)
  | int (n : Int)
  | float (x : Binary64)
  | str (s : String)
  | ip (a : IpAddress)
deriving DecidableEq, Repr

/-- A document element: a scalar, a list, or a dictionary with its entries in insertion
order. -/
inductive Element where
  | scalar (s : Scalar)
  | list (items : List Element)
  | dict (entries : List (String × Element))
deriving Repr, Inhabited

mutual
/-- Equality of elements is decidable. -/
def Element.decEq : (a b : Element) → Decidable (a = b)
  | .scalar s, .scalar t =>
    if h : s = t then isTrue (h ▸ rfl) else isFalse (fun e => by cases e; exact h rfl)
  | .list xs, .list ys =>
    match Element.decEqList xs ys with
    | isTrue h => isTrue (h ▸ rfl)
    | isFalse h => isFalse (fun e => by cases e; exact h rfl)
  | .dict xs, .dict ys =>
    match Element.decEqEntries xs ys with
    | isTrue h => isTrue (h ▸ rfl)
    | isFalse h => isFalse (fun e => by cases e; exact h rfl)
  | .scalar _, .list _ => isFalse (fun e => by cases e)
  | .scalar _, .dict _ => isFalse (fun e => by cases e)
  | .list _, .scalar _ => isFalse (fun e => by cases e)
  | .list _, .dict _ => isFalse (fun e => by cases e)
  | .dict _, .scalar _ => isFalse (fun e => by cases e)
  | .dict _, .list _ => isFalse (fun e => by cases e)

/-- Equality of lists of elements is decidable. -/
def Element.decEqList : (a b : List Element) → Decidable (a = b)
  | [], [] => isTrue rfl
  | [], _ :: _ => isFalse (fun e => by cases e)
  | _ :: _, [] => isFalse (fun e => by cases e)
  | x :: xs, y :: ys =>
    match Element.decEq x y, Element.decEqList xs ys with
    | isTrue h, isTrue h' => isTrue (h ▸ h' ▸ rfl)
    | isFalse h, _ => isFalse (fun e => by cases e; exact h rfl)
    | _, isFalse h' => isFalse (fun e => by cases e; exact h' rfl)

/-- Equality of dictionary entries is decidable. -/
def Element.decEqEntries : (a b : List (String × Element)) → Decidable (a = b)
  | [], [] => isTrue rfl
  | [], _ :: _ => isFalse (fun e => by cases e)
  | _ :: _, [] => isFalse (fun e => by cases e)
  | (k, x) :: xs, (j, y) :: ys =>
    if hk : k = j then
      match Element.decEq x y, Element.decEqEntries xs ys with
      | isTrue h, isTrue h' => isTrue (hk ▸ h ▸ h' ▸ rfl)
      | isFalse h, _ => isFalse (fun e => by cases e; exact h rfl)
      | _, isFalse h' => isFalse (fun e => by cases e; exact h' rfl)
    else isFalse (fun e => by cases e; exact hk rfl)
end

instance : DecidableEq Element := Element.decEq

mutual
/-- How deeply containers nest in an element: 0 for a scalar. -/
def Element.depth : Element → Nat
  | .scalar _ => 0
  | .list items => Element.depthList items + 1
  | .dict entries => Element.depthEntries entries + 1

/-- The greatest depth of the elements of a list. -/
def Element.depthList : List Element → Nat
  | [] => 0
  | e :: es => Nat.max e.depth (Element.depthList es)

/-- The greatest depth of the values of dictionary entries. -/
def Element.depthEntries : List (String × Element) → Nat
  | [] => 0
  | (_, e) :: es => Nat.max e.depth (Element.depthEntries es)
end

/-- The entries of a dictionary, in insertion order. -/
abbrev Entries (α : Type) := List (String × α)

namespace Entries

variable {α : Type}

/-- The value of key `k`. -/
def lookup (k : String) : Entries α → Option α
  | [] => none
  | (k', v) :: rest => if k' = k then some v else lookup k rest

/-- The entries with key `k` bound to `v`: replaced in place if present, appended if not. -/
def insert (k : String) (v : α) : Entries α → Entries α
  | [] => [(k, v)]
  | (k', v') :: rest => if k' = k then (k, v) :: rest else (k', v') :: insert k v rest

/-- The entries without key `k`. -/
def erase (k : String) : Entries α → Entries α
  | [] => []
  | (k', v') :: rest => if k' = k then rest else (k', v') :: erase k rest

/-- Whether key `k` is present. -/
def contains (k : String) (es : Entries α) : Bool := (lookup k es).isSome

@[simp] theorem lookup_nil (k : String) : lookup k ([] : Entries α) = none := rfl

@[simp] theorem lookup_insert_self (k : String) (v : α) (es : Entries α) :
    lookup k (insert k v es) = some v := by
  induction es with
  | nil => simp [insert, lookup]
  | cons e rest ih =>
    obtain ⟨k', v'⟩ := e
    by_cases h : k' = k
    · simp [insert, lookup, h]
    · simp [insert, lookup, h, ih]

theorem lookup_insert_ne {k j : String} (v : α) (es : Entries α) (h : j ≠ k) :
    lookup j (insert k v es) = lookup j es := by
  induction es with
  | nil => simp [insert, lookup, Ne.symm h]
  | cons e rest ih =>
    obtain ⟨k', v'⟩ := e
    by_cases hk : k' = k
    · subst hk; simp [insert, lookup, Ne.symm h]
    · by_cases hj : k' = j
      · subst hj; simp [insert, lookup, hk]
      · simp [insert, lookup, hk, hj, ih]

/-- Binding a key to the value it already has changes nothing. -/
theorem insert_of_lookup {k : String} {v : α} :
    ∀ {es : Entries α}, lookup k es = some v → insert k v es = es
  | [], h => by simp at h
  | (k', v') :: rest, h => by
    by_cases hk : k' = k
    · subst hk
      simp [lookup] at h
      simp [insert, h]
    · simp only [lookup, if_neg hk] at h
      simp [insert, hk, insert_of_lookup h]

/-- Of two bindings of one key, the second wins. -/
@[simp] theorem insert_insert (k : String) (v w : α) :
    ∀ es : Entries α, insert k v (insert k w es) = insert k v es
  | [] => by simp [insert]
  | (k', v') :: rest => by
    by_cases hk : k' = k
    · simp [insert, hk]
    · simp [insert, hk, insert_insert k v w rest]

end Entries

end Ingest
