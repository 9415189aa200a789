import Ingest.Proofs.PathLens
import Ingest.Document.Strict

/-!
# Removing what a read finds

`Element.delete` walks a path as `Element.get` does, with the checks of each step written out
again, and at the last part takes the entry out of its container. The two walks agree on every
document: a removal fails exactly where a read fails, with the same missing prefix, and where a
read finds a value the removal takes that value out of the container that holds it (the key out
of a dictionary, or the element out of a list, later elements moving down one place) and writes
the smaller container back in its place. A read with a default gives the default exactly where
the read without one fails.

The step equations of `Element.deleteAt` come first; the main statement is
`Element.delete_agrees_with_get`.
-/

namespace Ingest


namespace Element

/-! ## One part of a removal -/

@[simp] theorem deleteAt_single_dict (part : String) (depth : Nat)
    (entries : List (String × Element)) :
    deleteAt [part] depth (.dict entries) =
      if Entries.contains part entries then .ok (.dict (Entries.erase part entries))
      else .error ⟨depth + 1⟩ := rfl

@[simp] theorem deleteAt_single_list (part : String) (depth : Nat) (items : List Element) :
    deleteAt [part] depth (.list items) =
      match indexOf? part with
      | some i => if i < items.length then .ok (.list (items.eraseIdx i)) else .error ⟨depth + 1⟩
      | none => .error ⟨depth + 1⟩ := rfl

@[simp] theorem deleteAt_cons_dict (part r : String) (rs : List String) (depth : Nat)
    (entries : List (String × Element)) :
    deleteAt (part :: r :: rs) depth (.dict entries) =
      match Entries.lookup part entries with
      | some c =>
        (deleteAt (r :: rs) (depth + 1) c).map fun c => .dict (Entries.insert part c entries)
      | none => .error ⟨depth + 1⟩ := rfl

@[simp] theorem deleteAt_cons_list (part r : String) (rs : List String) (depth : Nat)
    (items : List Element) :
    deleteAt (part :: r :: rs) depth (.list items) =
      match indexOf? part with
      | some i =>
        match items[i]? with
        | some c => (deleteAt (r :: rs) (depth + 1) c).map fun c => .list (items.set i c)
        | none => .error ⟨depth + 1⟩
      | none => .error ⟨depth + 1⟩ := rfl

@[simp] theorem deleteAt_cons_scalar (part : String) (rest : List String) (depth : Nat)
    (x : Scalar) : deleteAt (part :: rest) depth (.scalar x) = .error ⟨depth + 1⟩ := by
  cases rest <;> rfl

/-! ## Removal against reading -/

theorem map_eq_error_iff {α β : Type} {f : α → β} {x : Except PathMiss α} {m : PathMiss} :
    x.map f = .error m ↔ x = .error m := by
  cases x <;> simp [Except.map]

/-- A removal stops exactly where a read stops, with the same miss. -/
theorem deleteAt_error_iff :
    ∀ (parts : List String) (depth : Nat) (e : Element) (m : PathMiss),
      deleteAt parts depth e = .error m ↔ getAt parts depth e = .error m := by
  intro parts
  induction parts with
  | nil => intro depth e m; simp [deleteAt]
  | cons part rest ih =>
    intro depth e m
    cases e with
    | scalar x => simp
    | dict entries =>
      cases hl : Entries.lookup part entries with
      | none => cases rest <;> simp [Entries.contains, hl]
      | some c => cases rest <;> simp [Entries.contains, hl, map_eq_error_iff, ih]
    | list items =>
      cases hi : indexOf? part with
      | none => cases rest <;> simp [hi]
      | some i =>
        cases hc : items[i]? with
        | none =>
          have hge : ¬ i < items.length := by simpa using hc
          cases rest <;> simp [hi, hge]
        | some c =>
          have hlt : i < items.length := (List.getElem?_eq_some_iff.mp hc).1
          cases rest <;> simp [hi, hlt, map_eq_error_iff, ih]

/-- `c'` is the container `c` without the child `x` it holds under `part`: the key removed from
a dictionary, or the element at the index removed from a list, later elements moving down one
place. -/
def ChildRemoved (part : String) (c x c' : Element) : Prop :=
  (∃ entries, c = .dict entries ∧ Entries.lookup part entries = some x ∧
      c' = .dict (Entries.erase part entries)) ∨
  (∃ items i, c = .list items ∧ indexOf? part = some i ∧ items[i]? = some x ∧
      c' = .list (items.eraseIdx i))

/-- The last part: where a read finds `x`, a removal takes it out of the container that holds
it. -/
theorem deleteAt_single_of_getAt {last : String} {depth : Nat} {c x : Element}
    (h : getAt [last] depth c = .ok x) :
    ∃ c', ChildRemoved last c x c' ∧ deleteAt [last] depth c = .ok c' := by
  cases c with
  | scalar _ => simp at h
  | dict entries =>
    obtain ⟨x', hl, hx⟩ := getAt_cons_dict_ok h
    cases hx
    exact ⟨_, .inl ⟨entries, rfl, hl, rfl⟩, by simp [Entries.contains, hl]⟩
  | list items =>
    obtain ⟨i, x', hi, hx', hx⟩ := getAt_cons_list_ok h
    cases hx
    have hlt : i < items.length := (List.getElem?_eq_some_iff.mp hx').1
    exact ⟨_, .inr ⟨items, i, rfl, hi, hx', rfl⟩, by simp [hi, hlt]⟩

/-- Where a read finds `x`, a removal takes `x` out of the container that holds it and writes
that container back in its place. -/
theorem deleteAt_of_getAt (last : String) :
    ∀ (init : List String) (depth : Nat) (e x : Element),
      getAt (init ++ [last]) depth e = .ok x →
        ∃ c c', getAt init depth e = .ok c ∧ ChildRemoved last c x c' ∧
          deleteAt (init ++ [last]) depth e = setAt c' true init depth e := by
  intro init
  induction init with
  | nil =>
    intro depth e x h
    obtain ⟨c', hrem, hdel⟩ := deleteAt_single_of_getAt h
    exact ⟨e, c', rfl, hrem, by simpa using hdel⟩
  | cons a init ih =>
    intro depth e x h
    obtain ⟨r, rs, hrs⟩ := List.exists_cons_of_ne_nil (by simp : init ++ [last] ≠ [])
    cases e with
    | scalar _ => simp at h
    | dict entries =>
      obtain ⟨child, hl, hget⟩ := getAt_cons_dict_ok h
      obtain ⟨c, c', hc, hrem, hdel⟩ := ih (depth + 1) child x hget
      refine ⟨c, c', by simpa [hl] using hc, hrem, ?_⟩
      rw [List.cons_append, hrs, deleteAt_cons_dict, ← hrs, setAt_cons_dict_override, hl]
      simp [hdel]
    | list items =>
      obtain ⟨i, child, hi, hchild, hget⟩ := getAt_cons_list_ok h
      obtain ⟨c, c', hc, hrem, hdel⟩ := ih (depth + 1) child x hget
      refine ⟨c, c', by simpa [hi, hchild] using hc, hrem, ?_⟩
      rw [List.cons_append, hrs, deleteAt_cons_list, ← hrs, setAt_cons_list, hi]
      simp [hchild, hdel]

end Element

/-- A path is its parts before the last, then the last. -/
theorem FieldPath.dropLast_append_last (p : FieldPath) :
    p.parts.dropLast ++ [p.last] = p.parts := by
  rw [FieldPath.last, List.getLastD_eq_getLast?, List.getLast?_eq_some_getLast p.nonempty]
  exact List.dropLast_concat_getLast p.nonempty

/-- Removing through a path and reading through it agree on every document: the removal fails
exactly where the read fails, with the same missing prefix, which the read names; where the read
finds `x`, the removal takes `x` out of the container that holds it and writes that container
back in its place. A read with a default gives the default exactly where the read without one
fails, and the value found otherwise. -/
theorem Element.delete_agrees_with_get (p : FieldPath) (d : Element) :
    (∀ m, Element.delete p d = .error m ↔ Element.get p d = .error m) ∧
    (∀ m, Element.get p d = .error m →
      Element.read p d none none = .error (.missingKey (p.prefixText m.depth))) ∧
    (∀ x, Element.get p d = .ok x →
      Element.read p d none none = .ok x ∧
      ∃ c c', Element.getAt p.parts.dropLast 0 d = .ok c ∧ Element.ChildRemoved p.last c x c' ∧
        Element.delete p d = Element.setAt c' true p.parts.dropLast 0 d) ∧
    (∀ x m, Element.get p d = .error m → Element.read p d (some x) none = .ok x) ∧
    (∀ x v, Element.get p d = .ok v → Element.read p d (some x) none = .ok v) := by
  refine ⟨fun m => Element.deleteAt_error_iff _ _ _ _, fun m h => ?_, fun x h => ?_,
    fun x m h => by simp [Element.read, h], fun x v h => by simp [Element.read, h]⟩
  · simp [Element.read, h, FieldPath.missing]
  · refine ⟨by simp [Element.read, h], ?_⟩
    have hsplit := p.dropLast_append_last
    rw [Element.get, ← hsplit] at h
    simpa [Element.delete, hsplit] using Element.deleteAt_of_getAt p.last _ 0 d x h

end Ingest
