import Ingest.Document.Access

/-!
# Reading back what was written

On documents taken as trees, reading and writing through a path form a lens: a value written
with `override` is read back, writing back the value read leaves the document as it was, and a
second write to a path with `override` leaves no trace of the first.

The laws are proved of the walks `Element.getAt` and `Element.setAt`, for every list of parts
and every depth the walk starts from, by induction on the parts with a case for each kind of
element. Only at a dictionary does the last part need a case of its own: there a write without
`override` keeps an entry that is already present.
-/

namespace Ingest

namespace Element

/-- The element at a list index, written back there, leaves the list as it was. -/
theorem set_of_getElem? {items : List Element} {i : Nat} {c : Element}
    (hc : items[i]? = some c) : items.set i c = items := by
  obtain ⟨hlt, rfl⟩ := List.getElem?_eq_some_iff.mp hc
  exact List.set_getElem_self hlt

/-! ## One part of the walk -/

/-- A read through a list went on at the element of a valid index. -/
theorem getAt_cons_list_ok {part : String} {rest : List String} {depth : Nat}
    {items : List Element} {x : Element} (h : getAt (part :: rest) depth (.list items) = .ok x) :
    ∃ i c, indexOf? part = some i ∧ items[i]? = some c ∧ getAt rest (depth + 1) c = .ok x := by
  cases hi : indexOf? part with
  | none => simp [hi] at h
  | some i =>
      cases hc : items[i]? with
      | none => simp [hi, hc] at h
      | some c =>
          simp only [getAt_cons_list, hi, hc, Option.bind_some] at h
          exact ⟨i, c, rfl, hc, h⟩

/-- A read through a dictionary went on at the entry under the part. -/
theorem getAt_cons_dict_ok {part : String} {rest : List String} {depth : Nat}
    {entries : List (String × Element)} {x : Element}
    (h : getAt (part :: rest) depth (.dict entries) = .ok x) :
    ∃ c, Entries.lookup part entries = some c ∧ getAt rest (depth + 1) c = .ok x := by
  cases hl : Entries.lookup part entries with
  | none => simp [hl] at h
  | some c =>
      simp only [getAt_cons_dict, hl] at h
      exact ⟨c, rfl, h⟩

/-- A write through a list wrote into the element of a valid index. -/
theorem setAt_cons_list_ok {v : Element} {override : Bool} {part : String}
    {rest : List String} {depth : Nat} {items : List Element} {e' : Element}
    (h : setAt v override (part :: rest) depth (.list items) = .ok e') :
    ∃ i child c, indexOf? part = some i ∧ items[i]? = some child ∧
      setAt v override rest (depth + 1) child = .ok c ∧ e' = .list (items.set i c) := by
  cases hi : indexOf? part with
  | none => simp [hi] at h
  | some i =>
      cases hc : items[i]? with
      | none => simp [hi, hc] at h
      | some child =>
          cases hset : setAt v override rest (depth + 1) child with
          | error m => simp [hi, hc, hset, Except.map] at h
          | ok c =>
              simp only [setAt_cons_list, hi, hc, hset, Except.map, Except.ok.injEq] at h
              exact ⟨i, child, c, rfl, hc, hset, h.symm⟩

/-- With `override`, a write at a dictionary goes on into the entry under the part, or into a
new empty dictionary, whether or not more parts follow. -/
theorem setAt_cons_dict_override (v : Element) (part : String) (rest : List String)
    (depth : Nat) (entries : List (String × Element)) :
    setAt v true (part :: rest) depth (.dict entries) =
      (setAt v true rest (depth + 1) ((Entries.lookup part entries).getD (.dict []))).map
        fun c => .dict (Entries.insert part c entries) := by
  cases rest with
  | nil => simp [Except.map]
  | cons r rs => rfl

/-! ## The three laws -/

/-- A write with `override` is read back. -/
theorem getAt_setAt (v : Element) :
    ∀ (parts : List String) (depth : Nat) (e e' : Element),
      setAt v true parts depth e = .ok e' → getAt parts depth e' = .ok v := by
  intro parts
  induction parts with
  | nil =>
      intro depth e e' h
      simp only [setAt_nil, Except.ok.injEq] at h
      simp [h]
  | cons part rest ih =>
      intro depth e e' h
      cases e with
      | scalar _ => simp at h
      | list items =>
          obtain ⟨i, child, c, hi, hc, hset, rfl⟩ := setAt_cons_list_ok h
          have hlt : i < items.length := (List.getElem?_eq_some_iff.mp hc).1
          simp [hi, hlt, ih _ _ _ hset]
      | dict entries =>
          rw [setAt_cons_dict_override] at h
          cases hset : setAt v true rest (depth + 1)
              ((Entries.lookup part entries).getD (.dict [])) with
          | error m => simp [hset, Except.map] at h
          | ok c =>
              simp only [hset, Except.map, Except.ok.injEq] at h
              subst h
              simp [ih _ _ _ hset]

/-- Writing back the value read changes nothing, with or without `override`. -/
theorem setAt_getAt (override : Bool) :
    ∀ (parts : List String) (depth : Nat) (e x : Element),
      getAt parts depth e = .ok x → setAt x override parts depth e = .ok e := by
  intro parts
  induction parts with
  | nil =>
      intro depth e x h
      simp only [getAt_nil, Except.ok.injEq] at h
      simp [h]
  | cons part rest ih =>
      intro depth e x h
      cases e with
      | scalar _ => simp at h
      | list items =>
          obtain ⟨i, c, hi, hc, hget⟩ := getAt_cons_list_ok h
          simp [hi, hc, ih _ _ _ hget, Except.map, set_of_getElem? hc]
      | dict entries =>
          obtain ⟨c, hl, hget⟩ := getAt_cons_dict_ok h
          cases rest with
          | nil =>
              -- the last part: the value read is the one bound to the key
              simp only [getAt_nil, Except.ok.injEq] at hget
              subst hget
              simp [Entries.insert_of_lookup hl]
          | cons r rs => simp [hl, ih _ _ _ hget, Except.map, Entries.insert_of_lookup hl]

/-- A write followed by a write with `override` at the same place is the second write alone. -/
theorem setAt_setAt (v w : Element) (override : Bool) :
    ∀ (parts : List String) (depth : Nat) (e e₁ : Element),
      setAt v override parts depth e = .ok e₁ →
        setAt w true parts depth e₁ = setAt w true parts depth e := by
  intro parts
  induction parts with
  | nil => intro depth e e₁ _; simp
  | cons part rest ih =>
      intro depth e e₁ h
      cases e with
      | scalar _ => simp at h
      | list items =>
          obtain ⟨i, child, c, hi, hc, hset, rfl⟩ := setAt_cons_list_ok h
          have hlt : i < items.length := (List.getElem?_eq_some_iff.mp hc).1
          simp only [setAt_cons_list, hi, List.getElem?_set_self hlt, hc]
          -- the second write enters the element the first one wrote
          rw [ih _ _ _ hset]
          simp [Except.map, List.set_set]
      | dict entries =>
          cases rest with
          | nil =>
              -- without `override` the first write may have kept the entry there
              simp only [setAt_single_dict] at h
              split at h
              · simp only [Except.ok.injEq] at h
                subst h
                simp
              · simp only [Except.ok.injEq] at h
                subst h
                rfl
          | cons r rs =>
              cases hset : setAt v override (r :: rs) (depth + 1)
                  ((Entries.lookup part entries).getD (.dict [])) with
              | error m => simp [hset, Except.map] at h
              | ok c =>
                  simp only [setAt_cons_dict, hset, Except.map, Except.ok.injEq] at h
                  subst h
                  simp only [setAt_cons_dict, Entries.lookup_insert_self, Option.getD_some]
                  rw [ih _ _ _ hset]
                  simp [Except.map]

/-- Reading and writing through a path form a lens on documents: a write with `override` is read
back; writing back what was read leaves the document as it was; and a second write to the same
path, with `override`, leaves no trace of the first. -/
theorem get_set_lens (p : FieldPath) (d : Element) :
    (∀ v d', Element.set p v true d = .ok d' → Element.get p d' = .ok v) ∧
    (∀ x override, Element.get p d = .ok x → Element.set p x override d = .ok d) ∧
    (∀ v₁ v₂ override d₁, Element.set p v₁ override d = .ok d₁ →
      Element.set p v₂ true d₁ = Element.set p v₂ true d) :=
  ⟨fun v _ h => getAt_setAt v _ _ _ _ h,
   fun _ override h => setAt_getAt override _ _ _ _ h,
   fun v₁ v₂ override _ h => setAt_setAt v₁ v₂ override _ _ _ _ h⟩

/-- The three laws at the first item of a list under a key: 5 written there is read back, the 1
read there is written back without a change, and writing 7 after 5 is writing 7 alone. -/
theorem get_set_lens_first_item :
    let p : FieldPath := ⟨["a", "0"], by simp, by simp [isPathPart]⟩
    let d : Element := .dict [("a", .list [.scalar (.int 1), .scalar (.int 2)])]
    let d₅ : Element := .dict [("a", .list [.scalar (.int 5), .scalar (.int 2)])]
    Element.set p (.scalar (.int 5)) true d = .ok d₅ ∧
      Element.get p d₅ = .ok (.scalar (.int 5)) ∧
      Element.get p d = .ok (.scalar (.int 1)) ∧
      Element.set p (.scalar (.int 1)) false d = .ok d ∧
      Element.set p (.scalar (.int 7)) true d₅ = Element.set p (.scalar (.int 7)) true d := by
  intro p d d₅
  have hset : Element.set p (.scalar (.int 5)) true d = .ok d₅ := rfl
  have hget : Element.get p d = .ok (.scalar (.int 1)) := rfl
  obtain ⟨hread, hwrite, hlast⟩ := get_set_lens p d
  exact ⟨hset, hread _ _ hset, hget, hwrite _ false hget, hlast _ _ true _ hset⟩

end Element

end Ingest
