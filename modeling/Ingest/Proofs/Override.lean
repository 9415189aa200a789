import Ingest.Proofs.PathDelete
import Ingest.Proofs.StoreWrite
import Ingest.Pipeline.Apply

/-!
# Writing without override

A write without `override` consults the flag at the last part only, and only where the container
there is a dictionary: a key already present keeps its value. Where the container is a list, the
element at the index is replaced all the same. So a value that a read finds is kept exactly when
a dictionary holds it; a set processor without `override` inherits this, while a copy processor
without `override` reads its target first and writes nothing when the read succeeds, whatever
holds the target.

Where a read stops at a dictionary without the next key, the write makes the rest of the path
from empty dictionaries, in which no key is present, so `override` makes no difference.

The statements are proved for documents as trees (`Element.setAt`) and for documents in a store
(`Store.setAt`, then the set and copy processors); the main statement is
`write_without_override_spares_dictionaries`, and `Element.set_without_override_overwrites_item`
shows a list element replaced by a write without `override`.
-/

namespace Ingest


namespace Element

variable (v : Element)

/-! ## Documents as trees -/

/-- Without `override`, a write whose path a read follows to a dictionary that holds the last
key leaves the element as it was. -/
theorem setAt_keep_of_getAt (last : String) :
    ∀ (init : List String) (depth : Nat) (e : Element) (entries : List (String × Element)),
      getAt init depth e = .ok (.dict entries) → Entries.contains last entries = true →
        setAt v false (init ++ [last]) depth e = .ok e := by
  intro init
  induction init with
  | nil =>
    intro depth e entries h hc
    simp only [getAt_nil, Except.ok.injEq] at h
    subst h
    simp [hc]
  | cons a init ih =>
    intro depth e entries h hc
    have hne : init ++ [last] ≠ [] := by simp
    obtain ⟨r, rs, hrs⟩ := List.exists_cons_of_ne_nil hne
    cases e with
    | scalar _ => simp at h
    | dict es =>
      obtain ⟨child, hl, hget⟩ := getAt_cons_dict_ok h
      rw [List.cons_append, hrs, setAt_cons_dict, hl, Option.getD_some, ← hrs,
        ih (depth + 1) child entries hget hc]
      simp [Except.map, Entries.insert_of_lookup hl]
    | list items =>
      obtain ⟨i, child, hi, hchild, hget⟩ := getAt_cons_list_ok h
      rw [List.cons_append, setAt_cons_list, hi]
      simp [hchild, ih (depth + 1) child entries hget hc, Except.map, set_of_getElem? hchild]

/-- A write into an empty dictionary does not depend on `override`: it finds no key there. -/
theorem setAt_empty_dict (override : Bool) :
    ∀ (rest : List String) (depth : Nat),
      setAt v override rest depth (.dict []) = setAt v true rest depth (.dict [])
  | [], _ => rfl
  | [_], _ => by simp [Entries.contains]
  | _ :: r :: rs, depth => by
    simp only [setAt_cons_dict, Entries.lookup_nil, Option.getD_none]
    rw [setAt_empty_dict override (r :: rs) (depth + 1)]

/-- A write into an empty dictionary succeeds: it makes every dictionary it needs on the way. -/
theorem setAt_empty_dict_ok :
    ∀ (rest : List String) (depth : Nat), ∃ e, setAt v true rest depth (.dict []) = .ok e
  | [], _ => ⟨v, rfl⟩
  | [a], _ => ⟨.dict (Entries.insert a v []), by simp⟩
  | a :: r :: rs, depth => by
    obtain ⟨e, he⟩ := setAt_empty_dict_ok (r :: rs) (depth + 1)
    exact ⟨.dict (Entries.insert a e []), by simp [he, Except.map]⟩

/-- Where a read reaches a dictionary without the next key, a write does not depend on
`override`. -/
theorem setAt_override_of_missing_key (override : Bool) (a : String) (rest : List String) :
    ∀ (init : List String) (depth : Nat) (e : Element) (entries : List (String × Element)),
      getAt init depth e = .ok (.dict entries) → Entries.lookup a entries = none →
        setAt v override (init ++ a :: rest) depth e =
          setAt v true (init ++ a :: rest) depth e := by
  intro init
  induction init with
  | nil =>
    intro depth e entries h hl
    simp only [getAt_nil, Except.ok.injEq] at h
    subst h
    cases rest with
    | nil => simp [Entries.contains, hl]
    | cons r rs =>
      simp only [List.nil_append, setAt_cons_dict, hl, Option.getD_none]
      rw [setAt_empty_dict v override (r :: rs) (depth + 1)]
  | cons b init ih =>
    intro depth e entries h hl
    have hne : init ++ a :: rest ≠ [] := by simp
    obtain ⟨r, rs, hrs⟩ := List.exists_cons_of_ne_nil hne
    cases e with
    | scalar _ => simp at h
    | dict es =>
      obtain ⟨child, hb, hget⟩ := getAt_cons_dict_ok h
      rw [List.cons_append, hrs, setAt_cons_dict, setAt_cons_dict, hb, Option.getD_some, ← hrs,
        ih (depth + 1) child entries hget hl]
    | list items =>
      obtain ⟨i, child, hi, hchild, hget⟩ := getAt_cons_list_ok h
      rw [List.cons_append, setAt_cons_list, setAt_cons_list, hi]
      simp [hchild, ih (depth + 1) child entries hget hl]

/-- A read along `init ++ rest` reads along `init`, then along `rest` from what it found. -/
theorem getAt_append :
    ∀ (init rest : List String) (depth : Nat) (e : Element),
      getAt (init ++ rest) depth e = (getAt init depth e).bind (getAt rest (depth + init.length))
  | [], rest, depth, e => by simp [Except.bind]
  | a :: init, rest, depth, e => by
    cases e with
    | scalar _ => simp [Except.bind]
    | dict entries =>
      cases hl : Entries.lookup a entries with
      | none => simp [hl, Except.bind]
      | some c =>
        simp only [List.cons_append, getAt_cons_dict, hl, getAt_append init rest (depth + 1) c]
        simp [Nat.add_assoc, Nat.add_comm 1]
    | list items =>
      cases hc : (indexOf? a).bind (items[·]?) with
      | none => simp [hc, Except.bind]
      | some c =>
        simp only [List.cons_append, getAt_cons_list, hc, getAt_append init rest (depth + 1) c]
        simp [Nat.add_assoc, Nat.add_comm 1]

/-- A write along `c ++ rest`, where `c` leads to `t`, is the write along `rest` into `t`, put
back at `c`. -/
theorem setAt_append : ∀ (c : List String) {rest : List String} {depth : Nat}
    {e t : Element}, getAt c depth e = .ok t →
      setAt v true (c ++ rest) depth e =
        (setAt v true rest (depth + c.length) t).bind fun t' => setAt t' true c depth e
  | [], rest, depth, e, t, h => by
    simp only [getAt_nil, Except.ok.injEq] at h
    subst h
    simp only [List.nil_append, List.length_nil, Nat.add_zero]
    cases setAt v true rest depth e <;> rfl
  | a :: c, rest, depth, e, t, h => by
    have hdepth : depth + (a :: c).length = depth + 1 + c.length := by simp; omega
    cases e with
    | scalar _ => simp at h
    | dict entries =>
      obtain ⟨child, hl, h'⟩ := getAt_cons_dict_ok h
      rw [List.cons_append, setAt_cons_dict_override, hl, Option.getD_some, setAt_append c h',
        hdepth]
      simp only [setAt_cons_dict_override, hl, Option.getD_some]
      cases setAt v true rest (depth + 1 + c.length) t <;> rfl
    | list items =>
      obtain ⟨i, child, hi, hc, h'⟩ := getAt_cons_list_ok h
      simp only [List.cons_append, setAt_cons_list, hi, hc]
      rw [setAt_append c h', hdepth]
      cases setAt v true rest (depth + 1 + c.length) t <;> rfl

end Element

/-! ## Documents in a store -/

/-- A step that succeeds passes its value and store on. -/
theorem Run.bind_of_ok {α β : Type} {x : Run α} {f : α → Run β} {s s' : Store} {a : α}
    (h : x s = .ok a s') : (x >>= f) s = f a s' := by
  show EStateM.bind x f s = _
  simp [EStateM.bind, h]

/-- Testing for an empty value reads the store and leaves it as it was. -/
theorem Run.isEmptyValue_eq (n : Node) (s : Store) :
    Run.isEmptyValue n s =
      .ok (decide (s.scalarOf? n = some .null ∨ s.scalarOf? n = some (.str ""))) s := by
  delta Run.isEmptyValue
  rw [Run.bind_of_ok (rfl : (get : Run Store) s = .ok s s)]
  -- the test's own case split on the scalar, read in the store it is given
  rcases s.scalarOf? n with _ | ⟨_ | _ | _ | _ | t | _⟩
  all_goals try rfl
  by_cases ht : t = ""
  · subst ht
    rfl
  · simp [ht]
    rfl

/-- Finding a node reads the store and leaves it as it was. -/
theorem Run.find_eq (p : FieldPath) (doc : Node) (s : Store) :
    Run.find p doc s = .ok (s.get p doc) s := rfl

/-- A write through the store that succeeds is a write of the run. -/
theorem Run.write_of_set {p : FieldPath} {v : Node} {override : Bool} {doc : Node} {s s' : Store}
    (h : Store.set p v override doc s = .ok () s') : Run.write p v override doc s = .ok () s' := by
  delta Run.write EStateM.adaptExcept
  rw [h]

namespace Store

theorem entries?_eq_some {s : Store} {n : Node} {entries : Entries Node}
    (h : s.entries? n = some entries) : ∃ i, s.cellOf? n = some (i, .dict entries) := by
  rcases hcell : s.cellOf? n with _ | ⟨i, items | entries' | _⟩ <;> simp [entries?, hcell] at h
  exact ⟨i, by rw [h]⟩

/-- A read along `init ++ rest` reads along `init`, then along `rest` from what it found. -/
theorem getAt_append (s : Store) :
    ∀ (init rest : List String) (depth : Nat) (n : Node),
      s.getAt (init ++ rest) depth n =
        (s.getAt init depth n).bind (s.getAt rest (depth + init.length))
  | [], rest, depth, n => by simp [Except.bind]
  | a :: init, rest, depth, n => by
    cases hc : s.child? a n with
    | none => simp [getAt_cons_none hc, Except.bind]
    | some c =>
      rw [List.cons_append, getAt_cons_some hc, getAt_cons_some hc, getAt_append s init rest]
      simp [Nat.add_assoc, Nat.add_comm 1]

/-- Under a part, a dictionary holds the entry of that key. -/
theorem child?_of_entries {s : Store} {n : Node} {entries : Entries Node}
    (h : s.entries? n = some entries) (part : String) :
    s.child? part n = Entries.lookup part entries := by
  obtain ⟨i, hcell⟩ := entries?_eq_some h
  simp [child?, hcell]

/-- Without `override`, a write whose path a read follows to a dictionary that holds the last
key changes no container. -/
theorem setAt_keep_of_getAt (v : Node) (last : String) :
    ∀ (init : List String) (depth : Nat) (n c : Node) (s : Store) (entries : Entries Node),
      s.getAt init depth n = .ok c → s.entries? c = some entries →
        Entries.contains last entries = true →
          setAt v false (init ++ [last]) depth n s = .ok () s := by
  intro init
  induction init with
  | nil =>
    intro depth n c s entries h he hc
    simp only [getAt_nil, Except.ok.injEq] at h
    subst h
    obtain ⟨i, hcell⟩ := entries?_eq_some he
    simp [setAt, hcell, hc]
  | cons a init ih =>
    intro depth n c s entries h he hc
    cases hch : s.child? a n with
    | none => rw [getAt_cons_none hch] at h; cases h
    | some c₀ =>
      rw [getAt_cons_some hch] at h
      obtain ⟨r, rs, hrs⟩ := List.exists_cons_of_ne_nil (by simp : init ++ [last] ≠ [])
      rw [List.cons_append, hrs, setAt_cons_of_child v false hch, ← hrs]
      exact ih (depth + 1) c₀ c s entries h he hc

end Store

namespace Action

/-! ## Set and copy processors -/

/-- A set processor tests its value for emptiness, then writes it unless it is empty and empty
values are to be ignored. -/
theorem apply_set (field : FieldPath) (value : Node) (override ignoreEmpty : Bool) (doc : Node)
    (s : Store) :
    (Action.set field value override ignoreEmpty).apply doc s =
      if ignoreEmpty && decide (s.scalarOf? value = some .null ∨ s.scalarOf? value = some (.str ""))
      then .ok () s else Run.write field value override doc s := by
  show EStateM.bind (Run.isEmptyValue value) _ s = _
  simp only [EStateM.bind, Run.isEmptyValue_eq]
  split <;> rfl

/-- Without `override`, a set processor whose field a read finds in a dictionary changes no
container. -/
theorem apply_set_keep {p : FieldPath} {value doc c : Node} {ignoreEmpty : Bool} {s : Store}
    {entries : Entries Node} (hc : s.getAt p.parts.dropLast 0 doc = .ok c)
    (he : s.entries? c = some entries) (hkey : Entries.contains p.last entries = true) :
    (Action.set p value false ignoreEmpty).apply doc s = .ok () s := by
  have hset : Store.set p value false doc s = .ok () s := by
    have := Store.setAt_keep_of_getAt value p.last _ 0 doc c s entries hc he hkey
    rwa [FieldPath.dropLast_append_last] at this
  rw [apply_set]
  split
  · rfl
  · exact Run.write_of_set hset

/-- Without `override`, a copy processor whose target a read finds changes no container, whatever
holds the target: it fails, or returns, before writing. -/
theorem apply_copy_keep {field target : FieldPath} {doc : Node} {ignoreEmpty remove : Bool}
    {s : Store} {y : Node} (ht : s.get target doc = .ok y) :
    (Action.copy field target ignoreEmpty false remove).apply doc s = .ok () s ∨
      ∃ e, (Action.copy field target ignoreEmpty false remove).apply doc s = .error e s := by
  delta Action.apply
  dsimp only
  rw [Run.bind_of_ok (Run.find_eq field doc s)]
  cases s.get field doc with
  | error m =>
    -- the field is missing: skipped, or a failure
    cases ignoreEmpty
    · exact .inr ⟨_, rfl⟩
    · exact .inl rfl
  | ok value =>
    dsimp only
    rw [Run.bind_of_ok (Run.isEmptyValue_eq value s)]
    split
    · exact .inl rfl
    · -- the target is probed before anything is written
      simp only [Bool.not_false, if_true]
      rw [Run.bind_of_ok (Run.find_eq target doc s), ht]
      exact .inl rfl

end Action

/-- Where a read finds a value, the container holding it has its last part. -/
theorem Element.contains_last_of_get {p : FieldPath} {d x : Element}
    {entries : List (String × Element)} (h : Element.get p d = .ok x)
    (hd : Element.getAt p.parts.dropLast 0 d = .ok (.dict entries)) :
    Entries.contains p.last entries = true := by
  rw [Element.get, ← p.dropLast_append_last, Element.getAt_append, hd] at h
  obtain ⟨c, hl, -⟩ := Element.getAt_cons_dict_ok h
  simp [Entries.contains, hl]

/-- Where a read through the store finds a value, the container holding it has its last part. -/
theorem Store.contains_last_of_get {p : FieldPath} {doc c y : Node} {s : Store}
    {entries : Entries Node} (h : s.get p doc = .ok y)
    (hc : s.getAt p.parts.dropLast 0 doc = .ok c) (he : s.entries? c = some entries) :
    Entries.contains p.last entries = true := by
  rw [Store.get, ← p.dropLast_append_last, Store.getAt_append, hc] at h
  cases hl : Entries.lookup p.last entries with
  | none =>
    simp [Except.bind, Store.getAt_cons_none ((Store.child?_of_entries he _).trans hl)] at h
  | some _ => simp [Entries.contains, hl]

/-! ## What a write without `override` keeps -/

/-- A write without `override` keeps a value that a read finds in a dictionary: on a tree, and in
a store through a set processor. Where a read stops at a dictionary without the next key, the
write is the same as with `override`. A copy processor without `override` writes nothing once it
finds its target, whatever container holds it. -/
theorem write_without_override_spares_dictionaries (p : FieldPath) (v d : Element) :
    (∀ x entries, Element.get p d = .ok x →
      Element.getAt p.parts.dropLast 0 d = .ok (.dict entries) →
        Element.set p v false d = .ok d) ∧
    (∀ init a rest entries, p.parts = init ++ a :: rest →
      Element.getAt init 0 d = .ok (.dict entries) → Entries.lookup a entries = none →
        Element.set p v false d = Element.set p v true d) ∧
    (∀ (value doc c y : Node) (ignoreEmpty : Bool) (s : Store) (entries : Entries Node),
      s.get p doc = .ok y → s.getAt p.parts.dropLast 0 doc = .ok c →
        s.entries? c = some entries →
          (Action.set p value false ignoreEmpty).apply doc s = .ok () s) ∧
    (∀ (field : FieldPath) (doc y : Node) (ignoreEmpty remove : Bool) (s : Store),
      s.get p doc = .ok y →
        (Action.copy field p ignoreEmpty false remove).apply doc s = .ok () s ∨
          ∃ e, (Action.copy field p ignoreEmpty false remove).apply doc s = .error e s) := by
  refine ⟨fun x entries h hd => ?_, fun init a rest entries hp hd hl => ?_,
    fun value doc c y ignoreEmpty s entries h hc he =>
      Action.apply_set_keep hc he (Store.contains_last_of_get h hc he),
    fun field doc y ignoreEmpty remove s h => Action.apply_copy_keep h⟩
  · have := Element.setAt_keep_of_getAt v p.last _ 0 d entries hd
      (Element.contains_last_of_get h hd)
    rwa [p.dropLast_append_last] at this
  · simpa [Element.set, hp] using
      Element.setAt_override_of_missing_key v false a rest init 0 d entries hd hl

/-- The four cases in the document `{"a": {"b": 1}}`: writing 2 to `a.b` without `override`
keeps the 1, on the tree and through a set processor; writing to `a.c`, missing from that
dictionary, is the same with or without `override`; and a copy to `a.b` without `override`
leaves the store as it is, or fails. -/
theorem write_without_override_keeps_present_key :
    let p : FieldPath := ⟨["a", "b"], by simp, by simp [isPathPart]⟩
    let q : FieldPath := ⟨["a", "c"], by simp, by simp [isPathPart]⟩
    let d : Element := .dict [("a", .dict [("b", .scalar (.int 1))])]
    let doc := (Store.empty.install d).1
    let s := (Store.empty.install d).2
    Element.set p (.scalar (.int 2)) false d = .ok d ∧
      Element.set q (.scalar (.int 2)) false d = Element.set q (.scalar (.int 2)) true d ∧
      (Action.set p (.scalar (.int 2)) false false).apply doc s = .ok () s ∧
      ((Action.copy q p false false false).apply doc s = .ok () s ∨
        ∃ e, (Action.copy q p false false false).apply doc s = .error e s) := by
  intro p q d doc s
  obtain ⟨htree, -, hstore, hcopy⟩ :=
    write_without_override_spares_dictionaries p (.scalar (.int 2)) d
  obtain ⟨-, hmissing, -, -⟩ :=
    write_without_override_spares_dictionaries q (.scalar (.int 2)) d
  refine ⟨htree (.scalar (.int 1)) [("b", .scalar (.int 1))] rfl rfl,
    hmissing ["a"] "c" [] [("b", .scalar (.int 1))] rfl rfl rfl,
    hstore (.scalar (.int 2)) doc (.ref 0) (.scalar (.int 1)) false s [("b", .scalar (.int 1))]
      rfl rfl rfl,
    hcopy q doc (.scalar (.int 1)) false false s rfl⟩

/-- Without `override`, a write still replaces the element of a list that a read finds there. -/
theorem Element.set_without_override_overwrites_item :
    Element.get ⟨["a", "0"], by simp, by simp [isPathPart]⟩
        (.dict [("a", .list [.scalar (.int 1)])]) = .ok (.scalar (.int 1)) ∧
    Element.set ⟨["a", "0"], by simp, by simp [isPathPart]⟩ (.scalar (.int 2)) false
        (.dict [("a", .list [.scalar (.int 1)])]) = .ok (.dict [("a", .list [.scalar (.int 2)])]) ∧
    (.dict [("a", .list [.scalar (.int 2)])] : Element) ≠ .dict [("a", .list [.scalar (.int 1)])] :=
  ⟨rfl, rfl, by decide⟩

end Ingest
