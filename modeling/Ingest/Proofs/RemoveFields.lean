import Ingest.Proofs.StoreTree
import Ingest.Proofs.PipelineFailure

/-!
# Removing a set of fields

A remove processor first checks, unless missing fields are to be ignored, that every field is in
the document, and fails on the first that is not, before anything has changed. It then removes
the fields one at a time, each from the document as the removals before it left it, passing over
a field that is missing by then. On trees, a removal that passes over a missing field is
`Element.prune`, and the removal of the fields in turn is `Element.pruneAll`.

Removals at two paths that part at a dictionary, or that go on below two different items of a
list, commute (`Element.prune_comm`), so that where the fields part that way the result does not
depend on their order (`Element.pruneAll_perm`). Removals of two items of one list do not:
taking out an item renumbers those after it. Removing `a.0` then `a.1` from `{"a": [1, 2, 3]}`
leaves `{"a": [2]}`, while the other order leaves `{"a": [3]}`, which is also what taking both
items out at once leaves.
-/

namespace Ingest

namespace Entries

variable {α : Type}

theorem lookup_erase_ne {j k : String} (es : Entries α) (h : j ≠ k) :
    lookup j (erase k es) = lookup j es := by
  induction es with
  | nil => rfl
  | cons e rest ih =>
    obtain ⟨k', v'⟩ := e
    by_cases hk : k' = k
    · subst hk
      simp [erase, lookup, Ne.symm h]
    · by_cases hj : k' = j
      · subst hj
        simp [erase, lookup, hk]
      · simp [erase, lookup, hk, hj, ih]

/-- Removing a key that is not there changes nothing. -/
theorem erase_of_lookup_eq_none {k : String} :
    ∀ {es : Entries α}, lookup k es = none → erase k es = es
  | [], _ => rfl
  | (k', v') :: rest, h => by
    by_cases hk : k' = k
    · simp [lookup, hk] at h
    · simp only [lookup, if_neg hk] at h
      simp [erase, hk, erase_of_lookup_eq_none h]

theorem erase_comm (a b : String) : ∀ es : Entries α, erase a (erase b es) = erase b (erase a es)
  | [] => rfl
  | (k, v) :: rest => by
    by_cases ha : k = a <;> by_cases hb : k = b
    · subst ha hb
      rfl
    · subst ha
      simp [erase, hb]
    · subst hb
      simp [erase, ha]
    · simp [erase, ha, hb, erase_comm a b rest]

theorem erase_insert_comm {a b : String} (v : α) (h : a ≠ b) :
    ∀ es : Entries α, erase a (insert b v es) = insert b v (erase a es)
  | [] => by simp [insert, erase, Ne.symm h]
  | (k, w) :: rest => by
    by_cases hb : k = b
    · subst hb
      simp [insert, erase, Ne.symm h]
    · by_cases ha : k = a
      · subst ha
        simp [insert, erase, hb]
      · simp [insert, erase, ha, hb, erase_insert_comm v h rest]

/-- Two bindings of different keys commute where the first key is there already: neither is
then added at the end. -/
theorem insert_comm {a b : String} (v w : α) (h : a ≠ b) :
    ∀ {es : Entries α}, lookup a es ≠ none → insert a v (insert b w es) = insert b w (insert a v es)
  | [], ha => absurd rfl ha
  | (k, u) :: rest, ha => by
    by_cases hka : k = a
    · subst hka
      simp [insert, h]
    · by_cases hkb : k = b
      · subst hkb
        simp [insert, hka]
      · simp only [lookup, if_neg hka] at ha
        simp [insert, hka, hkb, insert_comm v w h ha]

end Entries

namespace Element

/-! ## A removal that passes over a missing entry -/

/-- The tree with the entry at `path` taken out, or as it was where `path` leads nowhere: a
removal whose failure counts as nothing to remove. -/
def prune : List String → Element → Element
  | [], e => e
  | [part], .dict entries => .dict (Entries.erase part entries)
  | [part], .list items =>
    match indexOf? part with
    | some i => .list (items.eraseIdx i)
    | none => .list items
  | part :: rest, .dict entries =>
    match Entries.lookup part entries with
    | some c => .dict (Entries.insert part (prune rest c) entries)
    | none => .dict entries
  | part :: rest, .list items =>
    match indexOf? part with
    | some i =>
      match items[i]? with
      | some c => .list (items.set i (prune rest c))
      | none => .list items
    | none => .list items
  | _ :: _, .scalar x => .scalar x

@[simp] theorem prune_nil (e : Element) : prune [] e = e := rfl

@[simp] theorem prune_single_dict (part : String) (entries : List (String × Element)) :
    prune [part] (.dict entries) = .dict (Entries.erase part entries) := rfl

@[simp] theorem prune_cons_scalar (part : String) (rest : List String) (x : Scalar) :
    prune (part :: rest) (.scalar x) = .scalar x := by
  cases rest <;> rfl

@[simp] theorem prune_single_list (part : String) (items : List Element) :
    prune [part] (.list items) =
      match indexOf? part with
      | some i => .list (items.eraseIdx i)
      | none => .list items := rfl

@[simp] theorem prune_cons_dict (part r : String) (rs : List String)
    (entries : List (String × Element)) :
    prune (part :: r :: rs) (.dict entries) =
      match Entries.lookup part entries with
      | some c => .dict (Entries.insert part (prune (r :: rs) c) entries)
      | none => .dict entries := rfl

@[simp] theorem prune_cons_list (part r : String) (rs : List String) (items : List Element) :
    prune (part :: r :: rs) (.list items) =
      match indexOf? part with
      | some i =>
        match items[i]? with
        | some c => .list (items.set i (prune (r :: rs) c))
        | none => .list items
      | none => .list items := rfl

/-- A part that is no index leads nowhere in a list. -/
theorem prune_list_of_index_none {part : String} (hi : indexOf? part = none) (rest : List String)
    (items : List Element) : prune (part :: rest) (.list items) = .list items := by
  cases rest <;> simp [hi]

/-- Pruning a list leaves a list. -/
theorem prune_list_is_list (part : String) (rest : List String) (items : List Element) :
    ∃ items', prune (part :: rest) (.list items) = .list items' := by
  cases rest with
  | nil =>
    cases hi : indexOf? part <;> simp [hi]
  | cons r rs =>
    cases hi : indexOf? part with
    | none => simp [hi]
    | some i => cases hc : items[i]? <;> simp [hi, hc]

/-- A removal that succeeds gives the pruned tree. -/
theorem prune_of_deleteAt_ok :
    ∀ {path : List String} {depth : Nat} {e e' : Element},
      deleteAt path depth e = .ok e' → prune path e = e'
  | [], _, _, _, h => by
    change Except.ok _ = Except.ok _ at h
    cases h
    rfl
  | [part], depth, e, e', h => by
    cases e with
    | scalar x => simp at h
    | dict entries =>
      by_cases hc : Entries.contains part entries = true
      · simp only [deleteAt_single_dict, hc, if_true, Except.ok.injEq] at h
        simp [h]
      · simp [hc] at h
    | list items =>
      cases hi : indexOf? part with
      | none => simp [hi] at h
      | some i =>
        by_cases hlt : i < items.length
        · simp only [deleteAt_single_list, hi, hlt, if_true, Except.ok.injEq] at h
          simp [hi, h]
        · simp [hi, hlt] at h
  | part :: r :: rs, depth, e, e', h => by
    cases e with
    | scalar x => simp at h
    | dict entries =>
      cases hl : Entries.lookup part entries with
      | none => simp [hl] at h
      | some c =>
        simp only [deleteAt_cons_dict, hl] at h
        cases hd : deleteAt (r :: rs) (depth + 1) c with
        | error m => simp [hd, Except.map] at h
        | ok c' =>
          simp only [hd, Except.map, Except.ok.injEq] at h
          simp [hl, prune_of_deleteAt_ok hd, ← h]
    | list items =>
      cases hi : indexOf? part with
      | none => simp [hi] at h
      | some i =>
        cases hc : items[i]? with
        | none => simp [hi, hc] at h
        | some c =>
          simp only [deleteAt_cons_list, hi, hc] at h
          cases hd : deleteAt (r :: rs) (depth + 1) c with
          | error m => simp [hd, Except.map] at h
          | ok c' =>
            simp only [hd, Except.map, Except.ok.injEq] at h
            simp [hi, hc, prune_of_deleteAt_ok hd, ← h]

/-- A removal that fails leaves nothing to prune: the pruned tree is the tree. -/
theorem prune_of_deleteAt_error :
    ∀ {path : List String} {depth : Nat} {e : Element} {m : PathMiss},
      deleteAt path depth e = .error m → prune path e = e
  | [], _, _, _, h => by
    change Except.ok _ = Except.error _ at h
    cases h
  | [part], depth, e, m, h => by
    cases e with
    | scalar x => rfl
    | dict entries =>
      by_cases hc : Entries.contains part entries = true
      · simp [hc] at h
      · have hl : Entries.lookup part entries = none := by simpa [Entries.contains] using hc
        simp [Entries.erase_of_lookup_eq_none hl]
    | list items =>
      cases hi : indexOf? part with
      | none => simp [hi]
      | some i =>
        by_cases hlt : i < items.length
        · simp [hi, hlt] at h
        · simp [hi, List.eraseIdx_of_length_le (Nat.le_of_not_lt hlt)]
  | part :: r :: rs, depth, e, m, h => by
    cases e with
    | scalar x => rfl
    | dict entries =>
      cases hl : Entries.lookup part entries with
      | none => simp [hl]
      | some c =>
        simp only [deleteAt_cons_dict, hl] at h
        cases hd : deleteAt (r :: rs) (depth + 1) c with
        | ok c' => simp [hd, Except.map] at h
        | error m' => simp [hl, prune_of_deleteAt_error hd, Entries.insert_of_lookup hl]
    | list items =>
      cases hi : indexOf? part with
      | none => simp [hi]
      | some i =>
        cases hc : items[i]? with
        | none => simp [hi, hc]
        | some c =>
          simp only [deleteAt_cons_list, hi, hc] at h
          cases hd : deleteAt (r :: rs) (depth + 1) c with
          | ok c' => simp [hd, Except.map] at h
          | error m' => simp [hi, hc, prune_of_deleteAt_error hd, set_of_getElem? hc]

/-! ## Removals that commute -/

/-- Whether removals at the walks `p` and `q` commute on every tree: the walks part, and where
they do, one of the two parts can be no list index, or the two are indices of different items
and neither walk ends there. -/
def partsApart : List String → List String → Bool
  | a :: p, b :: q =>
    if a = b then partsApart p q
    else (indexOf? a).isNone || (indexOf? b).isNone ||
      (indexOf? a != indexOf? b && !p.isEmpty && !q.isEmpty)
  | _, _ => false

theorem ne_nil_of_partsApart {p q : List String} (h : partsApart p q = true) : p ≠ [] ∧ q ≠ [] := by
  cases p <;> cases q <;> simp_all [partsApart]

/-- Removals under two different keys of a dictionary commute. -/
theorem prune_comm_of_keys_ne {a b : String} (hab : a ≠ b) (p q : List String)
    (entries : List (String × Element)) :
    prune (b :: q) (prune (a :: p) (.dict entries)) =
      prune (a :: p) (prune (b :: q) (.dict entries)) := by
  have hba := Ne.symm hab
  cases p with
  | nil =>
    cases q with
    | nil => simp [Entries.erase_comm]
    | cons t ts =>
      cases hb : Entries.lookup b entries with
      | none => simp [hb, Entries.lookup_erase_ne _ hba]
      | some c => simp [hb, Entries.lookup_erase_ne _ hba, Entries.erase_insert_comm _ hab]
  | cons r rs =>
    cases q with
    | nil =>
      cases ha : Entries.lookup a entries with
      | none => simp [ha, Entries.lookup_erase_ne _ hab]
      | some c => simp [ha, Entries.lookup_erase_ne _ hab, Entries.erase_insert_comm _ hba]
    | cons t ts =>
      cases ha : Entries.lookup a entries <;> cases hb : Entries.lookup b entries <;>
        simp [ha, hb, Entries.lookup_insert_ne _ _ hab, Entries.lookup_insert_ne _ _ hba,
          Entries.insert_comm _ _ hab]

/-- Removals below two different items of a list commute when neither takes its item out. -/
theorem prune_comm_of_items_ne {a b : String} {i j : Nat} (ha : indexOf? a = some i)
    (hb : indexOf? b = some j) (hij : i ≠ j) (r t : String) (rs ts : List String)
    (items : List Element) :
    prune (b :: t :: ts) (prune (a :: r :: rs) (.list items)) =
      prune (a :: r :: rs) (prune (b :: t :: ts) (.list items)) := by
  cases hi : items[i]? <;> cases hj : items[j]? <;>
    simp [ha, hb, hi, hj, List.getElem?_set_ne hij, List.getElem?_set_ne (Ne.symm hij),
      List.set_comm _ _ hij]

/-- Removals at two walks that are apart commute, on every tree. -/
theorem prune_comm : ∀ (p q : List String) (e : Element), partsApart p q = true →
    prune q (prune p e) = prune p (prune q e)
  | [], _, _, h => by simp [partsApart] at h
  | _ :: _, [], _, h => by simp [partsApart] at h
  | a :: p, b :: q, e, h => by
    by_cases hab : a = b
    · -- the walks go on together, below the same entry
      subst hab
      rw [partsApart, if_pos rfl] at h
      obtain ⟨hp, hq⟩ := ne_nil_of_partsApart h
      obtain ⟨r, rs, rfl⟩ := List.exists_cons_of_ne_nil hp
      obtain ⟨t, ts, rfl⟩ := List.exists_cons_of_ne_nil hq
      cases e with
      | scalar x => simp
      | dict entries =>
        cases hl : Entries.lookup a entries with
        | none => simp [hl]
        | some c => simp [hl, prune_comm (r :: rs) (t :: ts) c h]
      | list items =>
        cases hi : indexOf? a with
        | none => simp [hi]
        | some i =>
          cases hc : items[i]? with
          | none => simp [hi, hc]
          | some c =>
            obtain ⟨hlt, rfl⟩ := List.getElem?_eq_some_iff.mp hc
            simp [hi, hlt, List.set_set, prune_comm (r :: rs) (t :: ts) items[i] h]
    · -- the walks part here
      rw [partsApart, if_neg hab] at h
      cases e with
      | scalar x => simp
      | dict entries => exact prune_comm_of_keys_ne hab p q entries
      | list items =>
        cases ha : indexOf? a with
        | none =>
          obtain ⟨l, hl⟩ := prune_list_is_list b q items
          rw [prune_list_of_index_none ha, hl, prune_list_of_index_none ha]
        | some i =>
          cases hb : indexOf? b with
          | none =>
            obtain ⟨l, hl⟩ := prune_list_is_list a p items
            rw [prune_list_of_index_none hb, hl, prune_list_of_index_none hb]
          | some j =>
            simp only [ha, hb, Option.isNone_some, Bool.false_or, Bool.and_eq_true, bne_iff_ne,
              ne_eq, Option.some.injEq, Bool.not_eq_true', List.isEmpty_eq_false_iff] at h
            obtain ⟨⟨hij, hp⟩, hq⟩ := h
            obtain ⟨r, rs, rfl⟩ := List.exists_cons_of_ne_nil hp
            obtain ⟨t, ts, rfl⟩ := List.exists_cons_of_ne_nil hq
            exact prune_comm_of_items_ne ha hb hij r t rs ts items

/-- The tree with the entries at `fields` taken out in turn, each from the tree as the removals
before it left it; a field that leads nowhere by then is passed over. -/
def pruneAll (fields : List FieldPath) (d : Element) : Element :=
  fields.foldl (fun d f => prune f.parts d) d

@[simp] theorem pruneAll_nil (d : Element) : pruneAll [] d = d := rfl

@[simp] theorem pruneAll_cons (f : FieldPath) (fields : List FieldPath) (d : Element) :
    pruneAll (f :: fields) d = pruneAll fields (prune f.parts d) := rfl

/-- Where the fields are pairwise apart, the order of the removals does not matter. -/
theorem pruneAll_perm {fields other : List FieldPath} (hperm : other.Perm fields)
    (hapart : ∀ p ∈ fields, ∀ q ∈ fields, p ≠ q → partsApart p.parts q.parts = true)
    (d : Element) : pruneAll other d = pruneAll fields d := by
  refine hperm.foldl_eq' (fun p hp q hq e => ?_) d
  by_cases hpq : p = q
  · subst hpq
    rfl
  · exact prune_comm p.parts q.parts e
      (hapart p (hperm.subset hp) q (hperm.subset hq) hpq)

end Element

/-! ## Runs of a loop -/

namespace Run

theorem bind_of_error {α β : Type} {x : Run α} {f : α → Run β} {s s' : Store} {e : Error}
    (h : x s = .error e s') : (x >>= f) s = .error e s' := by
  show EStateM.bind x f s = _
  simp [EStateM.bind, h]

theorem forM_cons_of_ok {α : Type} (body : α → Run PUnit) {x : α} {xs : List α} {s s' : Store}
    (h : body x s = .ok ⟨⟩ s') : (x :: xs).forM body s = xs.forM body s' :=
  Run.bind_of_ok h

theorem forM_cons_of_error {α : Type} {body : α → Run PUnit} {x : α} {xs : List α}
    {s s' : Store} {e : Error} (h : body x s = .error e s') :
    (x :: xs).forM body s = .error e s' :=
  bind_of_error h

/-- A loop whose every step succeeds on a store and leaves it as it was leaves it as it was. -/
theorem forM_of_all_ok {α : Type} {body : α → Run PUnit} {s : Store} :
    ∀ {xs : List α}, (∀ x ∈ xs, body x s = .ok ⟨⟩ s) → xs.forM body s = .ok ⟨⟩ s
  | [], _ => rfl
  | x :: xs, h => by
    rw [forM_cons_of_ok body (h x (by simp))]
    exact forM_of_all_ok fun y hy => h y (by simp [hy])

/-- A loop whose steps succeed on a store, leaving it as it was, until one fails, fails there. -/
theorem forM_of_error {α : Type} {body : α → Run PUnit} {s : Store} {e : Error} :
    ∀ (pre : List α) {x : α} {post : List α}, (∀ y ∈ pre, body y s = .ok ⟨⟩ s) →
      body x s = .error e s → (pre ++ x :: post).forM body s = .error e s
  | [], _, _, _, hx => forM_cons_of_error hx
  | y :: pre, _, _, h, hx => by
    rw [List.cons_append, forM_cons_of_ok body (h y (by simp))]
    exact forM_of_error pre (fun z hz => h z (by simp [hz])) hx

theorem erase_of_ok {p : FieldPath} {doc : Node} {s s' : Store} (h : s.delete p doc = .ok s') :
    Run.erase p doc s = .ok () s' := by
  delta Run.erase
  rw [Run.bind_of_ok (rfl : (get : Run Store) s = .ok s s), h]
  rfl

theorem erase_of_error {p : FieldPath} {doc : Node} {s : Store} {m : PathMiss}
    (h : s.delete p doc = .error m) : Run.erase p doc s = .error (p.missing m) s := by
  delta Run.erase
  rw [Run.bind_of_ok (rfl : (get : Run Store) s = .ok s s), h]
  rfl

/-- A removal whose failure is caught: the store after it, or the store as it was. -/
theorem tryErase_of_ok {p : FieldPath} {doc : Node} {s s' : Store} (h : s.delete p doc = .ok s') :
    (tryCatch (Run.erase p doc) fun _ => pure () : Run Unit) s = .ok () s' :=
  Processor.tryCatch_of_ok (erase_of_ok h)

theorem tryErase_of_error {p : FieldPath} {doc : Node} {s : Store} {m : PathMiss}
    (h : s.delete p doc = .error m) :
    (tryCatch (Run.erase p doc) fun _ => pure () : Run Unit) s = .ok () s :=
  Processor.tryCatch_of_error (erase_of_error h)

end Run

/-! ## The remove processor on a document that is a tree -/

namespace Store

variable {s : Store} {d : Element} {doc : Node} {cells : List Nat}

theorem Holds.get_ok (h : Holds s d doc cells) {p : FieldPath} {x : Element}
    (hx : d.get p = .ok x) : ∃ n, s.get p doc = .ok n := by
  obtain ⟨n, -, -, hn, -⟩ := Holds.focus p.parts 0 h hx
  exact ⟨n, hn⟩

theorem Holds.get_error (h : Holds s d doc cells) {p : FieldPath} {m : PathMiss}
    (hm : d.get p = .error m) : s.get p doc = .error m :=
  Holds.getAt_error p.parts 0 h hm

/-- Removing a field from a document that is a tree removes it from the tree, and leaves a tree;
where the removal fails, there was nothing to remove. -/
theorem Holds.delete (h : Holds s d doc cells) (hcells : cells.Nodup) (f : FieldPath) :
    (∃ s' cells', s.delete f doc = .ok s' ∧ Holds s' (Element.prune f.parts d) doc cells' ∧
      cells'.Nodup) ∨
    (∃ m, s.delete f doc = .error m ∧ Element.prune f.parts d = d) := by
  have hone := List.nodup_iff_count.1 hcells
  cases hd : Element.deleteAt f.parts 0 d with
  | error m => exact .inr ⟨m, h.deleteAt_error hd, Element.prune_of_deleteAt_error hd⟩
  | ok d' =>
    have hd' := hd
    rw [← f.dropLast_append_last] at hd'
    obtain ⟨s', cells', hs', h', hcount, -⟩ := h.deleteAt hd' fun i _ => hone i
    refine .inl ⟨s', cells', ?_, ?_,
      List.nodup_iff_count.2 fun j => Nat.le_trans (hcount j) (hone j)⟩
    · rw [Store.delete, ← f.dropLast_append_last]
      exact hs'
    · rw [Element.prune_of_deleteAt_ok hd]
      exact h'

/-- The removal loop of a remove processor on a document that is a tree: each field is removed in
turn from the tree as the removals before it left it, one that is missing by then is passed
over, and the document stays a tree. -/
theorem removeEach_holds (doc : Node) :
    ∀ (fields : List FieldPath) {s : Store} {d : Element} {cells : List Nat},
      Holds s d doc cells → cells.Nodup →
        ∃ s' cells',
          fields.forM (fun f => tryCatch (Run.erase f doc) fun _ => pure ()) s = .ok () s' ∧
          Holds s' (Element.pruneAll fields d) doc cells' ∧ cells'.Nodup
  | [], s, _, cells, h, hcells => ⟨s, cells, rfl, h, hcells⟩
  | f :: fields, s, d, cells, h, hcells => by
    rcases h.delete hcells f with ⟨s₁, cells₁, hdel, h₁, hcells₁⟩ | ⟨m, hdel, hprune⟩
    · obtain ⟨s', cells', hrun, h', hcells'⟩ := removeEach_holds doc fields h₁ hcells₁
      refine ⟨s', cells', ?_, h', hcells'⟩
      exact (Run.forM_cons_of_ok (fun f => tryCatch (Run.erase f doc) fun _ => pure ())
        (Run.tryErase_of_ok hdel)).trans hrun
    · obtain ⟨s', cells', hrun, h', hcells'⟩ := removeEach_holds doc fields h hcells
      refine ⟨s', cells', ?_, by rwa [Element.pruneAll_cons, hprune], hcells'⟩
      exact (Run.forM_cons_of_ok (fun f => tryCatch (Run.erase f doc) fun _ => pure ())
        (Run.tryErase_of_error hdel)).trans hrun

/-- A remove processor that does not ignore missing fields fails at the first field missing from
a document that is a tree, naming it, before anything has changed. -/
theorem apply_remove_of_missing (h : Holds s d doc cells) {pre post : List FieldPath}
    {f : FieldPath} {m : PathMiss} (hpre : ∀ g ∈ pre, ∃ x, d.get g = .ok x)
    (hf : d.get f = .error m) :
    (Action.remove (pre ++ f :: post) false).apply doc s =
      .error (.nothingToRemove (f.prefixText m.depth)) s := by
  delta Action.apply
  dsimp only
  refine Run.bind_of_error (Run.forM_of_error pre ?_ ?_)
  · -- the fields before are there: their checks pass
    intro g hg
    obtain ⟨x, hx⟩ := hpre g hg
    obtain ⟨n, hn⟩ := h.get_ok hx
    rw [Run.bind_of_ok (Run.find_eq g doc s), hn]
    rfl
  · rw [Run.bind_of_ok (Run.find_eq f doc s), h.get_error hf]
    rfl

/-- A remove processor on a document that is a tree, with every field there or missing fields
ignored: the fields are removed in turn, each from the tree as the removals before it left it,
and the document stays a tree. -/
theorem apply_remove_of_present (h : Holds s d doc cells) (hcells : cells.Nodup)
    {fields : List FieldPath} {ignoreMissing : Bool}
    (hall : ignoreMissing = true ∨ ∀ g ∈ fields, ∃ x, d.get g = .ok x) :
    ∃ s' cells', (Action.remove fields ignoreMissing).apply doc s = .ok () s' ∧
      Holds s' (Element.pruneAll fields d) doc cells' ∧ cells'.Nodup := by
  obtain ⟨s', cells', hrun, h', hcells'⟩ := removeEach_holds doc fields h hcells
  refine ⟨s', cells', ?_, h', hcells'⟩
  delta Action.apply
  dsimp only
  rcases hall with rfl | hall
  · exact hrun
  · cases ignoreMissing
    · -- every check passes and leaves the store as it was
      refine (Run.bind_of_ok (Run.forM_of_all_ok ?_)).trans hrun
      intro g hg
      obtain ⟨x, hx⟩ := hall g hg
      obtain ⟨n, hn⟩ := h.get_ok hx
      rw [Run.bind_of_ok (Run.find_eq g doc s), hn]
      rfl
    · exact hrun

/-- A remove processor on a document that is a tree in the store. Unless missing fields are
ignored, a field missing from the document fails the processor, naming the first such field,
before anything has changed; with every field there, or with missing fields ignored, the
processor removes the fields in turn, each from the tree as the removals before it left it, and
the document stays a tree. Where the fields are pairwise apart, their order does not change the
result. -/
theorem remove_fields_all_or_nothing (h : Holds s d doc cells) (hcells : cells.Nodup)
    (fields : List FieldPath) :
    (∀ pre f post m, fields = pre ++ f :: post → (∀ g ∈ pre, ∃ x, d.get g = .ok x) →
      d.get f = .error m →
        (Action.remove fields false).apply doc s =
          .error (.nothingToRemove (f.prefixText m.depth)) s) ∧
    (∀ ignoreMissing, (ignoreMissing = true ∨ ∀ g ∈ fields, ∃ x, d.get g = .ok x) →
      ∃ s' cells', (Action.remove fields ignoreMissing).apply doc s = .ok () s' ∧
        Holds s' (Element.pruneAll fields d) doc cells' ∧ cells'.Nodup) ∧
    (∀ other : List FieldPath, other.Perm fields →
      (∀ p ∈ fields, ∀ q ∈ fields, p ≠ q → Element.partsApart p.parts q.parts = true) →
        Element.pruneAll other d = Element.pruneAll fields d) := by
  refine ⟨?_, fun _ hall => apply_remove_of_present h hcells hall,
    fun _ hperm hapart => Element.pruneAll_perm hperm hapart d⟩
  rintro pre f post m rfl hpre hf
  exact apply_remove_of_missing h hpre hf

end Store

/-- The remove processor on the document `{"a": {"x": 1}, "b": 2}` as put into an empty store,
removing `a.x` and `b`: it succeeds, and the document left is the tree without them. -/
theorem remove_fields_from_installed_tree :
    ∃ s' cells',
      (Action.remove [⟨["a", "x"], by simp, by simp [isPathPart]⟩,
          ⟨["b"], by simp, by simp [isPathPart]⟩] false).apply
        (Store.empty.install (.dict [("a", .dict [("x", .scalar (.int 1))]),
          ("b", .scalar (.int 2))])).1
        (Store.empty.install (.dict [("a", .dict [("x", .scalar (.int 1))]),
          ("b", .scalar (.int 2))])).2 = .ok () s' ∧
      Store.Holds s' (Element.pruneAll [⟨["a", "x"], by simp, by simp [isPathPart]⟩,
          ⟨["b"], by simp, by simp [isPathPart]⟩]
        (.dict [("a", .dict [("x", .scalar (.int 1))]), ("b", .scalar (.int 2))]))
        (Store.empty.install (.dict [("a", .dict [("x", .scalar (.int 1))]),
          ("b", .scalar (.int 2))])).1 cells' := by
  obtain ⟨-, cells, h, hcells, -⟩ := Store.install_holds
    (.dict [("a", .dict [("x", .scalar (.int 1))]), ("b", .scalar (.int 2))]) Store.empty
  obtain ⟨s', cells', hrun, h', -⟩ :=
    (Store.remove_fields_all_or_nothing h hcells [⟨["a", "x"], by simp, by simp [isPathPart]⟩,
      ⟨["b"], by simp, by simp [isPathPart]⟩]).2.1 false (.inr fun g hg => by
        simp only [List.mem_cons, List.not_mem_nil, or_false] at hg
        rcases hg with rfl | rfl <;> exact ⟨_, rfl⟩)
  exact ⟨s', cells', hrun, h'⟩

/-- Removing two items of one list depends on the order of the fields. From
`{"a": [1, 2, 3]}`, removing `a.0` then `a.1`, the order the processor is built with, leaves
`{"a": [2]}`; the other order leaves `{"a": [3]}`, which is what taking both items out at once
leaves. The two fields are not apart. -/
theorem remove_list_items_depends_on_order :
    (∃ s', (Action.remove [⟨["a", "0"], by simp, by simp [isPathPart]⟩,
          ⟨["a", "1"], by simp, by simp [isPathPart]⟩] false).apply
        (Store.empty.install (.dict [("a", .list [.scalar (.int 1), .scalar (.int 2),
          .scalar (.int 3)])])).1
        (Store.empty.install (.dict [("a", .list [.scalar (.int 1), .scalar (.int 2),
          .scalar (.int 3)])])).2 = .ok () s' ∧
      s'.view (Store.empty.install (.dict [("a", .list [.scalar (.int 1), .scalar (.int 2),
          .scalar (.int 3)])])).1 =
        (Element.dict [("a", .list [.scalar (.int 2)])]).toSnapshot) ∧
    (∃ s', (Action.remove [⟨["a", "1"], by simp, by simp [isPathPart]⟩,
          ⟨["a", "0"], by simp, by simp [isPathPart]⟩] false).apply
        (Store.empty.install (.dict [("a", .list [.scalar (.int 1), .scalar (.int 2),
          .scalar (.int 3)])])).1
        (Store.empty.install (.dict [("a", .list [.scalar (.int 1), .scalar (.int 2),
          .scalar (.int 3)])])).2 = .ok () s' ∧
      s'.view (Store.empty.install (.dict [("a", .list [.scalar (.int 1), .scalar (.int 2),
          .scalar (.int 3)])])).1 =
        (Element.dict [("a", .list [.scalar (.int 3)])]).toSnapshot) ∧
    Element.partsApart ["a", "0"] ["a", "1"] = false :=
  ⟨⟨_, rfl, rfl⟩, ⟨_, rfl, rfl⟩, by decide⟩

end Ingest
