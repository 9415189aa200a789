import Ingest.Proofs.ProcessResult
import Ingest.Proofs.Validation

/-!
# Appending values that are not there yet

An append processor that does not allow duplicates goes through its values in order and adds
each at the end of the list, unless the list holds a value equal to it by then; so a value equal
to one added before it is passed over too. On lists this is `appendAbsent`, under the equality of
values of `Document.Compare`, where numbers are equal across kinds (`True = 1 = 1.0`) and a
container equals itself.

The list changes in place, and equality reads the store, so the later tests of the run read a
store that the run has changed. On a document that is a tree, with values apart from it, this
does not matter: comparing two trees reads their containers and no other
(`Store.Holds.equalOf_frame`), and the run writes only the list's own container, which neither
holds. The run is then `appendAbsent` under the equality of the store it starts from.

The main statement is `Store.append_absent_keeps_distinct`: the list keeps its items and gains
some of the values at its end, every value then equals an item, no item equals an item after it
where none did before, and the processor run a second time changes nothing. A NaN held by value
equals nothing, itself included, and would be added again; a NaN put into the store is a
container of its own and equals itself.
-/

namespace Ingest

/-! ## On lists -/

section AppendAbsent

variable {α : Type} (eq : α → α → Bool)

/-- `acc` with each of `vs` in turn added at its end, unless an item `eq` to it is there by
then. -/
def appendAbsent : List α → List α → List α
  | acc, [] => acc
  | acc, v :: vs => appendAbsent (if acc.any (eq · v) then acc else acc ++ [v]) vs

theorem appendAbsent_cons (acc : List α) (v : α) (vs : List α) :
    appendAbsent eq acc (v :: vs) =
      appendAbsent eq (if acc.any (eq · v) then acc else acc ++ [v]) vs := rfl

/-- The list keeps its items and gains some of the values at its end, in their order. -/
theorem exists_appendAbsent_eq :
    ∀ (acc vs : List α), ∃ added, appendAbsent eq acc vs = acc ++ added ∧ added.Sublist vs
  | acc, [] => ⟨[], by simp [appendAbsent], List.Sublist.slnil⟩
  | acc, v :: vs => by
    by_cases hv : acc.any (eq · v) = true
    · obtain ⟨added, h, hsub⟩ := exists_appendAbsent_eq acc vs
      exact ⟨added, by rw [appendAbsent_cons, if_pos hv, h], hsub.cons v⟩
    · obtain ⟨added, h, hsub⟩ := exists_appendAbsent_eq (acc ++ [v]) vs
      refine ⟨v :: added, ?_, hsub.cons_cons v⟩
      rw [appendAbsent_cons, if_neg hv, h, List.append_assoc, List.singleton_append]

/-- A value equal to an item stays so. -/
theorem any_appendAbsent_of_any {acc : List α} {x : α} (h : acc.any (eq · x) = true)
    (vs : List α) : (appendAbsent eq acc vs).any (eq · x) = true := by
  obtain ⟨added, hacc, -⟩ := exists_appendAbsent_eq eq acc vs
  rw [hacc, List.any_append, h, Bool.true_or]

/-- Every value that equals itself equals an item at the end. -/
theorem any_appendAbsent : ∀ {vs : List α}, (∀ v ∈ vs, eq v v = true) →
    ∀ (acc : List α), ∀ v ∈ vs, (appendAbsent eq acc vs).any (eq · v) = true
  | [], _, _, _, hv => by cases hv
  | w :: vs, hrefl, acc, v, hv => by
    rw [appendAbsent_cons]
    rcases List.mem_cons.1 hv with rfl | hv
    · -- the value itself: equal to an item already, or added
      apply any_appendAbsent_of_any
      by_cases hw : acc.any (eq · v) = true
      · rw [if_pos hw]
        exact hw
      · rw [if_neg hw, List.any_append]
        simp [hrefl v (List.mem_cons_self ..)]
    · exact any_appendAbsent (fun u hu => hrefl u (List.mem_cons_of_mem w hu)) _ v hv

/-- No item equals an item after it, if none did before. -/
theorem pairwise_appendAbsent : ∀ {acc : List α} (vs : List α),
    acc.Pairwise (fun a b => eq a b = false) →
      (appendAbsent eq acc vs).Pairwise (fun a b => eq a b = false)
  | _, [], h => h
  | acc, v :: vs, h => by
    rw [appendAbsent_cons]
    apply pairwise_appendAbsent
    by_cases hv : acc.any (eq · v) = true
    · rw [if_pos hv]
      exact h
    · -- a value is added only when no item equals it
      rw [if_neg hv, List.pairwise_append]
      refine ⟨h, List.pairwise_singleton _ v, fun a ha b hb => ?_⟩
      rw [List.mem_singleton.1 hb]
      simpa using List.any_eq_false.1 (Bool.eq_false_iff.2 hv) a ha

end AppendAbsent

/-! ## Equality of values -/

/-- A scalar other than a NaN equals itself. -/
theorem Scalar.equal_self {x : Scalar} (hx : ∀ f, x = .float f → f.isNaN = false) :
    x.equal x = true := by
  cases x with
  | bool b => cases b <;> rfl
  | float f => simp [Scalar.equal, Scalar.number?, Number.compare?, Binary64.compare?, hx f rfl]
  | ip a => cases a <;> simp [Scalar.equal, Scalar.number?]
  | _ => simp [Scalar.equal, Scalar.number?, Number.compare?]

namespace Store

variable {s : Store}

/-- A node equals itself, unless it is a NaN held by value. -/
theorem equal_self {v : Node} (hv : ∀ f, v = .scalar (.float f) → f.isNaN = false) :
    s.equal v v = true := by
  cases v with
  | scalar x => exact Scalar.equal_self fun f hf => hv f (by rw [hf])
  | ref i => simp [equal, equalOf]

/-- Two containers compare alike in two stores that read them alike and compare alike the
children that the comparison pairs up. -/
theorem equalOf_ref_congr {s' : Store} {fuel i j : Nat} (hi : s'.read? i = s.read? i)
    (hj : s'.read? j = s.read? j)
    (hlist : ∀ xs ys, s.read? i = some (.list xs) → s.read? j = some (.list ys) →
      ∀ p ∈ xs.zip ys, s'.equalOf fuel p.1 p.2 = s.equalOf fuel p.1 p.2)
    (hdict : ∀ xs ys, s.read? i = some (.dict xs) → s.read? j = some (.dict ys) →
      ∀ k x y, (k, x) ∈ xs → Entries.lookup k ys = some y →
        s'.equalOf fuel x y = s.equalOf fuel x y) :
    s'.equalOf (fuel + 1) (.ref i) (.ref j) = s.equalOf (fuel + 1) (.ref i) (.ref j) := by
  simp only [equalOf, hi, hj]
  rcases hci : s.read? i with _ | ⟨xs | xs | _⟩ <;>
    rcases hcj : s.read? j with _ | ⟨ys | ys | _⟩
  all_goals dsimp only
  · -- two lists: the items are compared pairwise
    congr 2
    rw [List.all_eq, List.all_eq, decide_eq_decide]
    exact forall₂_congr fun p hp => by rw [hlist xs ys hci hcj p hp]
  · -- two dictionaries: each entry of the first with the entry under its key in the second
    congr 2
    rw [List.all_eq, List.all_eq, decide_eq_decide]
    refine forall₂_congr fun p hp => ?_
    cases hl : Entries.lookup p.1 ys with
    | none => rfl
    | some y =>
      dsimp only
      rw [hdict xs ys hci hcj p.1 p.2 y hp hl]

/-- The entries of a dictionary hold trees in the dictionary's containers. -/
theorem HoldsEntries.holds_of_mem :
    ∀ {entries : List (String × Element)} {nodes : Entries Node} {cells : List Nat},
      HoldsEntries s entries nodes cells →
        ∀ p ∈ nodes, ∃ e c, Holds s e p.2 c ∧ ∀ j ∈ c, j ∈ cells
  | [], _, _, h, p, hp => by
    obtain ⟨rfl, -⟩ := h
    cases hp
  | (k, e) :: es, _, _, h, p, hp => by
    obtain ⟨m, ms, c, rest, rfl, hm, hms, rfl⟩ := h
    rcases List.mem_cons.1 hp with rfl | hp
    · exact ⟨e, c, hm, fun j hj => List.mem_append_left _ hj⟩
    · obtain ⟨e', c', he', hc'⟩ := hms.holds_of_mem p hp
      exact ⟨e', c', he', fun j hj => List.mem_append_right _ (hc' j hj)⟩

/-- A node that refers to a list container holds a list: the container is met first, then the
containers of the items. -/
theorem Holds.of_list {e : Element} {i : Nat} {cells : List Nat} (h : Holds s e (.ref i) cells)
    {xs : List Node} (hi : s.read? i = some (.list xs)) :
    ∃ items rest, e = .list items ∧ cells = i :: rest ∧ HoldsItems s items xs rest := by
  cases e with
  | scalar x =>
    rcases h with ⟨h, -⟩ | ⟨i', f, hi', hnan, -⟩
    · cases h
    · cases hi'
      rw [hi] at hnan
      cases hnan
  | list items =>
    obtain ⟨i', nodes, rest, hi', hnodes, hitems, rfl⟩ := h
    cases hi'
    rw [hi, Option.some.injEq, Cell.list.injEq] at hnodes
    subst hnodes
    exact ⟨items, rest, rfl, rfl, hitems⟩
  | dict entries =>
    obtain ⟨i', nodes, rest, hi', hnodes, -⟩ := h
    cases hi'
    rw [hi] at hnodes
    cases hnodes

/-- A node that refers to a dictionary container holds a dictionary: the container is met first,
then the containers of the entries. -/
theorem Holds.of_dict {e : Element} {i : Nat} {cells : List Nat} (h : Holds s e (.ref i) cells)
    {xs : Entries Node} (hi : s.read? i = some (.dict xs)) :
    ∃ entries rest, e = .dict entries ∧ cells = i :: rest ∧
      HoldsEntries s entries xs rest := by
  cases e with
  | scalar x =>
    rcases h with ⟨h, -⟩ | ⟨i', f, hi', hnan, -⟩
    · cases h
    · cases hi'
      rw [hi] at hnan
      cases hnan
  | list items =>
    obtain ⟨i', nodes, rest, hi', hnodes, -⟩ := h
    cases hi'
    rw [hi] at hnodes
    cases hnodes
  | dict entries =>
    obtain ⟨i', nodes, rest, hi', hnodes, hentries, rfl⟩ := h
    cases hi'
    rw [hi, Option.some.injEq, Cell.dict.injEq] at hnodes
    subst hnodes
    exact ⟨entries, rest, rfl, rfl, hentries⟩

/-- An item of a list container holds a tree within the containers of the list. -/
theorem Holds.holds_of_item {e : Element} {i : Nat} {cells : List Nat}
    (h : Holds s e (.ref i) cells) {xs : List Node} (hi : s.read? i = some (.list xs))
    {x : Node} (hx : x ∈ xs) : ∃ e' c, Holds s e' x c ∧ ∀ j ∈ c, j ∈ cells := by
  obtain ⟨items, rest, -, rfl, hitems⟩ := h.of_list hi
  obtain ⟨e', c, he', hc⟩ := hitems.holds_of_mem x hx
  exact ⟨e', c, he', fun j hj => List.mem_cons_of_mem i (hc j hj)⟩

/-- A value of a dictionary container holds a tree within the containers of the dictionary. -/
theorem Holds.holds_of_entry {e : Element} {i : Nat} {cells : List Nat}
    (h : Holds s e (.ref i) cells) {xs : Entries Node} (hi : s.read? i = some (.dict xs))
    {p : String × Node} (hp : p ∈ xs) :
    ∃ e' c, Holds s e' p.2 c ∧ ∀ j ∈ c, j ∈ cells := by
  obtain ⟨entries, rest, -, rfl, hentries⟩ := h.of_dict hi
  obtain ⟨e', c, he', hc⟩ := hentries.holds_of_mem p hp
  exact ⟨e', c, he', fun j hj => List.mem_cons_of_mem i (hc j hj)⟩

/-- Comparing two nodes that hold trees reads the containers of the two trees and no other. -/
theorem Holds.equalOf_frame {s' : Store} : ∀ (fuel : Nat) {a b : Node} {ea eb : Element}
    {ca cb : List Nat}, Holds s ea a ca → Holds s eb b cb →
      (∀ j ∈ ca ++ cb, s'.read? j = s.read? j) → s'.equalOf fuel a b = s.equalOf fuel a b
  | 0, _, _, _, _, _, _, _, _, _ => rfl
  | fuel + 1, .scalar _, .scalar _, _, _, _, _, _, _, _ => rfl
  | fuel + 1, .scalar _, .ref _, _, _, _, _, _, _, _ => rfl
  | fuel + 1, .ref _, .scalar _, _, _, _, _, _, _, _ => rfl
  | fuel + 1, .ref i, .ref j, _, _, ca, cb, ha, hb, hs => by
    have hca : ∀ {c : List Nat}, (∀ k ∈ c, k ∈ ca) → ∀ k ∈ c, k ∈ ca ++ cb :=
      fun hc k hk => List.mem_append_left _ (hc k hk)
    have hcb : ∀ {c : List Nat}, (∀ k ∈ c, k ∈ cb) → ∀ k ∈ c, k ∈ ca ++ cb :=
      fun hc k hk => List.mem_append_right _ (hc k hk)
    refine equalOf_ref_congr (hs i (List.mem_append_left _ ha.mem_of_ref))
      (hs j (List.mem_append_right _ hb.mem_of_ref)) ?_ ?_
    · -- paired items hold trees within the containers of the two lists
      intro xs ys hxs hys p hp
      obtain ⟨ex, cx, hx, hcx⟩ := ha.holds_of_item hxs (List.of_mem_zip hp).1
      obtain ⟨ey, cy, hy, hcy⟩ := hb.holds_of_item hys (List.of_mem_zip hp).2
      exact Holds.equalOf_frame fuel hx hy fun k hk =>
        hs k ((List.mem_append.1 hk).elim (hca hcx k) (hcb hcy k))
    · intro xs ys hxs hys k x y hx hy
      obtain ⟨ex, cx, hex, hcx⟩ := ha.holds_of_entry hxs hx
      obtain ⟨ey, cy, hey, hcy⟩ := hb.holds_of_entry hys (Entries.mem_of_lookup_eq_some hy)
      exact Holds.equalOf_frame fuel hex hey fun k hk =>
        hs k ((List.mem_append.1 hk).elim (hca hcx k) (hcb hcy k))

/-! ## A store changed in one container -/

/-- `t` has the containers of `s`, all as they were but container `i`. -/
def AgreeOutside (s : Store) (i : Nat) (t : Store) : Prop :=
  t.cells.size = s.cells.size ∧ ∀ j, j ≠ i → t.read? j = s.read? j

/-- Node `n` holds a tree of `s` in which container `i` is not met. -/
def HoldsApart (s : Store) (i : Nat) (n : Node) : Prop :=
  ∃ e c, Holds s e n c ∧ i ∉ c

theorem AgreeOutside.refl (s : Store) (i : Nat) : AgreeOutside s i s := ⟨rfl, fun _ _ => rfl⟩

theorem AgreeOutside.write {i : Nat} {t : Store} (ht : AgreeOutside s i t) (c : Cell) :
    AgreeOutside s i (t.write i c) :=
  ⟨by rw [size_write, ht.1], fun j hj => (read?_write_ne t c (Ne.symm hj)).trans (ht.2 j hj)⟩

/-- Nodes that hold trees in containers other than `i` hold trees apart from it. -/
theorem HoldsItems.apart {items : List Element} {nodes : List Node} {cells : List Nat}
    (h : HoldsItems s items nodes cells) {i : Nat} (hi : i ∉ cells) :
    ∀ n ∈ nodes, HoldsApart s i n := by
  intro n hn
  obtain ⟨e, c, he, hc⟩ := h.holds_of_mem n hn
  exact ⟨e, c, he, fun hic => hi (hc i hic)⟩

/-- Nodes apart from the container changed compare as they did. -/
theorem AgreeOutside.equal_eq {i : Nat} {t : Store} (ht : AgreeOutside s i t) {a b : Node}
    (ha : HoldsApart s i a) (hb : HoldsApart s i b) : t.equal a b = s.equal a b := by
  obtain ⟨ea, ca, ha, hia⟩ := ha
  obtain ⟨eb, cb, hb, hib⟩ := hb
  rw [equal, equal, ht.1]
  refine ha.equalOf_frame _ hb fun j hj => ht.2 j ?_
  rintro rfl
  exact (List.mem_append.1 hj).elim hia hib

theorem AgreeOutside.mem_eq {i : Nat} {t : Store} (ht : AgreeOutside s i t) {v : Node}
    {acc : List Node} (hv : HoldsApart s i v) (hacc : ∀ x ∈ acc, HoldsApart s i x) :
    t.mem v acc = s.mem v acc := by
  rw [mem, mem, List.any_eq, List.any_eq, decide_eq_decide]
  exact exists_congr fun x => and_congr_right fun hx => by rw [ht.equal_eq (hacc x hx) hv]

/-- A read through the store that finds container `i` finds it again in a store changed only
there, if the document is a tree: the containers it passes on the way are others. -/
theorem Holds.get_of_agreeOutside {d : Element} {doc : Node} {cells : List Nat}
    (h : Holds s d doc cells) (hnd : cells.Nodup) {p : FieldPath} {i : Nat}
    (hp : s.get p doc = .ok (.ref i)) {t : Store} (ht : AgreeOutside s i t) :
    t.get p doc = .ok (.ref i) := by
  obtain ⟨x, c, -, hx⟩ := h.holds_of_getAt hp
  rw [get, getAt_congr p.parts 0 doc fun k hk j hj => ht.2 j ?_]
  · exact hp
  rintro rfl
  exact h.not_mem_of_passed hp hx hk hj (List.nodup_iff_count.1 hnd j) hx.mem_of_ref

end Store

/-! ## The processor -/

theorem Run.read_of_ok {p : FieldPath} {doc n : Node} {s : Store} (h : s.get p doc = .ok n) :
    Run.read p doc s = .ok n s := by
  delta Run.read
  rw [Run.bind_of_ok (rfl : (get : Run Store) s = .ok s s), h]
  rfl

namespace Store

variable {s : Store}

theorem items?_of_list {i : Nat} {acc : List Node} (h : s.read? i = some (.list acc)) :
    s.items? (.ref i) = some acc := by
  simp [items?, h]

theorem items?_eq_some {n : Node} {acc : List Node} (h : s.items? n = some acc) :
    ∃ i, n = .ref i ∧ s.read? i = some (.list acc) := by
  rcases hcell : s.cellOf? n with _ | ⟨i, items | entries | _⟩ <;> simp [items?, hcell] at h
  obtain ⟨rfl, hi⟩ := cellOf?_eq_some hcell
  exact ⟨i, rfl, by rw [hi, h]⟩

theorem extend_of_list {i : Nat} {acc : List Node} (h : s.read? i = some (.list acc))
    (vs : List Node) : s.extend (.ref i) vs = s.write i (.list (acc ++ vs)) := by
  simp [extend, h]

end Store

namespace Action

/-- One step of the loop: the value is added at the end of the list unless it is there. -/
theorem appendNew_eq {s : Store} {i : Nat} {acc : List Node} (h : s.read? i = some (.list acc))
    (v : Node) :
    Action.appendNew (.ref i) v s =
      .ok () (if s.mem v acc then s else s.write i (.list (acc ++ [v]))) := by
  delta Action.appendNew
  rw [Run.bind_of_ok (rfl : (get : Run Store) s = .ok s s), Store.items?_of_list h]
  dsimp only
  by_cases hv : s.mem v acc = true
  · rw [if_pos hv, if_pos hv]
    rfl
  · rw [if_neg hv, if_neg hv, ← Store.extend_of_list h]
    rfl

/-- The append processor without duplicates, on a list that its field reads, is its loop over
the values. -/
theorem apply_append_distinct {s : Store} {field : FieldPath} {vals : List Node} {doc : Node}
    {i : Nat} {nodes : List Node} (hm : s.get field doc = .ok (.ref i))
    (hi : s.read? i = some (.list nodes)) :
    (Action.append field vals false).apply doc s = vals.forM (appendNew (.ref i)) s := by
  delta Action.apply
  dsimp only
  rw [Run.bind_of_ok (Run.read_of_ok hm), Run.bind_of_ok (rfl : (get : Run Store) s = .ok s s),
    Store.items?_of_list hi]
  rfl

end Action

namespace Store

variable {s : Store}

/-- The loop of the processor over its values, from a store changed at most in the list's own
container, on nodes that hold trees apart from that container: the list ends as
`appendAbsent` under the equality of `s`, and nothing else changes. -/
theorem forM_appendNew {i : Nat} (hi : i < s.cells.size) : ∀ {t : Store} {acc : List Node}
    (vs : List Node), AgreeOutside s i t → t.read? i = some (.list acc) →
      (∀ x ∈ acc, HoldsApart s i x) → (∀ x ∈ vs, HoldsApart s i x) →
      ∃ t', vs.forM (Action.appendNew (.ref i)) t = .ok () t' ∧ AgreeOutside s i t' ∧
        t'.read? i = some (.list (appendAbsent s.equal acc vs))
  | t, _, [], ht, hacc, _, _ => ⟨t, rfl, ht, hacc⟩
  | t, acc, v :: vs, ht, hacc, hacc', hvs => by
    have hv : HoldsApart s i v := hvs v (List.mem_cons_self ..)
    have hrest : ∀ x ∈ vs, HoldsApart s i x := fun x hx => hvs x (List.mem_cons_of_mem v hx)
    have hmem : t.mem v acc = acc.any (s.equal · v) := ht.mem_eq hv hacc'
    rw [Run.forM_cons_of_ok _ (Action.appendNew_eq hacc v), appendAbsent_cons, hmem]
    by_cases hin : acc.any (s.equal · v) = true
    · rw [if_pos hin, if_pos hin]
      exact forM_appendNew hi vs ht hacc hacc' hrest
    · -- the value is added: the list's container now holds it at the end
      rw [if_neg hin, if_neg hin]
      refine forM_appendNew hi vs (ht.write _) (read?_write_self t _ (ht.1 ▸ hi)) ?_ hrest
      intro x hx
      rcases List.mem_append.1 hx with hx | hx
      · exact hacc' x hx
      · rw [List.mem_singleton.1 hx]
        exact hv

variable {d : Element} {doc : Node} {cells : List Nat}

/-- In a document that is a tree, a list found at a path is a container met once: the trees its
items hold are apart from it. -/
theorem Holds.items_apart_of_get (h : Holds s d doc cells) (hnd : cells.Nodup) {p : FieldPath}
    {i : Nat} {nodes : List Node} (hl : s.get p doc = .ok (.ref i))
    (hi : s.read? i = some (.list nodes)) : ∀ n ∈ nodes, HoldsApart s i n := by
  obtain ⟨x, c, -, hx⟩ := h.holds_of_getAt hl
  obtain ⟨items, rest, -, rfl, hxs⟩ := hx.of_list hi
  -- the list's containers are among the document's, so each is met once
  have hone : (i :: rest).Nodup := List.nodup_iff_count.2 fun j =>
    Nat.le_trans (h.count_le_of_getAt hl hx j) (List.nodup_iff_count.1 hnd j)
  exact hxs.apart (List.nodup_cons.1 hone).1

/-- The append processor without duplicates, on a document that is a tree whose field holds a
list in which no item equals an item after it, with values that hold trees apart from the
document and from each other, none of them a NaN held by value. The processor succeeds: the list
keeps its items and gains some of the values at its end, in their order, and no other container
changes; every value then equals an item of the list, and still no item equals an item after it.
Run a second time, the processor changes nothing. -/
theorem append_absent_keeps_distinct (h : Holds s d doc cells) {values : List Element}
    {vals : List Node} {cv : List Nat} (hv : HoldsItems s values vals cv)
    (hnd : (cells ++ cv).Nodup) (hnan : ∀ f, .scalar (.float f) ∈ vals → f.isNaN = false)
    {field : FieldPath} {l : Node} {nodes : List Node} (hl : s.get field doc = .ok l)
    (hitems : s.items? l = some nodes)
    (hdistinct : nodes.Pairwise fun a b => s.equal a b = false) :
    ∃ s' added, (Action.append field vals false).apply doc s = .ok () s' ∧
      s'.get field doc = .ok l ∧ s'.items? l = some (nodes ++ added) ∧ added.Sublist vals ∧
      (∀ j, l ≠ .ref j → s'.read? j = s.read? j) ∧
      (∀ v ∈ vals, s'.mem v (nodes ++ added) = true) ∧
      (nodes ++ added).Pairwise (fun a b => s'.equal a b = false) ∧
      (Action.append field vals false).apply doc s' = .ok () s' := by
  obtain ⟨i, rfl, hi⟩ := items?_eq_some hitems
  have hcells : cells.Nodup := (List.nodup_append.1 hnd).1
  -- the list's container is met in no item, and, being the document's, in no value
  have hnodes := h.items_apart_of_get hcells hl hi
  have hvals := hv.apart fun hin => (List.nodup_append.1 hnd).2.2 i (h.mem_of_getAt hl) i hin rfl
  obtain ⟨t, hrun, ht, hread⟩ :=
    forM_appendNew (read?_lt hi) vals (AgreeOutside.refl s i) hi hnodes hvals
  obtain ⟨added, hadded, hsub⟩ := exists_appendAbsent_eq s.equal nodes vals
  rw [hadded] at hread
  have hfinal : ∀ n ∈ nodes ++ added, HoldsApart s i n := fun n hn =>
    (List.mem_append.1 hn).elim (hnodes n) fun hadd => hvals n (hsub.subset hadd)
  have hget : t.get field doc = .ok (.ref i) := h.get_of_agreeOutside hcells hl ht
  -- no value is a NaN held by value, so each equals itself, hence an item, in `t` as in `s`
  have hrefl : ∀ v ∈ vals, s.equal v v = true := fun v hvv =>
    equal_self fun f hf => hnan f (hf ▸ hvv)
  have hmem : ∀ v ∈ vals, t.mem v (nodes ++ added) = true := by
    intro v hvv
    rw [ht.mem_eq (hvals v hvv) hfinal, mem, ← hadded]
    exact any_appendAbsent s.equal hrefl nodes v hvv
  refine ⟨t, added, ?_, hget, items?_of_list hread, hsub,
    fun j hj => ht.2 j fun hji => hj (by rw [hji]), hmem, ?_, ?_⟩
  · rw [Action.apply_append_distinct hl hi]
    exact hrun
  · -- no item equals an item after it, in `t` as in `s`
    have hpair := pairwise_appendAbsent s.equal vals hdistinct
    rw [hadded] at hpair
    exact hpair.imp_of_mem fun ha hb hab => by
      rw [ht.equal_eq (hfinal _ ha) (hfinal _ hb)]
      exact hab
  · -- a second run finds every value in the list
    rw [Action.apply_append_distinct hget hread]
    exact Run.forM_of_all_ok fun v hvv => by rw [Action.appendNew_eq hread, if_pos (hmem v hvv)]

end Store

/-- The append processor without duplicates, with values `3`, `2.0`, `True` and `3`, on the list
of `{"a": [1, 2]}`, the document put into an empty store and the values after it. The list is
container 0 of the store; it keeps `1` and `2` and gains some of the values, every value then
equals one of its items, and a second run changes nothing. -/
theorem append_absent_to_installed_list :
    ∃ s' added,
      (Action.append ⟨["a"], by simp, by simp [isPathPart]⟩
          (Store.installItems [.scalar (.int 3), .scalar (.float (Binary64.ofInt 2)),
              .scalar (.bool true), .scalar (.int 3)]
            (Store.empty.install (.dict [("a", .list [.scalar (.int 1), .scalar (.int 2)])])).2).1
          false).apply
        (Store.empty.install (.dict [("a", .list [.scalar (.int 1), .scalar (.int 2)])])).1
        (Store.installItems [.scalar (.int 3), .scalar (.float (Binary64.ofInt 2)),
            .scalar (.bool true), .scalar (.int 3)]
          (Store.empty.install (.dict [("a", .list [.scalar (.int 1), .scalar (.int 2)])])).2).2 =
        .ok () s' ∧
      s'.items? (.ref 0) = some ([.scalar (.int 1), .scalar (.int 2)] ++ added) ∧
      (∀ v ∈ (Store.installItems [.scalar (.int 3), .scalar (.float (Binary64.ofInt 2)),
              .scalar (.bool true), .scalar (.int 3)]
            (Store.empty.install (.dict [("a", .list [.scalar (.int 1), .scalar (.int 2)])])).2).1,
        s'.mem v ([.scalar (.int 1), .scalar (.int 2)] ++ added) = true) ∧
      (Action.append ⟨["a"], by simp, by simp [isPathPart]⟩
          (Store.installItems [.scalar (.int 3), .scalar (.float (Binary64.ofInt 2)),
              .scalar (.bool true), .scalar (.int 3)]
            (Store.empty.install (.dict [("a", .list [.scalar (.int 1), .scalar (.int 2)])])).2).1
          false).apply
        (Store.empty.install (.dict [("a", .list [.scalar (.int 1), .scalar (.int 2)])])).1 s' =
        .ok () s' := by
  obtain ⟨-, cells, h, hcells, -⟩ := Store.install_holds
    (.dict [("a", .list [.scalar (.int 1), .scalar (.int 2)])]) Store.empty
  obtain ⟨hext, cv, hv, hcv, hge⟩ := Store.installItems_holds
    [.scalar (.int 3), .scalar (.float (Binary64.ofInt 2)), .scalar (.bool true), .scalar (.int 3)]
    (Store.empty.install (.dict [("a", .list [.scalar (.int 1), .scalar (.int 2)])])).2
  -- the values are put into the store as scalars, none of them a NaN
  have hnan : ∀ f, Node.scalar (.float f) ∈ (Store.installItems [.scalar (.int 3),
      .scalar (.float (Binary64.ofInt 2)), .scalar (.bool true), .scalar (.int 3)]
        (Store.empty.install (.dict [("a", .list [.scalar (.int 1), .scalar (.int 2)])])).2).1 →
      f.isNaN = false := by
    intro f hf
    have hvals : (Store.installItems [.scalar (.int 3), .scalar (.float (Binary64.ofInt 2)),
        .scalar (.bool true), .scalar (.int 3)]
          (Store.empty.install (.dict [("a", .list [.scalar (.int 1), .scalar (.int 2)])])).2).1 =
        [.scalar (.int 3), .scalar (.float (Binary64.ofInt 2)), .scalar (.bool true),
          .scalar (.int 3)] := by decide
    rw [hvals] at hf
    simp only [List.mem_cons, Node.scalar.injEq, Scalar.float.injEq, reduceCtorEq, false_or,
      or_false, List.not_mem_nil] at hf
    rw [hf]
    decide
  obtain ⟨s', added, hrun, -, hitems, -, -, hmem, -, hagain⟩ :=
    Store.append_absent_keeps_distinct (h.extend hext) hv
      (Store.nodup_append_of_bound hcells hcv h.lt_size hge) hnan
      (show Store.get _ ⟨["a"], by simp, by simp [isPathPart]⟩ _ = .ok (.ref 0) from rfl)
      (show _ = some [.scalar (.int 1), .scalar (.int 2)] from rfl) (by decide)
  exact ⟨s', added, hrun, hitems, hmem, hagain⟩

end Ingest
