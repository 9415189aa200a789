import Ingest.Proofs.ProcessResult
import Ingest.Proofs.PathFrame

/-!
# Moving a value

A copy processor that removes its field, and a field processor with a target that removes its
field, move a value: they read the field, write the value (or what the action makes of it) at the
target, then remove the field. The steps change the store in place, one after the other, and
nothing is undone when a later one fails.

On a document that is a tree, with a field and a target that are apart (`Element.partsApart`: the
walks part at a dictionary, or below two different items of a list), a move is what its name
says. The store ends up holding the tree with the field removed and the value written at the
target (`Element.setAt` after `Element.prune`), and a write that fails leaves the store as it
was. The proof looks at the container where the two walks part (`Store.Holds.move_at`): the write
changes that container under the target's part only, and below it only containers on the
target's walk, all apart from the field's subtree, so the removal that follows finds the field
where it was.

Where the walks do not part that way, the move can lose the value. Copying `a` to `a.b` writes
the value into itself, and removing `a` then takes the target with it: from `{"a": {}}` the
processor leaves `{}`, where removing `a` and then setting `a.b` gives `{"a": {"b": {}}}`.
-/

namespace Ingest

namespace Element

/-! ## Walks that part -/

/-- Walks that are apart share a beginning, then go on under two different parts, of which one is
no list index, or both are indices of different items and neither walk ends there. -/
theorem exists_split_of_partsApart : ∀ {p q : List String}, partsApart p q = true →
    ∃ c a b p' q', p = c ++ a :: p' ∧ q = c ++ b :: q' ∧ a ≠ b ∧
      (indexOf? a = none ∨ indexOf? b = none ∨ (indexOf? a ≠ indexOf? b ∧ p' ≠ [] ∧ q' ≠ []))
  | [], _, h => by simp [partsApart] at h
  | _ :: _, [], h => by simp [partsApart] at h
  | a :: p, b :: q, h => by
    by_cases hab : a = b
    · subst hab
      rw [partsApart, if_pos rfl] at h
      obtain ⟨c, a', b', p', q', rfl, rfl, hne, hsep⟩ := exists_split_of_partsApart h
      exact ⟨a :: c, a', b', p', q', rfl, rfl, hne, hsep⟩
    · rw [partsApart, if_neg hab] at h
      refine ⟨[], a, b, p, q, rfl, rfl, hab, ?_⟩
      simpa [Option.isNone_iff_eq_none, and_assoc, or_assoc] using h

/-- A write under one part of a container leaves what is read under a part apart from it. -/
theorem getAt_setAt_of_parted (v : Element) (override : Bool) {a b : String}
    {p q : List String} {depth : Nat} {e e' : Element} (hab : a ≠ b)
    (hidx : indexOf? a = none ∨ indexOf? b = none ∨ indexOf? a ≠ indexOf? b)
    (h : setAt v override (b :: q) depth e = .ok e') :
    getAt (a :: p) depth e' = getAt (a :: p) depth e := by
  obtain ⟨w, ⟨entries, rfl, rfl⟩ | ⟨items, j, rfl, hj, rfl⟩⟩ := setAt_cons_frame v override h
  · simp [Entries.lookup_insert_ne w entries hab]
  · cases hi : indexOf? a with
    | none => simp [hi]
    | some i =>
      have hji : j ≠ i := fun hji => by simp [hi, hj, hji] at hidx
      simp [hi, List.getElem?_set_ne hji]

/-- A field that a read finds is removed, and what is left is the tree pruned of it. -/
theorem deleteAt_eq_prune_of_getAt {path : List String} {depth : Nat} {e x : Element}
    (h : getAt path depth e = .ok x) : deleteAt path depth e = .ok (prune path e) := by
  cases hd : deleteAt path depth e with
  | ok e' => rw [prune_of_deleteAt_ok hd]
  | error miss =>
    rw [deleteAt_error_iff, h] at hd
    cases hd

/-- At the container where two walks part, a write along one and a removal along the other
commute, where the removal has something to remove and takes no item out of a list. -/
theorem setAt_prune_of_parted (v : Element) {a b : String} {p q : List String} {depth : Nat}
    {e x : Element} (hab : a ≠ b)
    (hsep : indexOf? a = none ∨ indexOf? b = none ∨ (indexOf? a ≠ indexOf? b ∧ p ≠ []))
    (hx : getAt (a :: p) depth e = .ok x) :
    setAt v true (b :: q) depth (prune (a :: p) e) =
      (setAt v true (b :: q) depth e).map (prune (a :: p)) := by
  cases e with
  | scalar _ => simp at hx
  | dict entries =>
    obtain ⟨c, hl, -⟩ := getAt_cons_dict_ok hx
    cases p with
    | nil =>
      rw [prune_single_dict, setAt_cons_dict_override, setAt_cons_dict_override,
        Entries.lookup_erase_ne _ (Ne.symm hab)]
      cases setAt v true q (depth + 1) ((Entries.lookup b entries).getD (.dict [])) with
      | error m => rfl
      | ok w => simp [Except.map, Entries.erase_insert_comm w hab]
    | cons r rs =>
      simp only [prune_cons_dict, hl]
      rw [setAt_cons_dict_override, setAt_cons_dict_override,
        Entries.lookup_insert_ne _ _ (Ne.symm hab)]
      cases setAt v true q (depth + 1) ((Entries.lookup b entries).getD (.dict [])) with
      | error m => rfl
      | ok w =>
        simp [Except.map, Entries.lookup_insert_ne _ _ hab, hl,
          Entries.insert_comm _ _ hab (by simp [hl] : Entries.lookup a entries ≠ none)]
  | list items =>
    obtain ⟨i, c, hi, hc, -⟩ := getAt_cons_list_ok hx
    obtain ⟨l, hl⟩ := prune_list_is_list a p items
    cases hj : indexOf? b with
    | none =>
      -- the write cannot enter a list under a part that is no index
      rw [hl]
      simp [hj, Except.map]
    | some j =>
      rcases hsep with ha | hb | ⟨hij, hp⟩
      · rw [hi] at ha
        cases ha
      · rw [hj] at hb
        cases hb
      · obtain ⟨r, rs, rfl⟩ := List.exists_cons_of_ne_nil hp
        have hij' : i ≠ j := fun h => hij (by rw [hi, hj, h])
        cases hcj : items[j]? with
        | none => simp [hi, hc, hj, hcj, List.getElem?_set_ne hij', Except.map]
        | some cj =>
          cases hw : setAt v true q (depth + 1) cj with
          | error m => simp [hi, hc, hj, hcj, hw, List.getElem?_set_ne hij', Except.map]
          | ok w =>
            simp [hi, hc, hj, hcj, hw, List.getElem?_set_ne hij',
              List.getElem?_set_ne (Ne.symm hij'), Except.map, List.set_comm _ _ hij']

/-- A removal along `c ++ rest`, where `c` leads to `t`, is the removal along `rest` in `t`, put
back at `c`. -/
theorem setAt_prune_append : ∀ (c : List String) {rest : List String} {depth : Nat}
    {e t : Element}, rest ≠ [] → getAt c depth e = .ok t →
      setAt (prune rest t) true c depth e = .ok (prune (c ++ rest) e)
  | [], rest, depth, e, t, _, h => by
    simp only [getAt_nil, Except.ok.injEq] at h
    subst h
    rfl
  | a :: c, rest, depth, e, t, hrest, h => by
    obtain ⟨r, rs, hrs⟩ := List.exists_cons_of_ne_nil (by simp [hrest] : c ++ rest ≠ [])
    cases e with
    | scalar _ => simp at h
    | dict entries =>
      obtain ⟨child, hl, h'⟩ := getAt_cons_dict_ok h
      rw [setAt_cons_dict_override, hl, Option.getD_some, setAt_prune_append c hrest h',
        List.cons_append, hrs]
      simp [hl, Except.map]
    | list items =>
      obtain ⟨i, child, hi, hc, h'⟩ := getAt_cons_list_ok h
      rw [setAt_cons_list, hi]
      simp only [hc]
      rw [setAt_prune_append c hrest h', List.cons_append, hrs]
      simp [hi, hc, Except.map]

/-- Removing the field and then writing at the target, for walks that part after `c`: the write
into the container there, with the field's entry pruned, put back at `c`. -/
theorem setAt_prune_split (v : Element) {c : List String} {a b : String} {p q : List String}
    {d t x : Element} (hab : a ≠ b)
    (hsep : indexOf? a = none ∨ indexOf? b = none ∨ (indexOf? a ≠ indexOf? b ∧ p ≠ []))
    (ht : getAt c 0 d = .ok t) (hx : getAt (a :: p) c.length t = .ok x) :
    setAt v true (c ++ b :: q) 0 (prune (c ++ a :: p) d) =
      (setAt v true (b :: q) c.length t).bind fun t₁ => setAt (prune (a :: p) t₁) true c 0 d := by
  have hpruned := setAt_prune_append c (List.cons_ne_nil a p) ht
  rw [setAt_append v c (getAt_setAt _ c 0 d _ hpruned), Nat.zero_add,
    setAt_prune_of_parted v hab hsep hx]
  cases setAt v true (b :: q) c.length t with
  | error m => rfl
  | ok t₁ => exact setAt_setAt _ _ true c 0 d _ hpruned

end Element

namespace Run

/-- A write through the store that fails is a failure of the run, at the path written. -/
theorem write_of_set_error {p : FieldPath} {v : Node} {override : Bool} {doc : Node}
    {s s' : Store} {m : PathMiss} (h : Store.set p v override doc s = .error m s') :
    Run.write p v override doc s = .error (p.missing m) s' := by
  delta Run.write EStateM.adaptExcept
  rw [h]

end Run

namespace Action

/-- A copy processor whose field is missing passes over it, or fails, before changing
anything. -/
theorem apply_copy_of_missing {field target : FieldPath} {doc : Node}
    {ignoreEmpty override remove : Bool} {s : Store} {miss : PathMiss}
    (hf : s.get field doc = .error miss) :
    (Action.copy field target ignoreEmpty override remove).apply doc s =
      if ignoreEmpty then .ok () s else .error (field.missing miss) s := by
  delta Action.apply
  dsimp only
  rw [Run.bind_of_ok (Run.find_eq field doc s), hf]
  cases ignoreEmpty <;> rfl

/-- A copy processor that removes its field and finds it: it passes over an empty value where
empty values are ignored, and over a target that is there without `override`; otherwise it
writes the value at the target, then removes the field. -/
theorem apply_copy_of_found {field target : FieldPath} {doc value : Node}
    {ignoreEmpty override : Bool} {s : Store} (hf : s.get field doc = .ok value) :
    (Action.copy field target ignoreEmpty override true).apply doc s =
      if ignoreEmpty && decide (s.scalarOf? value = some .null ∨ s.scalarOf? value = some (.str ""))
      then .ok () s
      else if !override && (s.get target doc).isOk then .ok () s
      else (Run.write target value true doc >>= fun _ => Run.erase field doc) s := by
  delta Action.apply
  dsimp only
  rw [Run.bind_of_ok (Run.find_eq field doc s), hf]
  dsimp only
  rw [Run.bind_of_ok (Run.isEmptyValue_eq value s)]
  split
  · rfl
  · cases override
    · -- without `override` the target is probed first
      simp only [Bool.not_false, if_true]
      rw [Run.bind_of_ok (Run.find_eq target doc s)]
      cases s.get target doc with
      | ok _ => rfl
      | error _ => rfl
    · rfl

/-- A field action whose field is missing passes over it, or fails, before changing
anything. -/
theorem applyField_of_missing {s : Store} {a : Action Node} {f : FieldOptions} {doc : Node}
    {miss : PathMiss} (hf : s.get f.field doc = .error miss) :
    a.applyField f doc s = if f.ignoreMissing then .ok () s else .error (f.field.missing miss) s := by
  delta Action.applyField
  rw [Run.bind_of_ok (Run.find_eq f.field doc s), hf]
  cases f.ignoreMissing <;> rfl

/-- A field action with a target that removes its field and finds it: it computes the result,
writes it at the target, then removes the field. -/
theorem applyField_of_found {s : Store} {a : Action Node} {f : FieldOptions} {doc value : Node}
    {target : FieldPath} (hf : s.get f.field doc = .ok value) (ht : f.target = some target)
    (hrem : f.removeIfSuccessful = true) :
    a.applyField f doc s = (a.process value >>= fun r =>
      Run.write target r true doc >>= fun _ => Run.erase f.field doc) s := by
  delta Action.applyField
  rw [Run.bind_of_ok (Run.find_eq f.field doc s), hf]
  dsimp only
  rw [ht, hrem]
  rfl

end Action

namespace Store

variable {s : Store}

/-! ## Two children of one container -/

/-- Two entries under different keys: their nodes hold their trees, in cells apart from each
other and from the rest. -/
theorem HoldsEntries.focus₂ {a b : String} {xa xb : Element} {entries : List (String × Element)}
    {nodes : Entries Node} {cells : List Nat} (h : HoldsEntries s entries nodes cells)
    (hab : a ≠ b) (ha : Entries.lookup a entries = some xa)
    (hb : Entries.lookup b entries = some xb) :
    ∃ na ca nb cb others, Entries.lookup a nodes = some na ∧ Holds s xa na ca ∧
      Entries.lookup b nodes = some nb ∧ Holds s xb nb cb ∧ cells.Perm (ca ++ cb ++ others) := by
  obtain ⟨na, ca, oa, hna, hxa, hperm, ⟨others', herase, hperm'⟩, -⟩ := h.focus ha
  obtain ⟨nb, cb, ob, hnb, hxb, hperm'', -⟩ :=
    herase.focus (by rw [Entries.lookup_erase_ne _ (Ne.symm hab)]; exact hb)
  rw [Entries.lookup_erase_ne _ (Ne.symm hab)] at hnb
  refine ⟨na, ca, nb, cb, ob, hna, hxa, hnb, hxb, ?_⟩
  rw [List.append_assoc]
  exact hperm.trans (List.Perm.append_left ca (hperm'.symm.trans hperm''))

/-- Two items at different indices: their nodes hold them, in cells apart from each other and
from the rest. -/
theorem HoldsItems.focus₂ {i j : Nat} {xi xj : Element} {items : List Element}
    {nodes : List Node} {cells : List Nat} (h : HoldsItems s items nodes cells) (hij : i ≠ j)
    (hi : items[i]? = some xi) (hj : items[j]? = some xj) :
    ∃ ni ci nj cj others, nodes[i]? = some ni ∧ Holds s xi ni ci ∧
      nodes[j]? = some nj ∧ Holds s xj nj cj ∧ cells.Perm (ci ++ cj ++ others) := by
  obtain ⟨ni, ci, oi, hni, hxi, hperm, ⟨others', herase, hperm'⟩, -⟩ := h.focus hi
  -- without item `i`, item `j` is one place earlier if it came after it
  have hshift : ∀ {β : Type} (l : List β),
      (l.eraseIdx i)[if j < i then j else j - 1]? = l[j]? := by
    intro β l
    split
    · exact List.getElem?_eraseIdx_of_lt ‹_›
    · rw [List.getElem?_eraseIdx_of_ge (by omega), show j - 1 + 1 = j by omega]
  obtain ⟨nj, cj, oj, hnj, hxj, hperm'', -⟩ := herase.focus (by rw [hshift]; exact hj)
  rw [hshift] at hnj
  refine ⟨ni, ci, nj, cj, oj, hni, hxi, hnj, hxj, ?_⟩
  rw [List.append_assoc]
  exact hperm.trans (List.Perm.append_left ci (hperm'.symm.trans hperm''))

/-- Under two parts that name different children, the children of a container hold their trees
in cells apart from each other and from the container's own. -/
theorem Holds.children_apart {e : Element} {n na nb : Node} {cells : List Nat} {a b : String}
    (h : Holds s e n cells) (hab : a ≠ b)
    (hidx : indexOf? a = none ∨ indexOf? b = none ∨ indexOf? a ≠ indexOf? b)
    (ha : s.child? a n = some na) (hb : s.child? b n = some nb) :
    ∃ i xa ca xb cb others, n = .ref i ∧ Holds s xa na ca ∧ Holds s xb nb cb ∧
      cells.Perm (i :: (ca ++ cb ++ others)) := by
  cases e with
  | scalar _ =>
    rw [h.child?_of_scalar] at ha
    cases ha
  | dict entries =>
    obtain ⟨i, nodes, rest, rfl, hi, hentries, rfl⟩ := h
    rw [child?_of_dict hi] at ha hb
    -- the trees have the keys that the nodes have
    have hkey : ∀ {k nk}, Entries.lookup k nodes = some nk →
        ∃ xk, Entries.lookup k entries = some xk := fun {k nk} hk => by
      cases hl : Entries.lookup k entries with
      | none => rw [hentries.lookup_eq_none hl] at hk; cases hk
      | some xk => exact ⟨xk, rfl⟩
    obtain ⟨xa, hxa⟩ := hkey ha
    obtain ⟨xb, hxb⟩ := hkey hb
    obtain ⟨na', ca, nb', cb, o, hna, hca, hnb, hcb, hperm⟩ := hentries.focus₂ hab hxa hxb
    rw [ha, Option.some.injEq] at hna
    rw [hb, Option.some.injEq] at hnb
    subst hna hnb
    exact ⟨i, xa, ca, xb, cb, o, rfl, hca, hcb, hperm.cons i⟩
  | list items =>
    obtain ⟨i, nodes, rest, rfl, hi, hitems, rfl⟩ := h
    rw [child?_of_list hi] at ha hb
    obtain ⟨ia, hia, hna⟩ := Option.bind_eq_some_iff.1 ha
    obtain ⟨ib, hib, hnb⟩ := Option.bind_eq_some_iff.1 hb
    have hne : ia ≠ ib := by
      rintro rfl
      simp [hia, hib] at hidx
    -- the trees have the items that the nodes have
    have hitem : ∀ {k nk}, nodes[k]? = some nk → ∃ xk, items[k]? = some xk :=
      fun {k nk} hk => by
      have hlt := (List.getElem?_eq_some_iff.mp hk).1
      rw [hitems.length_eq] at hlt
      exact ⟨items[k], List.getElem?_eq_getElem hlt⟩
    obtain ⟨xa, hxa⟩ := hitem hna
    obtain ⟨xb, hxb⟩ := hitem hnb
    obtain ⟨na', ca, nb', cb, o, hna', hca, hnb', hcb, hperm⟩ := hitems.focus₂ hne hxa hxb
    rw [hna, Option.some.injEq] at hna'
    rw [hnb, Option.some.injEq] at hnb'
    subst hna' hnb'
    exact ⟨i, xa, ca, xb, cb, o, rfl, hca, hcb, hperm.cons i⟩

/-! ## The move at the container where the walks part -/

/-- Where the walks of the field `a :: p` and the target `b :: q` part at the container `nD`, met
once in the cells of the tree, every container on the target's walk lies outside the child `na`
under `a`, and outside the cells of the field. -/
theorem Holds.target_walk_beside_field {T x xa : Element} {nD m na : Node}
    {cT cx ca : List Nat} {a b : String} {p q : List String} {depth : Nat}
    (hT : Holds s T nD cT) (hone : ∀ j, cT.count j ≤ 1) (hab : a ≠ b)
    (hidx : indexOf? a = none ∨ indexOf? b = none ∨ indexOf? a ≠ indexOf? b)
    (hna : s.child? a nD = some na) (hca : Holds s xa na ca)
    (hm : s.getAt (a :: p) depth nD = .ok m) (hxm : Holds s x m cx) :
    ∀ k j, s.getAt ((b :: q).take k) depth nD = .ok (.ref j) → j ∉ ca ∧ j ∉ cx := by
  have hma : s.getAt [a] depth nD = .ok na := by rw [getAt_cons_some hna]; rfl
  have hxa : ∀ j, cx.count j ≤ ca.count j :=
    hca.count_le_of_getAt (by rwa [getAt_cons_some hna] at hm) hxm
  intro k j hj
  cases k with
  | zero =>
    -- the container itself, passed on the way to both
    have hj₀ : s.getAt [] depth nD = .ok (.ref j) := by simpa using hj
    exact ⟨hT.not_mem_of_passed hma hca (by simp)
        (show s.getAt ([a].take 0) depth nD = _ from hj₀) (hone j),
      hT.not_mem_of_passed hm hxm (by simp)
        (show s.getAt ((a :: p).take 0) depth nD = _ from hj₀) (hone j)⟩
  | succ k =>
    -- a container below the child under `b`, whose cells are apart from those under `a`
    cases hb : s.child? b nD with
    | none => rw [List.take_succ_cons, getAt_cons_none hb] at hj; cases hj
    | some nb =>
      rw [getAt_take_succ_cons hb] at hj
      obtain ⟨i, xa', ca', xb, cb, o, rfl, hca', hcb, hperm⟩ := hT.children_apart hab hidx hna hb
      rw [Holds.cells_eq hca' hca] at hperm
      have h₁ := hperm.count_eq j
      have h₂ := List.count_pos_iff.2 (hcb.mem_of_getAt hj)
      have h₃ := hone j
      simp only [List.count_cons, List.count_append] at h₁
      have h₄ := hxa j
      refine ⟨fun hja => ?_, fun hjx => ?_⟩
      · have := List.count_pos_iff.2 hja
        omega
      · have := List.count_pos_iff.2 hjx
        omega

/-- A write that keeps the child `na` under `a`, and every cell below it, keeps the walk to the
container of a field below `a`. -/
theorem getAt_init_kept {s₁ : Store} {xa : Element} {nD na : Node} {ca : List Nat} {a last : String}
    {p init : List String} {depth : Nat} (hna : s.child? a nD = some na) (hca : Holds s xa na ca)
    (hca₁ : ∀ j ∈ ca, s₁.read? j = s.read? j) (hna₁ : s₁.child? a nD = some na)
    (hsplit : a :: p = init ++ [last]) : s₁.getAt init depth nD = s.getAt init depth nD := by
  cases init with
  | nil => rfl
  | cons a' init' =>
    obtain ⟨rfl, -⟩ := List.cons.inj hsplit
    rw [getAt_cons_some hna₁, getAt_cons_some hna]
    exact hca.getAt_frame hca₁ init' (depth + 1)

/-- After a write of a value in the cells `cr` that meets no old cell more often than the tree
and the value together, the container of the field `a :: p` is met once in the tree written:
it is passed on the way to the field, so it is not among the value's cells. -/
theorem Holds.count_field_container {T x : Element} {nD m : Node} {cT cx cr cT₁ : List Nat}
    {a last : String} {p init : List String} {depth i : Nat} (hT : Holds s T nD cT)
    (hone : ∀ j, cT.count j ≤ 1) (hm : s.getAt (a :: p) depth nD = .ok m) (hxm : Holds s x m cx)
    (hcr : ∀ j ∈ cr, j ∈ cT → j ∈ cx)
    (hE : ∀ j < s.cells.size, cT₁.count j ≤ cr.count j + cT.count j)
    (hsplit : a :: p = init ++ [last]) (hi : s.getAt init depth nD = .ok (.ref i)) :
    cT₁.count i ≤ 1 := by
  have hk : init.length < (a :: p).length := by rw [hsplit]; simp
  have hnotcx : i ∉ cx := hT.not_mem_of_passed hm hxm hk
    (by rw [hsplit, List.take_left]; exact hi) (hone i)
  have hnotcr : i ∉ cr := fun hir => hnotcx (hcr i hir (hT.mem_of_getAt hi))
  have h₁ := hE i (hT.lt_size i (hT.mem_of_getAt hi))
  rw [List.count_eq_zero.2 hnotcr, Nat.zero_add] at h₁
  exact Nat.le_trans h₁ (hone i)

/-- The move at the container `nD` where the walks of the field and the target part: the field
is `a :: p` below it, holding `x` at node `m`, and the target is `b :: q`. The value written is
node `r`, holding `y` in cells that, where they are the container's, are the field's. The write
into the store then succeeds as the write into the tree does, the removal after it takes the
field out of the tree written, and the store holds the result; the older cells that change are
the container's. -/
theorem Holds.move_at {T T₁ x y : Element} {nD m r : Node} {cT cx cr : List Nat} {a b : String}
    {p q : List String} {depth : Nat} (hT : Holds s T nD cT) (hnd : cT.Nodup) (hab : a ≠ b)
    (hsep : indexOf? a = none ∨ indexOf? b = none ∨ (indexOf? a ≠ indexOf? b ∧ p ≠ []))
    (hx : Element.getAt (a :: p) depth T = .ok x) (hm : s.getAt (a :: p) depth nD = .ok m)
    (hxm : Holds s x m cx) (hv : Holds s y r cr) (hcr : ∀ j ∈ cr, j ∈ cT → j ∈ cx)
    (hset : Element.setAt y true (b :: q) depth T = .ok T₁) :
    ∃ s₁ s₂ cT₂, Store.setAt r true (b :: q) depth nD s = .ok () s₁ ∧
      s₁.deleteAt (a :: p) depth nD = .ok s₂ ∧ Holds s₂ (Element.prune (a :: p) T₁) nD cT₂ ∧
      (∀ j < s.cells.size, s₁.read? j ≠ s.read? j → j ∈ cT) ∧
      ∀ j < s.cells.size, s₂.read? j ≠ s.read? j → j ∈ cT := by
  have hidx : indexOf? a = none ∨ indexOf? b = none ∨ indexOf? a ≠ indexOf? b := by
    rcases hsep with h | h | ⟨h, -⟩
    · exact .inl h
    · exact .inr (.inl h)
    · exact .inr (.inr h)
  have hone := List.nodup_iff_count.1 hnd
  -- the child under `a`, and the field below it
  obtain ⟨na, hna⟩ : ∃ na, s.child? a nD = some na := by
    cases hc : s.child? a nD with
    | none => rw [getAt_cons_none hc] at hm; cases hm
    | some na => exact ⟨na, rfl⟩
  have hma : s.getAt [a] depth nD = .ok na := by rw [getAt_cons_some hna]; rfl
  obtain ⟨xa, ca, -, hca⟩ := hT.holds_of_getAt hma
  have hside : ∀ k j, s.getAt ((b :: q).take k) depth nD = .ok (.ref j) → j ∉ ca ∧ j ∉ cx :=
    hT.target_walk_beside_field hone hab hidx hna hca hm hxm
  -- the write changes only containers on the target's walk
  obtain ⟨s₁, cT₁, hstore, hT₁, -, hD, hE, hkept⟩ := Holds.setAt (b :: q) depth (by simp) hv hT
    hset fun k _ j hj => ⟨hone j, fun hjr => (hside k j hj).2 (hcr j hjr (hT.mem_of_getAt hj))⟩
  have hch₁ : ∀ j < s.cells.size, s₁.read? j ≠ s.read? j → j ∈ cT := fun j hj hne => by
    obtain ⟨k, -, hget⟩ := hD j hj hne
    exact hT.mem_of_getAt hget
  -- so the child under `a` is untouched, and the removal finds the field's container where it was
  have hca₁ : ∀ j ∈ ca, s₁.read? j = s.read? j := fun j hj =>
    Classical.byContradiction fun hne => by
      obtain ⟨k, -, hget⟩ := hD j (hca.lt_size j hj) hne
      exact (hside k j hget).1 hj
  obtain ⟨init, last, hsplit⟩ : ∃ init last, a :: p = init ++ [last] :=
    ⟨_, _, (List.dropLast_concat_getLast (List.cons_ne_nil a p)).symm⟩
  have hinit : s₁.getAt init depth nD = s.getAt init depth nD :=
    getAt_init_kept hna hca hca₁ ((hkept a b rfl hab hidx).trans hna) hsplit
  -- the removal from the tree written
  have hdel := Element.deleteAt_eq_prune_of_getAt
    ((Element.getAt_setAt_of_parted y true hab hidx hset).trans hx)
  rw [hsplit] at hdel
  obtain ⟨s₂, cT₂, hdel_store, hT₂, -, hch⟩ := hT₁.deleteAt hdel fun i hi =>
    hT.count_field_container hone hm hxm hcr hE hsplit (by rwa [hinit] at hi)
  refine ⟨s₁, s₂, cT₂, hstore, by rw [hsplit]; exact hdel_store, by rw [hsplit]; exact hT₂,
    hch₁, fun j hj hne => ?_⟩
  by_cases h₁ : s₁.read? j = s.read? j
  · have h₂ := hch j (by rw [h₁]; exact hne)
    rw [hinit] at h₂
    exact hT.mem_of_getAt h₂
  · exact hch₁ j hj h₁

/-- The move in a document that is a tree, for a field `c ++ a :: p` and a target `c ++ b :: q`
that part after `c`. Where writing the value into the tree with the field removed gives `d'`,
the store writes it and removes the field, and then holds `d'`; where that write fails, the
write through the store fails too and leaves the store as it was. -/
theorem Holds.move {d x y : Element} {doc m r : Node} {cells cx cr : List Nat}
    {c : List String} {a b : String} {p q : List String}
    (h : Holds s d doc cells) (hnd : cells.Nodup) (hab : a ≠ b)
    (hsep : indexOf? a = none ∨ indexOf? b = none ∨ (indexOf? a ≠ indexOf? b ∧ p ≠ []))
    (hx : Element.getAt (c ++ a :: p) 0 d = .ok x) (hm : s.getAt (c ++ a :: p) 0 doc = .ok m)
    (hxm : Holds s x m cx) (hv : Holds s y r cr) (hcr : ∀ j ∈ cr, j ∈ cells → j ∈ cx) :
    (∀ d', Element.setAt y true (c ++ b :: q) 0 (Element.prune (c ++ a :: p) d) = .ok d' →
      ∃ s₁ s₂ cells', Store.setAt r true (c ++ b :: q) 0 doc s = .ok () s₁ ∧
        s₁.deleteAt (c ++ a :: p) 0 doc = .ok s₂ ∧ Holds s₂ d' doc cells') ∧
    (∀ miss, Element.setAt y true (c ++ b :: q) 0 (Element.prune (c ++ a :: p) d) = .error miss →
      ∃ miss', Store.setAt r true (c ++ b :: q) 0 doc s = .error miss' s) := by
  -- the container where the walks part, and the rest of the document around it
  obtain ⟨t, ht, hxt⟩ : ∃ t, Element.getAt c 0 d = .ok t ∧
      Element.getAt (a :: p) c.length t = .ok x := by
    rw [Element.getAt_append] at hx
    cases ht : Element.getAt c 0 d with
    | error _ => rw [ht] at hx; cases hx
    | ok t => rw [ht] at hx; exact ⟨t, rfl, by simpa [Except.bind] using hx⟩
  obtain ⟨nD, cT, oc, hnD, hT, hperm, hpassed, hreplace⟩ := Holds.focus c 0 h ht
  have hmD : s.getAt (a :: p) c.length nD = .ok m := by
    rw [Store.getAt_append, hnD] at hm
    simpa [Except.bind] using hm
  have hndT : cT.Nodup := (List.nodup_append.1 (hperm.nodup_iff.1 hnd)).1
  have hdisj : ∀ j ∈ cT, j ∉ oc := fun j hjT hjo => by
    have h₁ := hperm.count_eq j
    have h₂ := List.nodup_iff_count.1 hnd j
    have h₃ := List.count_pos_iff.2 hjT
    have h₄ := List.count_pos_iff.2 hjo
    rw [List.count_append] at h₁
    omega
  have hwrite : Store.setAt r true (c ++ b :: q) 0 doc s =
      Store.setAt r true (b :: q) c.length nD s := by
    rw [setAt_append r (List.cons_ne_nil b q) c 0 hnD, Nat.zero_add]
  rw [Element.setAt_prune_split y hab hsep ht hxt]
  cases hset : Element.setAt y true (b :: q) c.length t with
  | error miss₀ =>
    refine ⟨fun d' hd' => by simp [Except.bind] at hd', fun _ _ => ?_⟩
    obtain ⟨miss', hs⟩ := Holds.setAt_error (b :: q) c.length hT hset
    exact ⟨miss', hwrite.trans hs⟩
  | ok t₁ =>
    obtain ⟨s₁, s₂, cT₂, hs₁, hs₂, hT₂, hch₁, hch₂⟩ := hT.move_at hndT hab hsep hxt hmD hxm hv
      (fun j hj hjT => hcr j hj (hperm.symm.subset (List.mem_append_left _ hjT))) hset
    -- outside the container the document is untouched
    have hlt : ∀ j ∈ oc, j < s.cells.size := fun j hj =>
      h.lt_size j (hperm.symm.subset (List.mem_append_right _ hj))
    obtain ⟨d'', cells', hd'', hheld, -⟩ := hreplace (fun j hj =>
      Classical.byContradiction fun hne => hdisj j (hch₂ j (hlt j hj) hne) hj) hT₂
    have hread : s₁.getAt c 0 doc = .ok nD := by
      rw [getAt_congr c 0 doc fun k hk j hj => Classical.byContradiction fun hne =>
        hdisj j (hch₁ j (hlt j (hpassed k hk j hj)) hne) (hpassed k hk j hj)]
      exact hnD
    refine ⟨fun d' hd' => ?_, fun miss hmiss => ?_⟩
    · rw [Except.bind, hd''] at hd'
      cases hd'
      exact ⟨s₁, s₂, cells', hwrite.trans hs₁,
        by rw [deleteAt_append (List.cons_ne_nil a p) c 0 hread, Nat.zero_add]; exact hs₂, hheld⟩
    · rw [Except.bind, hd''] at hmiss
      cases hmiss

/-! ## Moves through the store -/

/-- A node holds an empty value, null or the empty text, exactly when the tree it holds is
one. -/
theorem Holds.scalarOf?_empty_iff {x : Element} {m : Node} {c : List Nat} (h : Holds s x m c) :
    (s.scalarOf? m = some .null ∨ s.scalarOf? m = some (.str "")) ↔
      (x = .scalar .null ∨ x = .scalar (.str "")) := by
  cases x with
  | scalar v =>
    rcases h with ⟨rfl, -⟩ | ⟨i, f, rfl, hi, rfl, -, -⟩
    · simp [scalarOf?]
    · simp [scalarOf?, hi]
  | list items =>
    obtain ⟨i, nodes, rest, rfl, hi, -⟩ := h
    simp [scalarOf?, hi]
  | dict entries =>
    obtain ⟨i, nodes, rest, rfl, hi, -⟩ := h
    simp [scalarOf?, hi]

variable {d : Element} {doc : Node} {cells : List Nat}

/-- How moving the tree `y` from `field` to `target` of the document `d`, held at `doc` in the
containers `cells`, may end, as writing `y` at `target` into `d` with `field` removed says: a
failure exactly where that write fails, with the store still holding `d` in the same
containers; otherwise success, with the store holding the written document, in which `target`
reads `y`. -/
def MovedTo (d : Element) (doc : Node) (cells : List Nat) (field target : FieldPath)
    (y : Element) : EStateM.Result Error Store Unit → Prop
  | .ok _ s' => ∃ d' cells', Element.set target y true (Element.prune field.parts d) = .ok d' ∧
      Holds s' d' doc cells' ∧ d'.get target = .ok y
  | .error _ s' =>
      (∃ miss, Element.set target y true (Element.prune field.parts d) = .error miss) ∧
        Holds s' d doc cells

/-- Writing a value at a target and then removing a field apart from it, in a document that is a
tree: the value is node `r`, holding `y` in cells that, where they are the document's, are the
field's. Where writing `y` into the tree with the field removed gives `d'`, the two steps succeed
and the store holds `d'`; where that write fails, the first step fails and leaves the store as it
was. -/
theorem Holds.write_erase (h : Holds s d doc cells) (hnd : cells.Nodup) {field target : FieldPath}
    (hapart : Element.partsApart field.parts target.parts = true) {x y : Element} {m r : Node}
    {cx cr : List Nat} (hx : d.get field = .ok x) (hm : s.get field doc = .ok m)
    (hxm : Holds s x m cx) (hv : Holds s y r cr) (hcr : ∀ j ∈ cr, j ∈ cells → j ∈ cx) :
    (∀ d', Element.set target y true (Element.prune field.parts d) = .ok d' →
      ∃ s' cells', (Run.write target r true doc >>= fun _ => Run.erase field doc) s = .ok () s' ∧
        Holds s' d' doc cells') ∧
    (∀ miss, Element.set target y true (Element.prune field.parts d) = .error miss →
      ∃ e, (Run.write target r true doc >>= fun _ => Run.erase field doc) s = .error e s) := by
  obtain ⟨c, a, b, p, q, hfield, htarget, hab, hsep⟩ := Element.exists_split_of_partsApart hapart
  have hsep' : indexOf? a = none ∨ indexOf? b = none ∨ (indexOf? a ≠ indexOf? b ∧ p ≠ []) := by
    rcases hsep with h | h | ⟨h, hp, -⟩
    · exact .inl h
    · exact .inr (.inl h)
    · exact .inr (.inr ⟨h, hp⟩)
  rw [Element.get, hfield] at hx
  rw [Store.get, hfield] at hm
  obtain ⟨hok, herr⟩ := h.move hnd hab hsep' hx hm hxm hv hcr
  rw [Element.set, htarget, hfield]
  refine ⟨fun d' hd' => ?_, fun miss hmiss => ?_⟩
  · obtain ⟨s₁, s₂, cells', hs₁, hs₂, hheld⟩ := hok d' hd'
    refine ⟨s₂, cells', ?_, hheld⟩
    rw [Run.bind_of_ok (Run.write_of_set (by rw [Store.set, htarget]; exact hs₁))]
    exact Run.erase_of_ok (by rw [Store.delete, hfield]; exact hs₂)
  · obtain ⟨miss', hs⟩ := herr miss hmiss
    exact ⟨_, Run.bind_of_error (Run.write_of_set_error (by rw [Store.set, htarget]; exact hs))⟩

/-- Writing a value at a target and then removing a field apart from it moves the value, as
`MovedTo` says. -/
theorem Holds.moved_of_write_erase (h : Holds s d doc cells) (hnd : cells.Nodup)
    {field target : FieldPath} (hapart : Element.partsApart field.parts target.parts = true)
    {x y : Element} {m r : Node} {cx cr : List Nat} (hx : d.get field = .ok x)
    (hm : s.get field doc = .ok m) (hxm : Holds s x m cx) (hv : Holds s y r cr)
    (hcr : ∀ j ∈ cr, j ∈ cells → j ∈ cx) :
    MovedTo d doc cells field target y
      ((Run.write target r true doc >>= fun _ => Run.erase field doc) s) := by
  obtain ⟨hok, herr⟩ := h.write_erase hnd hapart hx hm hxm hv hcr
  cases hset : Element.set target y true (Element.prune field.parts d) with
  | ok d' =>
    obtain ⟨s', cells', hrun, hheld⟩ := hok d' hset
    rw [hrun]
    exact ⟨d', cells', hset, hheld, Element.getAt_setAt _ target.parts 0 _ d' hset⟩
  | error miss =>
    obtain ⟨e, hrun⟩ := herr miss hset
    rw [hrun]
    exact ⟨⟨miss, hset⟩, h⟩

/-- A copy processor that removes its field, on a document that is a tree, with a field and a
target that are apart. A missing field is passed over, or is a failure. An empty value is passed
over where empty values are ignored, and a target that is there is kept without `override`.
Otherwise the value is moved: where writing it into the tree with the field removed gives `d'`,
the store holds `d'`, in which the target reads the value; where that write fails, the processor
fails and leaves the store as it was. -/
theorem copy_moves_value (h : Holds s d doc cells) (hnd : cells.Nodup) {field target : FieldPath}
    (hapart : Element.partsApart field.parts target.parts = true) (ignoreEmpty override : Bool) :
    (∀ miss, d.get field = .error miss →
      (Action.copy field target ignoreEmpty override true).apply doc s =
        if ignoreEmpty then .ok () s else .error (field.missing miss) s) ∧
    (∀ x, d.get field = .ok x →
      (ignoreEmpty = true ∧ (x = .scalar .null ∨ x = .scalar (.str ""))) ∨
        (override = false ∧ ∃ t, d.get target = .ok t) →
      (Action.copy field target ignoreEmpty override true).apply doc s = .ok () s) ∧
    (∀ x, d.get field = .ok x →
      ¬ (ignoreEmpty = true ∧ (x = .scalar .null ∨ x = .scalar (.str ""))) →
      (override = true ∨ ∀ t, d.get target ≠ .ok t) →
      MovedTo d doc cells field target x
        ((Action.copy field target ignoreEmpty override true).apply doc s)) := by
  refine ⟨fun miss hmiss => Action.apply_copy_of_missing (h.get_error hmiss), ?_, ?_⟩
  · rintro x hx (⟨rfl, hempty⟩ | ⟨rfl, t, ht⟩)
    · -- an empty value, passed over
      obtain ⟨m, hm⟩ := h.get_ok hx
      obtain ⟨x', cx, hx', hxm⟩ := h.holds_of_getAt hm
      rw [Element.get, hx', Except.ok.injEq] at hx
      subst hx
      rw [Action.apply_copy_of_found hm, if_pos (by simpa using (hxm.scalarOf?_empty_iff).2 hempty)]
    · -- a target that is there, kept
      obtain ⟨m, hm⟩ := h.get_ok hx
      obtain ⟨n, hn⟩ := h.get_ok ht
      rw [Action.apply_copy_of_found hm]
      split
      · rfl
      · rw [if_pos (by rw [hn]; rfl)]
  · intro x hx hne hprobe
    obtain ⟨m, hm⟩ := h.get_ok hx
    obtain ⟨x', cx, hx', hxm⟩ := h.holds_of_getAt hm
    rw [Element.get, hx', Except.ok.injEq] at hx
    subst hx
    -- neither test passes the value over
    have hkeep : (ignoreEmpty && decide (s.scalarOf? m = some .null ∨
        s.scalarOf? m = some (.str ""))) = false := by
      cases ignoreEmpty
      · rfl
      · simpa [hxm.scalarOf?_empty_iff] using hne
    have hwrite : (!override && (s.get target doc).isOk) = false := by
      rcases hprobe with rfl | hnone
      · rfl
      · cases hn : s.get target doc with
        | error _ => cases override <;> rfl
        | ok n =>
          obtain ⟨t, -, ht, -⟩ := h.holds_of_getAt hn
          exact absurd ht (hnone t)
    rw [Action.apply_copy_of_found hm, hkeep, hwrite]
    exact h.moved_of_write_erase hnd hapart hx' hm hxm hxm fun j hj _ => hj

/-- A field action with a target that removes its field, on a document that is a tree, with a
field and a target that are apart. A missing field is passed over, or is a failure. A
computation that fails leaves a store that still holds the document. A computation that gives a
node holding `y` moves `y`, as `MovedTo` says, in the store the computation left. -/
theorem apply_field_moves_value (h : Holds s d doc cells) (hnd : cells.Nodup) (a : Action Node)
    {f : FieldOptions} {target : FieldPath} (ht : f.target = some target)
    (hrem : f.removeIfSuccessful = true)
    (hapart : Element.partsApart f.field.parts target.parts = true) :
    (∀ miss, d.get f.field = .error miss →
      a.applyField f doc s = if f.ignoreMissing then .ok () s else .error (f.field.missing miss) s) ∧
    (∀ x, d.get f.field = .ok x → ∃ m, s.get f.field doc = .ok m ∧
      (∀ e s₁, a.process m s = .error e s₁ →
        a.applyField f doc s = .error e s₁ ∧ Holds s₁ d doc cells) ∧
      (∀ r s₁, a.process m s = .ok r s₁ → ∃ y cr, Holds s₁ y r cr ∧
        MovedTo d doc cells f.field target y (a.applyField f doc s))) := by
  refine ⟨fun miss hmiss => Action.applyField_of_missing (h.get_error hmiss), fun x hx => ?_⟩
  obtain ⟨m, hm⟩ := h.get_ok hx
  obtain ⟨x', cx, hx', hxm⟩ := h.holds_of_getAt hm
  have hyields := a.process_yields hxm
  refine ⟨m, hm, fun e s₁ hp => ?_, fun r s₁ hp => ?_⟩
  · -- the computation fails: nothing is written
    unfold Yields at hyields
    rw [hp] at hyields
    rw [Action.applyField_of_found hm ht hrem, Run.bind_of_error hp]
    exact ⟨rfl, h.extend hyields⟩
  · unfold Yields at hyields
    rw [hp] at hyields
    obtain ⟨hext, y, cr, hy, hcr⟩ := hyields
    refine ⟨y, cr, hy, ?_⟩
    rw [Action.applyField_of_found hm ht hrem, Run.bind_of_ok hp]
    -- the store the computation left holds the document and the field's value as before, and
    -- the result's containers that are the document's are the field's
    have hm₁ : s₁.get f.field doc = .ok m := by
      rw [Store.get, h.getAt_frame fun j hj => hext.2 j (h.lt_size j hj)]
      exact hm
    refine (h.extend hext).moved_of_write_erase hnd hapart hx' hm₁ (hxm.extend hext) hy ?_
    intro j hj hjd
    exact (hcr j hj).resolve_right (Nat.not_le.2 (h.lt_size j hjd))

/-- Moving a value to a target apart from its field, on a document that is a tree, by a copy
processor that removes its field or by a field action with a target that removes its field. The
copy processor, where it neither passes over an empty value nor keeps a target that is there,
moves the field's value. The field action fails, with a store that still holds the document,
where its computation fails; otherwise it moves the tree its computation gives. Each move ends
as `MovedTo` says: as removing the field and then writing the value at the target. -/
theorem move_to_target_is_atomic (h : Holds s d doc cells) (hnd : cells.Nodup)
    {field target : FieldPath} (hapart : Element.partsApart field.parts target.parts = true) :
    (∀ ignoreEmpty override x, d.get field = .ok x →
      ¬ (ignoreEmpty = true ∧ (x = .scalar .null ∨ x = .scalar (.str ""))) →
      (override = true ∨ ∀ t, d.get target ≠ .ok t) →
      MovedTo d doc cells field target x
        ((Action.copy field target ignoreEmpty override true).apply doc s)) ∧
    (∀ (a : Action Node) (f : FieldOptions), f.field = field → f.target = some target →
      f.removeIfSuccessful = true → ∀ x, d.get field = .ok x → ∃ m, s.get field doc = .ok m ∧
        (∀ e s₁, a.process m s = .error e s₁ →
          a.applyField f doc s = .error e s₁ ∧ Holds s₁ d doc cells) ∧
        (∀ r s₁, a.process m s = .ok r s₁ → ∃ y cr, Holds s₁ y r cr ∧
          MovedTo d doc cells field target y (a.applyField f doc s))) := by
  refine ⟨fun ignoreEmpty override x hx hne hprobe => ?_, fun a f hf ht hrem x hx => ?_⟩
  · exact (copy_moves_value h hnd hapart ignoreEmpty override).2.2 x hx hne hprobe
  · subst hf
    exact (apply_field_moves_value h hnd a ht hrem hapart).2 x hx

end Store

/-- The copy processor on `{"a": {"x": 1}, "b": {}}` as put into an empty store, moving `a.x`
to `b.y`: the move ends as removing `a.x` and then writing `1` at `b.y` says. -/
theorem move_to_target_on_installed_tree :
    ∃ cells, Store.MovedTo (.dict [("a", .dict [("x", .scalar (.int 1))]), ("b", .dict [])])
      (Store.empty.install (.dict [("a", .dict [("x", .scalar (.int 1))]), ("b", .dict [])])).1
      cells ⟨["a", "x"], by simp, by simp [isPathPart]⟩ ⟨["b", "y"], by simp, by simp [isPathPart]⟩
      (.scalar (.int 1))
      ((Action.copy ⟨["a", "x"], by simp, by simp [isPathPart]⟩
          ⟨["b", "y"], by simp, by simp [isPathPart]⟩ false true true).apply
        (Store.empty.install (.dict [("a", .dict [("x", .scalar (.int 1))]), ("b", .dict [])])).1
        (Store.empty.install
          (.dict [("a", .dict [("x", .scalar (.int 1))]), ("b", .dict [])])).2) := by
  obtain ⟨-, cells, h, hnd, -⟩ := Store.install_holds
    (.dict [("a", .dict [("x", .scalar (.int 1))]), ("b", .dict [])]) Store.empty
  exact ⟨cells, (Store.move_to_target_is_atomic h hnd (by decide)).1 false true _ rfl (by simp)
    (.inl rfl)⟩

/-- Copying `a` to `a.b` and removing `a` loses the value. From `{"a": {}}` the processor writes
the dictionary of `a` into itself, then removes `a`, and leaves `{}`; removing `a` and then
writing its value at `a.b` gives `{"a": {"b": {}}}`. The field and the target are not apart. -/
theorem copy_into_own_field_loses_value :
    (∃ s', (Action.copy ⟨["a"], by simp, by simp [isPathPart]⟩
          ⟨["a", "b"], by simp, by simp [isPathPart]⟩ false true true).apply
        (Store.empty.install (.dict [("a", .dict [])])).1
        (Store.empty.install (.dict [("a", .dict [])])).2 = .ok () s' ∧
      s'.view (Store.empty.install (.dict [("a", .dict [])])).1 = (Element.dict []).toSnapshot) ∧
    Element.set ⟨["a", "b"], by simp, by simp [isPathPart]⟩ (.dict []) true
        (Element.prune ["a"] (.dict [("a", .dict [])])) =
      .ok (.dict [("a", .dict [("b", .dict [])])]) ∧
    Element.partsApart ["a"] ["a", "b"] = false :=
  ⟨⟨_, rfl, rfl⟩, rfl, by decide⟩

end Ingest
